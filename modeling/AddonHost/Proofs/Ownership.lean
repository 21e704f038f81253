import AddonHost.Proofs.Multiplexer.Owned
import AddonHost.Proofs.Session.Simulation

/-!
The ownership of wrapped handles.

`Reachable.ownership` says of every session that a run arrives at, whatever hosts and finalizers do
while a call is forwarded:

* a wrapped function or hook that resolves names an env that resolves and lists it once;
* an env that resolves lists functions and hooks that resolve and name it, and it is listed once, by
  one multiplexer;
* dropping a multiplexer, or creating another one under its name, takes away the envs that it lists
  and the functions and hooks created through them; every other handle resolves as before;
* what has stopped resolving never resolves again.

All of this is for as long as handles are not given out twice: there are `2 ^ 64` of them.
-/

namespace AddonHost

namespace Session

variable {s s' : Session}

/-- What a multiplexer lists is gone, and nothing else. -/
def Disowned (envs : List HandleId) (s s' : Session) : Prop :=
  (∀ handle, s'.wrapped.envs.entry? handle =
    (s.wrapped.envs.entry? handle).filter fun p => p.1 ∉ envs) ∧
  (∀ handle, s'.wrapped.functions.entry? handle =
    (s.wrapped.functions.entry? handle).filter fun p => p.2.env ∉ envs) ∧
  ∀ handle, s'.wrapped.hooks.entry? handle =
    (s.wrapped.hooks.entry? handle).filter fun p => p.2.env ∉ envs

theorem Reachable.owned (h : s.Reachable) (hids : s.ids.next ≤ 2 ^ 64) : s.multiplexers.Owned :=
  h.multiplexersRun.owned hids

/-- Handles that do not resolve any more do not resolve later in the run either. -/
theorem Reachable.fades (h : s.Reachable) (ho : s.Onward s') (hids : s'.ids.next ≤ 2 ^ 64) :
    s.multiplexers.Fades s'.multiplexers := by
  induction ho with
  | refl => exact .refl _
  | act a _ hidle ih => exact ih hids
  | @step u u' t hu hrest ht ih =>
    have hstep := (h.onward hu).multiplexersStep ht
    have hids' : u.ids.next ≤ 2 ^ 64 := le_trans hstep.nextId_le hids
    exact (ih hids').trans (hstep.fades ((h.onward hu).owned hids') hids)
  | @lose u i position hu ih =>
    have hstep := loseTask_multiplexersStep (s := u) i position
    have hids' : u.ids.next ≤ 2 ^ 64 := le_trans hstep.nextId_le hids
    exact (ih hids').trans (hstep.fades ((h.onward hu).owned hids') hids)

/-- A handle that was given out and does not resolve never resolves again. -/
theorem entry?_fades {α : Type} {r r' : Registry α} {n n' : ℕ} (h : r.Fades r' n)
    (hbelow : r.Below n) (hbelow' : r'.Below n') (hn : n ≤ n') (hids : n' ≤ 2 ^ 64) {id : HandleId}
    (hid : id.number < n) (hnone : r.entry? id = none) : r'.entry? id = none := by
  have hlive : r.live? id = none := by
    cases hlive : r.live? id with
    | none => rfl
    | some a => simp [hbelow.entry?_self (hn.trans hids) hlive] at hnone
  cases hentry : r'.entry? id with
  | none => rfl
  | some p =>
    obtain ⟨hlive', hvalue⟩ := (hbelow'.entry?_eq_some_iff hids).1 hentry
    have hp := (hbelow'.value_inj hids (Registry.live?_eq_some_iff.1 hlive').1
      (hid.trans_le hn)).1 hvalue
    rw [hp, h id hid hlive] at hlive'
    cases hlive'

/-- Erasing the envs of a multiplexer erases what it lists. -/
theorem disowned_of_owned {name : String} {m : MultiplexerHandle} (h : s.multiplexers.Owned)
    (hids : s.ids.next ≤ 2 ^ 64) (hm : s.names.multiplexers.get? name = some m)
    (hs' : s'.wrapped = s.multiplexers.eraseEnvsOf name) : Disowned m.envs s s' := by
  obtain ⟨hconsistent, herased, -⟩ := h.eraseEnvsOf hids name
  have henvs : s.multiplexers.envsOf name = m.envs := by
    simp [Multiplexers.envsOf, multiplexers, hm]
  rw [henvs] at herased
  refine ⟨fun handle => ?_, fun handle => ?_, fun handle => ?_⟩
  · rw [hs']
    have hlive (id : HandleId) : (s.multiplexers.eraseEnvsOf name).envs.live? id
        = (s.wrapped.envs.live? id).filter fun _ => id ∉ m.envs := by
      rw [show (s.multiplexers.eraseEnvsOf name).envs.live? id = _ from herased.envs id]
      by_cases hid : id ∈ m.envs
      · cases s.wrapped.envs.live? id <;> simp [hid]
      · rw [if_neg hid]
        cases hlive : s.wrapped.envs.live? id <;> simp [multiplexers, hid, hlive, Option.filter]
    exact h.wrapped.envs.entry?_filter hconsistent.envs hids hlive handle
  · rw [hs']
    exact h.wrapped.functions.entry?_filter hconsistent.functions hids herased.functions handle
  · rw [hs']
    exact h.wrapped.hooks.entry?_filter hconsistent.hooks hids herased.hooks handle

theorem wrapped_dropMultiplexer (s : Session) (name : String) :
    (s.dropMultiplexer name).session.wrapped = s.multiplexers.eraseEnvsOf name := by
  simp only [dropMultiplexer, eraseEnvs, Multiplexers.eraseEnvsOf, Multiplexers.envsOf]
  split
  · next hm => simp [multiplexers, hm, reply, give]
  · next m hm => simp [multiplexers, hm, reply, give]

theorem wrapped_createMultiplexer (s : Session) (name : String) (register fatal : Bool) :
    (s.createMultiplexer name register fatal).session.wrapped
      = s.multiplexers.eraseEnvsOf name := by
  simp only [createMultiplexer, eraseEnvs, Multiplexers.eraseEnvsOf, Multiplexers.envsOf]
  cases hm : s.names.multiplexers.get? name <;> simp [multiplexers, hm, reply, give]

/-- Whom wrapped handles belong to, in the course of a run. -/
theorem Reachable.ownership (h : s.Reachable) (hids : s.ids.next ≤ 2 ^ 64) :
    (∀ handle id f, s.wrapped.functions.entry? handle = some (id, f) →
      ∃ e, s.wrapped.envs.entry? f.env = some (f.env, e) ∧ e.functions.count id = 1) ∧
    (∀ handle id k, s.wrapped.hooks.entry? handle = some (id, k) →
      ∃ e, s.wrapped.envs.entry? k.env = some (k.env, e) ∧ e.hooks.count id = 1) ∧
    (∀ handle env e, s.wrapped.envs.entry? handle = some (env, e) →
      (∀ id ∈ e.functions, ∃ f, s.wrapped.functions.entry? id = some (id, f) ∧ f.env = env) ∧
      (∀ id ∈ e.hooks, ∃ k, s.wrapped.hooks.entry? id = some (id, k) ∧ k.env = env) ∧
      ∃ name m, s.names.multiplexers.get? name = some m ∧ m.envs.count env = 1 ∧
        ∀ name' m', s.names.multiplexers.get? name' = some m' → env ∈ m'.envs → name' = name) ∧
    (∀ name m, s.names.multiplexers.get? name = some m →
      (∀ env ∈ m.envs, ∃ e, s.wrapped.envs.entry? env = some (env, e)) ∧
      Disowned m.envs s (s.dropMultiplexer name).session ∧
      ∀ register fatal, Disowned m.envs s (s.createMultiplexer name register fatal).session) ∧
    ∀ s', s.Onward s' → s'.ids.next ≤ 2 ^ 64 → ∀ id : HandleId, id.number < s.ids.next →
      (s.wrapped.envs.entry? id = none → s'.wrapped.envs.entry? id = none) ∧
      (s.wrapped.functions.entry? id = none → s'.wrapped.functions.entry? id = none) ∧
      (s.wrapped.hooks.entry? id = none → s'.wrapped.hooks.entry? id = none) := by
  have howned := h.owned hids
  have hwrapped := howned.wrapped
  obtain ⟨owner, hlive, hlisted⟩ := howned.envs
  refine ⟨fun handle id f hf => ?_, fun handle id k hk => ?_, fun handle env e he => ?_,
    fun name m hm => ?_, fun s' ho hids' id hid => ?_⟩
  · obtain ⟨hf, -⟩ := (hwrapped.functions.entry?_eq_some_iff hids).1 hf
    obtain ⟨e, he, hcount⟩ := hwrapped.exists_env hf
    exact ⟨e, hwrapped.envs.entry?_self hids he, hcount⟩
  · obtain ⟨hk, -⟩ := (hwrapped.hooks.entry?_eq_some_iff hids).1 hk
    obtain ⟨e, he, hcount⟩ := hwrapped.exists_env_of_hook hk
    exact ⟨e, hwrapped.envs.entry?_self hids he, hcount⟩
  · obtain ⟨he, -⟩ := (hwrapped.envs.entry?_eq_some_iff hids).1 he
    refine ⟨fun id hmem => ?_, fun id hmem => ?_, ?_⟩
    · obtain ⟨f, hf, henv⟩ := Option.map_eq_some_iff.1 ((hwrapped.mem_functions_iff he).1 hmem)
      exact ⟨f, hwrapped.functions.entry?_self hids hf, henv⟩
    · obtain ⟨k, hk, henv⟩ := Option.map_eq_some_iff.1 ((hwrapped.mem_hooks_iff he).1 hmem)
      exact ⟨k, hwrapped.hooks.entry?_self hids hk, henv⟩
    · obtain ⟨name, hname⟩ := Option.isSome_iff_exists.1 ((hlive env).trans (by rw [he]; rfl))
      obtain ⟨envs, henvs, hcount⟩ := hlisted.owned env name hname
      obtain ⟨m, hm, rfl⟩ := Option.map_eq_some_iff.1 henvs
      refine ⟨name, m, hm, hcount, fun name' m' hm' hmem => ?_⟩
      have hlists : s.multiplexers.envLists name' = some m'.envs := by
        simp [Multiplexers.envLists, multiplexers, hm']
      have := hlisted.listed name' m'.envs hlists env hmem
      rw [hname] at this
      exact (Option.some.inj this).symm
  · refine ⟨fun env hmem => ?_, disowned_of_owned howned hids hm (wrapped_dropMultiplexer s name),
      fun register fatal =>
        disowned_of_owned howned hids hm (wrapped_createMultiplexer s name register fatal)⟩
    have hmem' : env ∈ s.multiplexers.envsOf name := by
      simpa [Multiplexers.envsOf, multiplexers, hm] using hmem
    obtain ⟨e, he⟩ := Option.isSome_iff_exists.1 ((howned.envsOf_live name).2 env hmem')
    exact ⟨e, hwrapped.envs.entry?_self hids he⟩
  · have hfades := h.fades ho hids'
    have hwrapped' := ((h.onward ho).owned hids').wrapped
    exact ⟨entry?_fades hfades.envs hwrapped.envs hwrapped'.envs hfades.nextId hids' hid,
      entry?_fades hfades.functions hwrapped.functions hwrapped'.functions hfades.nextId hids' hid,
      entry?_fades hfades.hooks hwrapped.hooks hwrapped'.hooks hfades.nextId hids' hid⟩

/-- A session in which a host drops a multiplexer and adds a cleanup hook through another one while
it creates a function. -/
def droppedInCreate : Session :=
  ((start [] none).performed?
    [.createHost "host" 0 [.createThreadsafeFunction, .addAsyncCleanupHook] [],
      .createMultiplexer "left" false false,
      .createMultiplexer "right" false false,
      .wrap "left" "host" (.word 16) "left env",
      .wrap "right" "host" (.word 32) "right env",
      .script (.engine 0 .createThreadsafeFunction)
        [.dropMultiplexer "right",
          .entry "left" .addAsyncCleanupHook
            { env := .named "left env", hook := true, out := some "hook" }],
      .entry "left" .createThreadsafeFunction
        { env := .named "left env", callJs := true, threads := .word 1, out := some "function" }]).get
    (by decide +kernel)

theorem ownership_droppedInCreate :
    (∃ e, droppedInCreate.wrapped.envs.entry? ⟨1⟩ = some (⟨1⟩, e) ∧ e.functions.count ⟨3⟩ = 1 ∧
      e.hooks.count ⟨4⟩ = 1) ∧
      droppedInCreate.wrapped.envs.entry? ⟨2⟩ = none := by
  have hreachable : droppedInCreate.Reachable :=
    (Reachable.start [] none).performed? (Option.some_get _).symm
  have hfunction : droppedInCreate.wrapped.functions.entry? ⟨3⟩
      = some (⟨3⟩, { raw := 28674, env := ⟨1⟩, host := 0 }) := by
    decide +kernel
  have hhook : droppedInCreate.wrapped.hooks.entry? ⟨4⟩
      = some (⟨4⟩, { raw := 32769, env := ⟨1⟩, host := 0 }) := by
    decide +kernel
  obtain ⟨hfunctions, hhooks, -⟩ := hreachable.ownership (by decide +kernel)
  obtain ⟨e, he, hcount⟩ := hfunctions _ _ _ hfunction
  obtain ⟨e', he', hcount'⟩ := hhooks _ _ _ hhook
  obtain ⟨-, rfl⟩ := Prod.mk.inj (Option.some.inj (he.symm.trans he'))
  exact ⟨⟨e, he, hcount, hcount'⟩, by decide +kernel⟩

end Session

end AddonHost
