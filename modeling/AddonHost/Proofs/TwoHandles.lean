import AddonHost.Proofs.Routing

/-!
Calls by two handles.

A call that references or unreferences a threadsafe function names an env and the function.  A
multiplexer resolves both of them, and either has a host of its own.  The call goes to the host of
the env, whatever the host of the function is:

* `Reachable.routing_envAndFunction`: the call ends at once, without a call of any entry, when the
  env or the function does not resolve, when one of the two hosts is gone, or when the host of the
  env does not provide the entry; any other call is passed on to the entry of the env's host, with
  both raw handles.

A function has the host of the env through which it was created (`Wrapped.Matched`), so a call that
names that env stays inside the host.  Nothing compares the two hosts of a call: `straying` is about
to give the raw function of one host to another one.
-/

namespace AddonHost

/-! ### Functions and the hosts of their envs -/

namespace Wrapped

variable {w w' : Wrapped} {n m : ℕ}

/-- Every function, whether or not it still resolves, has the host of the env through which it was
created; all envs were given out. -/
structure Matched (w : Wrapped) (n : ℕ) : Prop where
  envs : ∀ id e, w.envs.object? id = some e → id.number < n
  functions : ∀ id f, w.functions.object? id = some f →
    ∃ e, w.envs.object? f.env = some e ∧ e.host = f.host

/-- No env and no function is added, and none changes its host. -/
structure KeepsHosts (w w' : Wrapped) : Prop where
  envs : ∀ id, (w'.envs.object? id).map WrappedEnv.host = (w.envs.object? id).map WrappedEnv.host
  functions : ∀ id, (w'.functions.object? id).map (fun f => (f.env, f.host))
    = (w.functions.object? id).map fun f => (f.env, f.host)

theorem KeepsHosts.refl (w : Wrapped) : w.KeepsHosts w := ⟨fun _ => rfl, fun _ => rfl⟩

theorem KeepsHosts.trans {w'' : Wrapped} (h : w.KeepsHosts w') (h' : w'.KeepsHosts w'') :
    w.KeepsHosts w'' :=
  ⟨fun id => (h'.envs id).trans (h.envs id), fun id => (h'.functions id).trans (h.functions id)⟩

theorem Matched.keepsHosts (h : w.Matched n) (hkeeps : w.KeepsHosts w') (hn : n ≤ m) :
    w'.Matched m := by
  constructor
  · intro id e he
    have hhost := hkeeps.envs id
    rw [he, Option.map_some] at hhost
    obtain ⟨e', he', -⟩ := Option.map_eq_some_iff.1 hhost.symm
    exact (h.envs id e' he').trans_le hn
  · intro id f hf
    have hboth := hkeeps.functions id
    rw [hf, Option.map_some] at hboth
    obtain ⟨f', hf', heq⟩ := Option.map_eq_some_iff.1 hboth.symm
    obtain ⟨henv, hhost⟩ := Prod.ext_iff.1 heq
    obtain ⟨e, he, hmatch⟩ := h.functions id f' hf'
    have hkept := hkeeps.envs f'.env
    rw [he, Option.map_some] at hkept
    obtain ⟨e', he', hsame⟩ := Option.map_eq_some_iff.1 hkept
    refine ⟨e', ?_, ?_⟩
    · rw [← he']
      exact congrArg _ henv.symm
    · rw [hsame, hmatch]
      exact hhost

theorem keepsHosts_modify (w : Wrapped) (id : HandleId) {f : WrappedEnv → WrappedEnv}
    (hf : ∀ e, (f e).host = e.host) : w.KeepsHosts { w with envs := w.envs.modify id f } := by
  refine ⟨fun own => ?_, fun _ => rfl⟩
  simp only [Registry.object?_modify]
  split_ifs
  · simp [Function.comp_def, hf]
  · rfl

theorem keepsHosts_modifyEnv (w : Wrapped) (id : HandleId) {f : WrappedEnv → WrappedEnv}
    (hf : ∀ e, (f e).host = e.host) : w.KeepsHosts (w.modifyEnv id f) := by
  unfold modifyEnv
  split
  · exact .refl w
  · exact w.keepsHosts_modify _ hf

theorem object?_foldl_erase {α : Type} (r : Registry α) (ids : List HandleId) (id : HandleId) :
    (ids.foldl Registry.erase r).object? id = r.object? id := by
  induction ids generalizing r with
  | nil => rfl
  | cons own rest ih => rw [List.foldl_cons, ih, Registry.object?_erase]

theorem keepsHosts_eraseEnv (w : Wrapped) (id : HandleId) : w.KeepsHosts (w.eraseEnv id) := by
  unfold eraseEnv
  split
  · exact .refl w
  · exact ⟨fun _ => rfl, fun own => by rw [object?_foldl_erase]⟩

theorem keepsHosts_eraseEnvs (ids : List HandleId) (w : Wrapped) :
    w.KeepsHosts (ids.foldl Wrapped.eraseEnv w) := by
  induction ids generalizing w with
  | nil => exact .refl w
  | cons id rest ih => exact (w.keepsHosts_eraseEnv id).trans (ih _)

theorem keepsHosts_bindFunction (w : Wrapped) (id : HandleId) (raw : Word) :
    w.KeepsHosts (w.bindFunction id raw) := by
  unfold bindFunction
  split
  · exact .refl w
  · refine ⟨fun _ => rfl, fun own => ?_⟩
    simp only [Registry.object?_modify]
    split_ifs
    · simp [Function.comp_def]
    · rfl

theorem keepsHosts_eraseFunction (w : Wrapped) (id : HandleId) :
    w.KeepsHosts (w.eraseFunction id) := by
  unfold eraseFunction
  split
  · exact .refl w
  · next f _ =>
    have herased : w.KeepsHosts { w with functions := w.functions.erase id } :=
      ⟨fun _ => rfl, fun _ => rfl⟩
    exact herased.trans (keepsHosts_modifyEnv _ _ fun _ => rfl)

theorem keepsHosts_eraseHook (w : Wrapped) (id : HandleId) : w.KeepsHosts (w.eraseHook id) := by
  unfold eraseHook
  split
  · exact .refl w
  · next k _ =>
    have herased : w.KeepsHosts { w with hooks := w.hooks.erase id } :=
      ⟨fun _ => rfl, fun _ => rfl⟩
    exact herased.trans (keepsHosts_modifyEnv _ _ fun _ => rfl)

theorem keepsHosts_wrapHook (w : Wrapped) (id env : HandleId) (raw : Word) (host : HostId) :
    w.KeepsHosts (w.wrapHook id env raw host) :=
  let hooked : Wrapped := { w with hooks := w.hooks.insert id { raw := raw, env := env, host := host } }
  have hhooked : w.KeepsHosts hooked := ⟨fun _ => rfl, fun _ => rfl⟩
  hhooked.trans (keepsHosts_modify hooked env fun _ => rfl)

/-- An env that is wrapped takes a new id, so no function is its. -/
theorem Matched.wrapEnv (h : w.Matched n) (raw : Word) (host : HostId) :
    (w.wrapEnv ⟨n⟩ raw host).Matched (n + 1) := by
  constructor
  · intro id e he
    rw [Wrapped.wrapEnv, Registry.object?_insert] at he
    split at he
    · next heq => simp [← heq]
    · exact (h.envs id e he).trans (Nat.lt_succ_self n)
  · intro id f hf
    obtain ⟨e, he, hhost⟩ := h.functions id f hf
    refine ⟨e, ?_, hhost⟩
    have hold : (⟨n⟩ : HandleId) ≠ f.env := by
      intro heq
      have hlt := h.envs _ _ he
      rw [← heq] at hlt
      exact Nat.lt_irrefl n hlt
    rw [Wrapped.wrapEnv, Registry.object?_insert, if_neg hold, he]

/-- A function that is reserved gets the host of the env that it is reserved through. -/
theorem Matched.reserveFunction (h : w.Matched n) (hn : n ≤ m) (id : HandleId) {env : HandleId}
    {e : WrappedEnv} (he : w.envs.object? env = some e) :
    (w.reserveFunction id env e.host).Matched m := by
  let reserved : Wrapped :=
    { w with functions := w.functions.insert id { env := env, host := e.host } }
  have hreserved : reserved.Matched n := by
    refine ⟨h.envs, fun own f hf => ?_⟩
    change (w.functions.insert id _).object? own = some f at hf
    rw [Registry.object?_insert] at hf
    split at hf
    · cases hf
      exact ⟨e, he, rfl⟩
    · exact h.functions own f hf
  exact hreserved.keepsHosts (keepsHosts_modify reserved env fun _ => rfl) hn

end Wrapped

namespace Multiplexers

variable {l l' : Multiplexers}

theorem Step.matched (h : Step l l') (hl : l.wrapped.Matched l.nextId) :
    l'.wrapped.Matched l'.nextId := by
  cases h with
  | aside hn => exact hl.keepsHosts (.refl _) hn
  | create name table => exact hl.keepsHosts (Wrapped.keepsHosts_eraseEnvs _ _) le_rfl
  | drop name => exact hl.keepsHosts (Wrapped.keepsHosts_eraseEnvs _ _) le_rfl
  | wrap raw host hm => exact hl.wrapEnv raw host
  | reserve he =>
    obtain ⟨-, -, hobject⟩ := Registry.entry?_eq_some he
    exact hl.reserveFunction (Nat.le_succ _) _ hobject
  | bind id raw => exact hl.keepsHosts (Wrapped.keepsHosts_bindFunction ..) le_rfl
  | forgetFunction id => exact hl.keepsHosts (Wrapped.keepsHosts_eraseFunction ..) le_rfl
  | wrapHook raw he => exact hl.keepsHosts (Wrapped.keepsHosts_wrapHook ..) (Nat.le_succ _)
  | forgetHook id => exact hl.keepsHosts (Wrapped.keepsHosts_eraseHook ..) le_rfl

theorem Run.matched (h : l.Run) : l.wrapped.Matched l.nextId := by
  induction h with
  | initial => exact ⟨nofun, nofun⟩
  | step _ hstep ih => exact hstep.matched ih

end Multiplexers

/-! ### Where the call goes -/

namespace Session

variable {s : Session} {t : ThreadId} {r : Request} {below : List Frame} {env func : Word}

/-- A call by two handles is passed on without a wrapped handle of its own. -/
theorem forward_of_envAndFunction (hroute : r.route = .envAndFunction env func) :
    s.forward r = match s.route r with
      | .error problem => s.refuseRoute r.entry problem
      | .ok d =>
        match d.table.provider? r.entry with
        | none => s.refuseRoute r.entry .missingEntry
        | some p => (s.keepHost d.host).run (.entry p d.request) [.forwarded d.host] := by
  cases r with
  | refThreadsafeFunction e f | unrefThreadsafeFunction e f => rfl
  | _ => simp [Request.route] at hroute

/-- Where a call goes that names an env and a function, and what comes of it: the host of the env
gets both raw handles, if it is alive and provides the entry, and the host of the function is alive.
The host of the function is that of the env through which it was created. -/
theorem Reachable.routing_envAndFunction (h : s.Reachable) (hcall : s.Calls t r below)
    (hroute : r.route = .envAndFunction env func) :
    (s.wrapped.envs.entry? ⟨env⟩ = none → s.Refuses t below .invalidArg) ∧
    ∀ envId e, s.wrapped.envs.entry? ⟨env⟩ = some (envId, e) →
      (s.liveHost? e.host = none → s.Refuses t below .genericFailure) ∧
      ∀ table, s.liveHost? e.host = some table →
        ((∀ id f, s.wrapped.functions.entry? ⟨func⟩ = some (id, f) → f.raw = 0) →
          s.Refuses t below .invalidArg) ∧
        ∀ id f, s.wrapped.functions.entry? ⟨func⟩ = some (id, f) → f.raw ≠ 0 →
          (f.env = envId → e.host = f.host) ∧
          (s.liveHost? f.host = none → s.Refuses t below .genericFailure) ∧
          ((s.liveHost? f.host).isSome →
            (table.provider? r.entry = none → s.Refuses t below .genericFailure) ∧
            ∀ p, table.provider? r.entry = some p →
              s.PassesOn t below p ((r.withEnv e.raw).withFunction f.raw)) := by
  have hforward := forward_of_envAndFunction (s := s) hroute
  have hrefused {problem : RouteProblem} (hproblem : s.route r = .error problem) :
      s.Refuses t below problem.status :=
    hcall.refuses_of_route problem (by rw [hforward, hproblem])
  constructor
  · intro hnone
    refine @hrefused (.unknownEnv env) ?_
    simp only [Session.route, hroute, findEnv, Registry.get?, hnone]
    rfl
  intro envId e he
  have hget : s.wrapped.envs.get? ⟨env⟩ = some e := by simp [Registry.get?, he]
  constructor
  · intro hhost
    refine @hrefused .hostGone ?_
    simp only [Session.route, hroute, findEnv, hget, hhost]
    rfl
  intro table hhost
  have henv : s.findEnv env = .ok (e, table) := by simp only [findEnv, hget, hhost]
  constructor
  · intro hnone
    refine @hrefused .unknownFunction ?_
    simp only [Session.route, hroute, henv]
    cases hf : s.wrapped.functions.entry? ⟨func⟩ with
    | none =>
      simp only [findWrappedFunction, Registry.get?, hf]
      rfl
    | some found =>
      have hraw := hnone found.1 found.2 hf
      simp only [findWrappedFunction, Registry.get?, hf, Option.map_some, hraw, if_true]
      rfl
  intro id f hf hraw
  have hfget : s.wrapped.functions.get? ⟨func⟩ = some f := by simp [Registry.get?, hf]
  refine ⟨?_, ?_, ?_⟩
  · rintro rfl
    obtain ⟨-, -, henvObject⟩ := Registry.entry?_eq_some he
    obtain ⟨-, -, hfunction⟩ := Registry.entry?_eq_some hf
    obtain ⟨own, hown, hhosts⟩ := h.multiplexersRun.matched.functions id f hfunction
    obtain rfl := Option.some.inj (henvObject.symm.trans hown)
    exact hhosts
  · intro hgone
    refine @hrefused .hostGone ?_
    simp only [Session.route, hroute, henv, findWrappedFunction, hfget, if_neg hraw, hgone]
    rfl
  intro halive
  obtain ⟨other, hother⟩ := Option.isSome_iff_exists.1 halive
  have hdestination : s.route r = .ok
      { host := e.host, table := table, request := (r.withEnv e.raw).withFunction f.raw } := by
    simp only [Session.route, hroute, henv, findWrappedFunction, hfget, if_neg hraw, hother]
    rfl
  constructor
  · intro hmissing
    refine hcall.refuses_of_route .missingEntry ?_
    rw [hforward, hdestination]
    simp only [hmissing]
  · intro p hp
    have hstep : s.step t = some (apply ((s.keepHost e.host).run
        (.entry p ((r.withEnv e.raw).withFunction f.raw)) [.forwarded e.host]) t below) := by
      have hstep := hcall.step
      rw [hforward, hdestination] at hstep
      simpa only [hp] using hstep
    exact passesOn_of_forwarded hstep

/-- A session with a host for each of two wrapped envs, in which a function was created through the
left env and is about to be referenced through the right one. -/
def straying : Session :=
  ((start [] none).during?
    [.createHost "left host" 0 [.createThreadsafeFunction] [],
      .createHost "right host" 1 [.refThreadsafeFunction] [],
      .createMultiplexer "multiplexer" false false,
      .wrap "multiplexer" "left host" (.word 16) "left",
      .wrap "multiplexer" "right host" (.word 32) "right",
      .entry "multiplexer" .createThreadsafeFunction
        { env := .named "left", callJs := true, out := some "function" }]
    (.entry "multiplexer" .refThreadsafeFunction
      { env := .named "right", func := .named "function" }) 1).get (by decide +kernel)

/-- The call, and the frame of the action that makes it. -/
def strayingCall : Request × List Frame := (straying.calling? .main).get (by decide +kernel)

theorem routing_straying :
    (straying.wrapped.functions.entry? ⟨3⟩).map (fun found => (found.2.raw, found.2.host))
      = some (28673, 0) ∧
    straying.PassesOn .main strayingCall.2 (.engine 1) (.refThreadsafeFunction 32 28673) := by
  have hreachable : straying.Reachable :=
    (Reachable.start [] none).during? (Option.some_get _).symm
  have hcall : straying.Calls .main strayingCall.1 strayingCall.2 :=
    calls_of_calling? (by decide +kernel)
      (Option.some_get (by decide +kernel : (straying.calling? .main).isSome = true)).symm
  have hroute : strayingCall.1.route = .envAndFunction 2 3 := by decide +kernel
  have hentry : strayingCall.1.entry = .refThreadsafeFunction := by decide +kernel
  have hrequest : strayingCall.1 = .refThreadsafeFunction 2 3 := by
    cases hr : strayingCall.1 <;> simp_all [Request.route, Request.entry]
  have hfunction : straying.wrapped.functions.entry? ⟨3⟩
      = some (⟨3⟩, { raw := 28673, env := ⟨1⟩, host := 0 }) := by decide +kernel
  obtain ⟨-, hresolved⟩ := hreachable.routing_envAndFunction hcall hroute
  obtain ⟨-, halive⟩ := hresolved ⟨2⟩ { raw := 32, host := 1 } (by decide +kernel)
  obtain ⟨-, hfound⟩ := halive _
    (Option.some_get (by decide +kernel : (straying.liveHost? 1).isSome = true)).symm
  obtain ⟨-, -, hpassed⟩ := hfound ⟨3⟩ _ hfunction (by decide)
  obtain ⟨-, hprovided⟩ := hpassed (by decide +kernel)
  have hpasses := hprovided (.engine 1) (by decide +kernel)
  rw [hrequest] at hpasses
  exact ⟨by rw [hfunction]; rfl, hpasses⟩

end Session

end AddonHost
