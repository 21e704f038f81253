import AddonHost.Proofs.Multiplexer.Owned
import AddonHost.Proofs.Session.Onward
import AddonHost.Proofs.Transparency.Steps

/-!
A multiplexer is transparent for the runtime.

An addon calls the runtime's entries through multiplexers, with wrapped envs and wrapped functions,
or it makes the same calls directly, with raw ones.  From a session that is `Ready` for it, both
runs show the same: whenever one of them is between two operations, the other one comes to such a
point as well, and the statuses, the values of out-pointers, the callbacks and the calls of engines
until then are the same up to a renaming of handles (`SameUpTo`).  A wrapped function resolves as
long as the raw one.

The run goes on by induction from `Mirror.advances`.  Three things end it: an abort, which both runs
show; a blocking call for which there is no space, in which both would wait for ever, as no one else
makes space; and the end of the ids, of which a multiplexer uses more.
-/

namespace AddonHost

variable {A : Addon} {past : List Event} {pairs : List Pair} {hosts : Assoc HostId Host}
  {s s' d d' d₀ : Session} {fs fs' : List Frame} {w f f' : HandleId} {X : Expected}
  {stage : Stage} {P : Session → Prop} {c c' : Control} {actions actions' : List Action}

/-! ### Between two operations -/

namespace Session

/-- The main thread is between two operations, or the process was aborted. -/
def Stopped (s : Session) : Prop := s.halted = true ∨ s.isBusy .main = false

/-- The main thread is about to perform actions, one after the other. -/
def begin (s : Session) (actions : List Action) : Session :=
  s.setThread .main { control := .run (.script .callback actions) }

/-- The main thread takes steps. -/
def RunsTo : Session → Session → Prop := Relation.ReflTransGen fun s s' => s.step .main = some s'

/-- The main thread takes steps, each of which begins while there are ids left. -/
def RunsWithin : Session → Session → Prop :=
  Relation.ReflTransGen fun s s' => s.ids.next < 2 ^ 64 ∧ s.step .main = some s'

end Session

/-- What is seen of two sessions since `past` is the same up to a renaming of handles. -/
structure SameUpTo (A : Addon) (past : List Event) (pairs : List Pair) (s d : Session) : Prop where
  renames : Pair.Renaming pairs
  seen : ∃ es es', s.seen = es ++ past ∧ d.seen = es' ++ past ∧
    List.Forall₂ (Event.Alike A pairs) es es'
  halted : s.halted = d.halted
  idle : s.halted = false → (s.MainIdle ↔ d.MainIdle)
  resolves : s.halted = false → ∀ {w f f'}, .function w f f' ∈ pairs →
    (s.wrapped.functions.get? ⟨w.value⟩).isSome = (s.functions.get? ⟨f.value⟩).isSome ∧
      (d.functions.get? ⟨f'.value⟩).isSome = (s.functions.get? ⟨f.value⟩).isSome

/-- Corresponding threads are both between two operations, or both not. -/
theorem ControlAlike.atRest_eq {m : Wrapped} {r r' : Registry ThreadsafeFunction}
    (hc : ControlAlike A pairs m r r' stage X c c') (hstack : StackAlike A pairs hosts stage X fs fs') :
    (⟨c, fs⟩ : Thread).atRest = (⟨c', fs'⟩ : Thread).atRest := by
  cases hc with
  | give hr => cases hstack <;> rfl
  | registered h => cases hstack; rfl
  | @script actions actions' h =>
    cases h with
    | nil => cases hstack <;> rfl
    | cons => rfl
  | silent | call => cases hstack <;> rfl
  | _ => rfl

/-- Between two operations, no function is being created or about to be unregistered. -/
theorem ControlAlike.between_of_atRest {m : Wrapped} {r r' : Registry ThreadsafeFunction}
    (hc : ControlAlike A pairs m r r' stage X c c') (hstack : StackAlike A pairs hosts stage X fs fs')
    (hrest : (⟨c, fs⟩ : Thread).atRest = true) : stage = .between := by
  cases hc with
  | give hr => cases hstack <;> first | rfl | cases hrest
  | registered h => cases hstack; cases hrest
  | silent =>
    cases hstack with
    | unreferenced _ hX => exact absurd rfl hX
    | engineScripted => cases hrest
  | asks | createFunction => cases hrest
  | _ => rfl

/-- Corresponding threads have both given their last reply, or both not. -/
theorem ControlAlike.ended_iff {m : Wrapped} {r r' : Registry ThreadsafeFunction}
    (hc : ControlAlike A pairs m r r' stage X c c') (hstack : StackAlike A pairs hosts stage X fs fs') :
    (∃ r, (⟨c, fs⟩ : Thread) = ⟨.give r, []⟩) ↔ ∃ r, (⟨c', fs'⟩ : Thread) = ⟨.give r, []⟩ := by
  cases hc with
  | give hr => cases hstack <;> simp
  | registered h => cases hstack; simp
  | _ => simp

/-- The handles of a function resolve in both sessions, or in none. -/
theorem Twin.resolves (h : Twin A past pairs hosts none s d) (hp : .function w f f' ∈ pairs) :
    (s.wrapped.functions.get? ⟨w.value⟩).isSome = (s.functions.get? ⟨f.value⟩).isSome ∧
      (d.functions.get? ⟨f'.value⟩).isSome = (s.functions.get? ⟨f.value⟩).isSome := by
  have hids := h.ids
  obtain ⟨hw, hf, hf'⟩ := h.known _ hp
  have hagrees := h.functions hp
  obtain ⟨fn, hobject', hobject, -⟩ := hagrees.object
  obtain ⟨env, host, -, hlive⟩ := hagrees.live
  simp only [Registry.get?, Option.isSome_map]
  rw [h.wrapped.functions.entry?_value hids hw.2, hlive, h.functionsBelow.entry?_value hids hf.2,
    h.functionsBelow'.entry?_value (h.ids'.trans hids) hf'.2]
  cases howns : s.functions.owns f <;> simp [Registry.live?, howns, ← hagrees.owns, hobject, hobject']

/-- Corresponding sessions are both between two operations, or both not. -/
theorem Mirror.stopped_iff (h : Mirror A past s d) : s.Stopped ↔ d.Stopped := by
  cases h with
  | halted hs hd _ => exact iff_of_true (.inl hs) (.inl hd)
  | running _ hs hd h _ hcontrol hstack =>
    simp [Session.Stopped, Session.isBusy, h.running, h.running', hs, hd, hcontrol.atRest_eq hstack]

/-- Corresponding sessions that are between two operations show the same. -/
theorem Mirror.sameUpTo (h : Mirror A past s d) (hrest : s.Stopped) :
    ∃ pairs, SameUpTo A past pairs s d := by
  cases h with
  | halted hs hd hseen =>
    obtain ⟨pairs, hrenames, hseen⟩ := hseen
    exact ⟨pairs, hrenames, hseen, hs.trans hd.symm, by simp [hs], by simp [hs]⟩
  | @running pairs hosts stage X c c' fs fs' hs hd h hholds hcontrol hstack =>
    have hthread : (⟨c, fs⟩ : Thread).atRest = true := by
      simpa [Session.Stopped, Session.isBusy, h.running, hs] using hrest
    obtain rfl := hcontrol.between_of_atRest hstack hthread
    refine ⟨pairs, h.renames, h.seen, h.running.trans h.running'.symm, fun _ => ?_,
      fun _ => h.resolves⟩
    simpa [Session.MainIdle, hs, hd] using hcontrol.ended_iff hstack

/-! ### Runs -/

/-- Nothing follows an abort or the last reply. -/
theorem Session.Rests.step (h : s.Rests) : s.step .main = none := by
  unfold Session.step
  rcases h with hhalted | ⟨r, hthread⟩
  · simp [hhalted]
  · simp [hthread]

/-- A thread that waits for space when nobody makes it waits on. -/
theorem Session.Waits.step (h : s.Waits) : s.step .main = none := by
  obtain ⟨hrunning, f, data, below, fn, hthread, hfn, hasleep⟩ := h
  rw [Session.step_eq_map hrunning hthread]
  simp [Code.step, Session.awaitSpace, hfn, hasleep]

/-- How the routed session stands to a run of the direct one: they correspond, or the routed thread
is on its way to where they do, or both wait. -/
inductive Covered (A : Addon) (past : List Event) (d₀ s : Session) : Prop where
  | mirror {d : Session} (hd : d₀.RunsTo d) (h : Mirror A past s d)
  | leads {d : Session} (hd : d₀.RunsTo d) (hbusy : s.isBusy .main = true)
    (h : Leads (Reaches A past d) s)
  | waits {d : Session} (hd : d₀.RunsTo d) (hs : s.Waits) (hwait : d.WouldWait)
    (seen : SeenAlike A past s d)

/-- A routed thread that is on its way is not between two operations. -/
theorem Leads.not_stopped (h : Leads P s) (hbusy : s.isBusy .main = true) : ¬ s.Stopped := by
  have hrunning : s.halted = false := by
    cases h with
    | arrives hstep => exact Session.running_of_step hstep
    | passes hstep => exact Session.running_of_step hstep
  simp [Session.Stopped, hrunning, hbusy]

/-- What a routed thread comes to that is on its way. -/
theorem Leads.covered {d : Session} (hd : d₀.RunsTo d) (h : Leads (Reaches A past d) s)
    (hstep : s.step .main = some s') : Covered A past d₀ s' := by
  cases h with
  | arrives hstep' h =>
    obtain rfl := Option.some.inj (hstep.symm.trans hstep')
    cases h with
    | mirror hstep₁ h => exact .mirror (hd.tail hstep₁) h
    | waits hs hwait hseen => exact .waits hd hs hwait hseen
  | passes hstep' hbusy h =>
    obtain rfl := Option.some.inj (hstep.symm.trans hstep')
    exact .leads hd hbusy h

theorem Covered.step (h : Covered A past d₀ s) (hids : s.ids.next < 2 ^ 64)
    (hstep : s.step .main = some s') : Covered A past d₀ s' := by
  cases h with
  | mirror hd h =>
    rcases h.advances hids with ⟨hrests, -⟩ | hleads
    · cases hstep.symm.trans hrests.step
    · exact hleads.covered hd hstep
  | leads hd _ h => exact h.covered hd hstep
  | waits _ hs => cases hstep.symm.trans hs.step

/-- Every routed run is covered by a direct one. -/
theorem Mirror.covered {s₀ : Session} (h : Mirror A past s₀ d₀) (hs : s₀.RunsWithin s) :
    Covered A past d₀ s := by
  induction hs with
  | refl => exact .mirror .refl h
  | tail _ hstep ih => exact ih.step hstep.1 hstep.2

/-- A routed thread that is on its way arrives, unless the ids run out. -/
theorem Leads.arrives_or {s₀ : Session} (hs : s₀.RunsWithin s) (h : Leads P s) :
    (∃ s', s₀.RunsWithin s' ∧ P s') ∨ ∃ s', s₀.RunsWithin s' ∧ 2 ^ 64 ≤ s'.ids.next := by
  induction h with
  | @arrives s s' hstep h =>
    rcases Nat.lt_or_ge s.ids.next (2 ^ 64) with hids | hids
    · exact .inl ⟨s', hs.tail ⟨hids, hstep⟩, h⟩
    · exact .inr ⟨s, hs, hids⟩
  | @passes s s' hstep _ _ ih =>
    rcases Nat.lt_or_ge s.ids.next (2 ^ 64) with hids | hids
    · exact ih (hs.tail ⟨hids, hstep⟩)
    · exact .inr ⟨s, hs, hids⟩

/-- How a run of the routed session stands to the direct session: it comes to a session that
corresponds, or it has come to wait in a call that the direct session would have to wait in as well,
or to the end of the ids. -/
inductive Matched (A : Addon) (past : List Event) (s₀ d₀ d : Session) : Prop where
  | mirror {s : Session} (hs : s₀.RunsWithin s) (h : Mirror A past s d)
  | waits {s d₁ : Session} (hs : s₀.RunsWithin s) (hwaits : s.Waits) (hd₁ : d₀.RunsTo d₁)
    (hwait : d₁.WouldWait) (seen : SeenAlike A past s d₁) (hd : d₁.RunsTo d)
  | exhausted {s : Session} (hs : s₀.RunsWithin s) (hids : 2 ^ 64 ≤ s.ids.next)

theorem Matched.step {s₀ : Session} (h : Matched A past s₀ d₀ d) (hd : d₀.RunsTo d)
    (hstep : d.step .main = some d') : Matched A past s₀ d₀ d' := by
  cases h with
  | @mirror s hs h =>
    rcases Nat.lt_or_ge s.ids.next (2 ^ 64) with hids | hids
    · rcases h.advances hids with ⟨-, hrests⟩ | hleads
      · cases hstep.symm.trans hrests.step
      · rcases hleads.arrives_or hs with ⟨s', hs', hreaches⟩ | ⟨s', hs', hids'⟩
        · cases hreaches with
          | mirror hstep' h' =>
            obtain rfl := Option.some.inj (hstep.symm.trans hstep')
            exact .mirror hs' h'
          | waits hwaits hwait hseen => exact .waits hs' hwaits hd hwait hseen (.single hstep)
        · exact .exhausted hs' hids'
    · exact .exhausted hs hids
  | waits hs hwaits hd₁ hwait hseen hrest => exact .waits hs hwaits hd₁ hwait hseen (hrest.tail hstep)
  | exhausted hs hids => exact .exhausted hs hids

/-- Every direct run is matched by a routed one. -/
theorem Mirror.matched {s₀ : Session} (h : Mirror A past s₀ d₀) (hd : d₀.RunsTo d) :
    Matched A past s₀ d₀ d := by
  induction hd with
  | refl => exact .mirror .refl h
  | tail hd hstep ih => exact ih.step hd hstep

/-! ### The beginning -/

/-- A session in which an addon is about to begin: its envs are wrapped, their hosts offer the
runtime's entries, engines have no scripts, and nothing is queued. -/
structure Session.Ready (A : Addon) (s : Session) : Prop where
  reachable : s.Reachable
  running : s.halted = false
  ids : s.ids.next ≤ 2 ^ 64
  producers : s.producers = []
  kept : s.names.jobs = []
  invokers : ∀ i inv, s.invokers.get? i = some inv →
    ∃ m, inv.core = .manual m ∧ m.owner = .main ∧ m.queue.pending = []
  scripts : ∀ key, (s.scripts.get? key).getD [] = []
  /-- The runtime finds engines in the injected table. -/
  provided : ∀ e : Entry, e.ofRuntime = false → ∀ p, s.injected.provider? e = some p →
    ∃ slot, p = .engine slot
  tables : ∀ table, A.calls table → table ∉ ["abi", "weak", "injected"] ∧
    ∃ m, s.names.multiplexers.get? table = some m ∧
      ∀ e : Entry, e.ofRuntime = true → m.table.provider? e = some .multiplexer
  served : A.Served s.hosts
  envs : ∀ {name raw}, A.kind name = .env raw → ∃ own e, s.wrapped.envs.live? own = some e ∧
    s.value (.named name) = own.value ∧ e.raw = raw ∧ A.hosts e.host
  handles : ∀ {name}, A.kind name = .function ∨ A.kind name = .job → s.value (.named name) = 0

/-- At the beginning both sessions are the same. -/
theorem Session.Ready.mirror (h : s.Ready A) (hactions : List.Forall₂ A.Counterpart actions actions') :
    Mirror A s.seen (s.begin actions) (s.begin actions') := by
  have hsane := h.reachable.sound.sane
  have htwin : Twin A s.seen [] s.hosts none s s := by
    refine
      { running := h.running, running' := h.running, environment := rfl, config := rfl,
        bindings := rfl, injected := rfl, engines := rfl, producers := h.producers,
        producers' := h.producers, named := rfl, hosts := rfl, kept := h.kept, kept' := h.kept,
        provided := h.provided, silent := fun slot e => h.scripts _, tables := h.tables,
        envs := h.envs, values := fun name => ?_, pos := hsane.positive, pos' := hsane.positive,
        ids := h.ids, ids' := le_rfl, renames := ⟨by simp, by simp, by simp⟩, known := by simp,
        wrapped := (h.reachable.multiplexersRun.owned h.ids).wrapped,
        functionsBelow := fun f hf => hsane.functions (.inr (by simpa [Registry.owns] using hf)),
        functionsBelow' := fun f hf => hsane.functions (.inr (by simpa [Registry.owns] using hf)),
        jobsBelow := fun j hj => hsane.jobs (.inr (by simpa [Registry.owns] using hj)),
        jobsBelow' := fun j hj => hsane.jobs (.inr (by simpa [Registry.owns] using hj)),
        functions := by simp, jobs := by simp, invokers := fun i => ?_, scripts := fun key => ?_,
        seen := ⟨[], [], rfl, rfl, .nil⟩ }
    · cases hkind : A.kind name with
      | data => exact rfl
      | env raw => trivial
      | function => exact .inl ⟨h.handles (.inl hkind), h.handles (.inl hkind)⟩
      | job => exact .inl ⟨h.handles (.inr hkind), h.handles (.inr hkind)⟩
    · cases hi : s.invokers.get? i with
      | none => exact .none
      | some inv =>
        obtain ⟨holders, core⟩ := inv
        obtain ⟨⟨owner, takes, offered, ⟨pending, tickets⟩, executed⟩, rfl, rfl, rfl⟩ :=
          h.invokers i _ hi
        exact .some ⟨holders, takes, offered, executed, tickets, .nil⟩
    · rw [h.scripts key]
      exact .nil
  have hshown : Twin A s.seen [] s.hosts Stage.between.ending? (s.begin actions) (s.begin actions') :=
    htwin.shows (shows_setThread ..) (shows_setThread ..) .nil
  refine .running .between ?_ ?_ hshown trivial (.script hactions) (.nil h.served)
  · simp [Session.begin, Session.setThread, Assoc.get?_insert]
  · simp [Session.begin, Session.setThread, Assoc.get?_insert]

/-- What an addon does through its multiplexers shows what it shows without them. -/
structure Session.Transparent (A : Addon) (s : Session) (actions actions' : List Action) : Prop where
  /-- Whenever the routed run is between two operations, the direct run comes to such a point as
  well and shows the same until there; or both wait for space in the same call. -/
  forth : ∀ r, (s.begin actions).RunsWithin r → r.Stopped →
    (∃ d, (s.begin actions').RunsTo d ∧ d.Stopped ∧ ∃ pairs, SameUpTo A s.seen pairs r d) ∨
      r.Waits ∧ ∃ d, (s.begin actions').RunsTo d ∧ d.WouldWait ∧ SeenAlike A s.seen r d
  /-- Whenever the direct run is between two operations, so will the routed run be, with the same to
  show; or it waits in a call in which the direct run had to wait as well; or there are no ids left.
  -/
  back : ∀ d, (s.begin actions').RunsTo d → d.Stopped →
    (∃ r, (s.begin actions).RunsWithin r ∧ r.Stopped ∧ ∃ pairs, SameUpTo A s.seen pairs r d) ∨
      (∃ r d₁, (s.begin actions).RunsWithin r ∧ r.Waits ∧ (s.begin actions').RunsTo d₁ ∧
        d₁.WouldWait ∧ SeenAlike A s.seen r d₁ ∧ d₁.RunsTo d) ∨
      ∃ r, (s.begin actions).RunsWithin r ∧ 2 ^ 64 ≤ r.ids.next

theorem Session.Ready.transparent (h : s.Ready A)
    (hactions : List.Forall₂ A.Counterpart actions actions') :
    s.Transparent A actions actions' where
  forth r hr hrest := by
    cases (h.mirror hactions).covered hr with
    | mirror hd h => exact .inl ⟨_, hd, h.stopped_iff.1 hrest, h.sameUpTo hrest⟩
    | leads _ hbusy hleads => exact absurd hrest (hleads.not_stopped hbusy)
    | waits hd hwaits hwait hseen => exact .inr ⟨hwaits, _, hd, hwait, hseen⟩
  back d hd hrest := by
    cases (h.mirror hactions).matched hd with
    | mirror hr h =>
      have hrest' := h.stopped_iff.2 hrest
      exact .inl ⟨_, hr, hrest', h.sameUpTo hrest'⟩
    | waits hr hwaits hd₁ hwait hseen hd' =>
      exact .inr (.inl ⟨_, _, hr, hwaits, hd₁, hwait, hseen, hd'⟩)
    | exhausted hr hids => exact .inr (.inr ⟨_, hr, hids⟩)

namespace Session

/-- The main thread takes so many steps, or as many as it can. -/
theorem runsTo_iterate (s : Session) (n : ℕ) :
    s.RunsTo ((fun s : Session => (s.step .main).getD s)^[n] s) := by
  induction n generalizing s with
  | zero => exact .refl
  | succ n ih =>
    cases hstep : s.step .main with
    | none => simpa [hstep] using ih s
    | some s' =>
      have hrest : s.RunsTo _ := .head hstep (ih s')
      simpa [hstep] using hrest

/-- A session with an invoker, an engine that the runtime finds, a host, and a wrapped env of it. -/
def furnished : Session :=
  ((start [] none).performed?
    [.createInvoker "main" .unlimited,
      .createHost "engine" 0 [.callFunction, .getReferenceValue] [],
      .inject (some "engine"),
      .createHost "host" 1 [.createReference, .deleteReference] ["abi"],
      .createMultiplexer "multiplexer" false false,
      .wrap "multiplexer" "host" (.word 16) "env"]).get (by decide +kernel)

/-- An addon with a wrapped env, and with variables for a function and a job. -/
def guest : Addon where
  calls table := table = "multiplexer"
  hosts host := host = 1
  kind name :=
    if name = "env" then .env 16 else if name = "function" then .function
    else if name = "work" then .job else .data

/-- The guest calls a function, and releases it while the call is delivered. -/
def guestActions (table : String) (env : Ref) : List Action :=
  [.bind (.word 16) "main",
    .script (.callJs (.word 7))
      [.entry table .releaseThreadsafeFunction { func := .named "function" }],
    .entry table .createThreadsafeFunction
      { env := env, callJs := true, threads := .word 1, finalize := true, data := .word 9,
        context := .word 3, resourceName := .word 4, out := some "function" },
    .entry table .callThreadsafeFunction { func := .named "function", data := .word 7 },
    .pump "main" (.drained 0),
    .entry table .acquireThreadsafeFunction { func := .named "function" }]

theorem counterpart_guestActions :
    List.Forall₂ guest.Counterpart (guestActions "multiplexer" (.named "env"))
      (guestActions "abi" (.word 16)) := by
  have hcall {e : Entry} (he : e ∈ [.callThreadsafeFunction, .acquireThreadsafeFunction,
      .releaseThreadsafeFunction]) (v : Word) :
      guest.Counterpart (.entry "multiplexer" e { func := .named "function", data := .word v })
        (.entry "abi" e { func := .named "function", data := .word v }) := by
    have hfunc : guest.IsFunction (.named "function") := ⟨"function", rfl, rfl⟩
    fin_cases he <;>
      exact .entry rfl rfl ⟨rfl, by simp, by simp, fun _ => trivial, by simp, by simp, fun _ => hfunc⟩
  have hcreate : guest.AreEnvs (.named "env") (.word 16) := ⟨"env", 16, rfl, rfl, rfl⟩
  refine .cons (.bind _ trivial) (.cons (.script trivial (.cons (hcall (by simp) 0) .nil))
    (.cons (.entry rfl rfl ?_) (.cons (hcall (by simp) 7)
      (.cons (.pump _ _) (.cons (hcall (by simp) 0) .nil)))))
  exact ⟨rfl, by simp [guest, Entry.outKind], fun _ => hcreate, fun _ => trivial, by simp,
    fun _ => ⟨trivial, trivial, trivial, trivial⟩, by simp⟩

theorem ready_furnished : furnished.Ready guest where
  reachable := (Reachable.start [] none).performed? (Option.some_get _).symm
  running := by decide +kernel
  ids := by decide +kernel
  producers := by decide +kernel
  kept := by decide +kernel
  invokers i inv hi := by
    have hinvokers : furnished.invokers = [(0, { core := .manual { owner := .main } })] := rfl
    simp only [hinvokers, Assoc.get?] at hi
    split_ifs at hi
    cases hi
    exact ⟨_, rfl, rfl, rfl⟩
  scripts key := by
    have hscripts : furnished.scripts = [] := rfl
    simp [hscripts]
  provided e he p hp := by
    have hall : ∀ e ∈ Entry.all, ∀ p ∈ furnished.injected.provider? e, p = .engine 0 := by
      decide +kernel
    exact ⟨0, hall e (Entry.mem_all e) p hp⟩
  tables := by
    rintro _ rfl
    refine ⟨by decide, _, (Option.some_get (by decide +kernel)).symm, fun e => ?_⟩
    cases e <;> decide +kernel
  served := by
    rintro _ rfl
    refine ⟨_, (Option.some_get (by decide +kernel)).symm, by decide +kernel, fun e => ?_⟩
    cases e <;> decide +kernel
  envs {name raw} hkind := by
    simp only [guest] at hkind
    split_ifs at hkind with hname
    cases hkind
    subst hname
    have hlive : (furnished.wrapped.envs.live? ⟨1⟩).isSome = true := by decide +kernel
    exact ⟨_, _, (Option.some_get hlive).symm, by decide +kernel, rfl, rfl⟩
  handles {name} hkind := by
    simp only [guest] at hkind
    split_ifs at hkind with hname hname hname
    · simp at hkind
    · exact hname ▸ by decide +kernel
    · exact hname ▸ by decide +kernel
    · simp at hkind

/-- The direct run answers the last action, and nine things are seen until then. -/
theorem furnished_transparent :
    furnished.Ready guest ∧
      List.Forall₂ guest.Counterpart (guestActions "multiplexer" (.named "env"))
        (guestActions "abi" (.word 16)) ∧
      furnished.Transparent guest (guestActions "multiplexer" (.named "env"))
        (guestActions "abi" (.word 16)) ∧
      ∃ d, (furnished.begin (guestActions "abi" (.word 16))).RunsTo d ∧ d.MainIdle ∧
        d.seen.length = furnished.seen.length + 9 :=
  ⟨ready_furnished, counterpart_guestActions, ready_furnished.transparent counterpart_guestActions,
    _, runsTo_iterate _ 60, by decide +kernel, by decide +kernel⟩

end Session

end AddonHost
