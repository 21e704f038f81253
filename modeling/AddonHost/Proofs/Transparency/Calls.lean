import AddonHost.Proofs.Transparency.Tasks

/-!
Calls of the runtime's entries through a multiplexer and directly.

`Session.forward` finds the raw handles and the host, or refuses the call.  What the runtime does
with the raw handles is what it does in the direct session with its own, and a call that the
multiplexer refuses is one that the runtime refuses.
-/

namespace AddonHost

variable {A : Addon} {past : List Event} {pairs : List Pair} {hosts : Assoc HostId Host}
  {s d : Session} {fs fs' : List Frame} {w f f' j j' : HandleId} {X : Expected} {e : Entry}
  {env raw func func' : Word}

/-! ### Forwarding -/

/-- A wrapped env finds the host behind it. -/
theorem Twin.findEnv (h : Twin A past pairs hosts none s d) (hserved : A.Served hosts)
    (henv : s.wrapped.StandsFor A env raw) :
    ∃ own e table, s.findEnv env = .ok (e, table) ∧ s.wrapped.envs.entry? ⟨env⟩ = some (own, e) ∧
      s.wrapped.envs.live? own = some e ∧ e.raw = raw ∧ A.hosts e.host ∧
      ∀ e : Entry, e.ofRuntime = true → table.provider? e = some .runtime := by
  obtain ⟨own, e, hentry, hlive, hraw, hhost⟩ := henv
  obtain ⟨table, htable, hruntime⟩ := hserved.liveHost h.hosts hhost
  refine ⟨own, e, table, ?_, hentry, hlive, hraw, hhost, hruntime⟩
  simp [Session.findEnv, Registry.get?, hentry, htable]

/-- A call with an env goes to the runtime behind it. -/
theorem Twin.forward_env (h : Twin A past pairs hosts none s d) (hserved : A.Served hosts)
    (henv : s.wrapped.StandsFor A env raw) (q : Request) (hroute : q.route = .env env)
    (hruntime : q.entry.ofRuntime = true) (hcreate : q.entry ≠ .createThreadsafeFunction) :
    ∃ host, s.forward q =
      (s.keepHost host).run (.entry .runtime (q.withEnv raw)) [.forwarded host] := by
  obtain ⟨own, e, table, hfind, -, -, rfl, -, htable⟩ := h.findEnv hserved henv
  have hprovider := htable _ hruntime
  have hdestination : s.route q = .ok { host := e.host, table := table, request := q.withEnv e.raw } := by
    simp [Session.route, hroute, hfind]
  refine ⟨e.host, ?_⟩
  unfold Session.forward
  rw [hdestination]
  simp only [hprovider]
  cases q <;> simp_all [Request.entry, Entry.ofRuntime, Request.route]

/-- A call with a function goes to the runtime that has created it. -/
theorem Twin.forward_function (h : Twin A past pairs hosts none s d) (hserved : A.Served hosts)
    (c : FunctionCall) (env raw : Word) (henv : c.TakesEnv → s.wrapped.StandsFor A env raw)
    {g : WrappedFunction}
    (hg : s.wrapped.functions.get? ⟨func⟩ = some g) (hraw : g.raw ≠ 0) (hhost : A.hosts g.host) :
    ∃ host, s.forward (c.request env func) =
      (s.keepHost host).run (.entry .runtime (c.request raw g.raw)) [.forwarded host] := by
  obtain ⟨table, htable, hruntime⟩ := hserved.liveHost h.hosts hhost
  have hfind : s.findWrappedFunction func = .ok (g, table) := by
    simp [Session.findWrappedFunction, hg, hraw, htable]
  have hdestination : ∃ host table, s.route (c.request env func) =
      .ok { host := host, table := table, request := c.request raw g.raw } ∧
      ∀ e : Entry, e.ofRuntime = true → table.provider? e = some .runtime := by
    cases c with
    | context out | call data mode | acquire | release mode =>
      refine ⟨g.host, table, ?_, hruntime⟩
      simp only [Session.route, Request.route, FunctionCall.request, hfind]
      rfl
    | ref | unref =>
      obtain ⟨own, e, table', hfindEnv, -, -, rfl, -, htable'⟩ :=
        h.findEnv hserved (henv (by simp [FunctionCall.TakesEnv]))
      refine ⟨e.host, table', ?_, htable'⟩
      simp only [Session.route, Request.route, FunctionCall.request, hfind, hfindEnv]
      rfl
  obtain ⟨host, table, hdestination, hruntime⟩ := hdestination
  have hprovider := hruntime (c.request env func).entry (by cases c <;> rfl)
  refine ⟨host, ?_⟩
  unfold Session.forward
  rw [hdestination]
  simp only [hprovider]
  cases c <;> rfl

/-- A call with a handle that the multiplexer does not know is refused. -/
theorem Twin.forward_unknown (h : Twin A past pairs hosts none s d) (hserved : A.Served hosts)
    (c : FunctionCall) (henv : c.TakesEnv → s.wrapped.StandsFor A env raw)
    (hg : s.wrapped.functions.get? ⟨func⟩ = none) :
    s.forward (c.request env func) = s.refuseRoute (c.request env func).entry .unknownFunction := by
  have hfind : s.findWrappedFunction func = .error .unknownFunction := by
    simp [Session.findWrappedFunction, hg]
  have hroute : s.route (c.request env func) = .error .unknownFunction := by
    cases c with
    | context out | call data mode | acquire | release mode =>
      simp only [Session.route, Request.route, FunctionCall.request, hfind]
      rfl
    | ref | unref =>
      obtain ⟨own, e, table', hfindEnv, -, -, rfl, -, htable'⟩ :=
        h.findEnv hserved (henv (by simp [FunctionCall.TakesEnv]))
      simp only [Session.route, Request.route, FunctionCall.request, hfind, hfindEnv]
      rfl
  unfold Session.forward
  rw [hroute]
  cases c <;> rfl

/-- Before a creation goes to the runtime behind the env, a wrapped handle is reserved for it. -/
theorem Twin.forward_create (h : Twin A past pairs hosts none s d) (hserved : A.Served hosts)
    (henv : s.wrapped.StandsFor A env raw) (spec : FunctionSpec) :
    ∃ own e, s.wrapped.envs.live? own = some e ∧ A.hosts e.host ∧
      s.forward (.createThreadsafeFunction env spec true) =
        ({ s with
          ids := ⟨s.ids.next + 1⟩
          wrapped := s.wrapped.reserveFunction ⟨s.ids.next⟩ own e.host }.keepHost e.host).run
          (.entry .runtime (.createThreadsafeFunction raw
            { spec with finalizer := some (.wrapped ⟨s.ids.next⟩ spec.finalizer) } true))
          [.forwardedCreate e.host ⟨s.ids.next⟩] := by
  obtain ⟨own, e, table, hfind, hentry, hlive, rfl, hhost, htable⟩ := h.findEnv hserved henv
  refine ⟨own, e, hlive, hhost, ?_⟩
  have hprovider := htable .createThreadsafeFunction rfl
  have hroute : s.route (.createThreadsafeFunction env spec true) =
      .ok { host := e.host, table := table, request := .createThreadsafeFunction e.raw spec true } := by
    simp only [Session.route, Request.route, hfind]
    rfl
  unfold Session.forward
  simp only [hroute, Request.entry, hprovider, Session.forwardCreate, hentry]
  rfl

/-! ### The runtime -/

/-- A raw number with a mode is the number of this mode. -/
theorem CallMode.raw_of_ofRaw? {n : ℤ} {m : CallMode} (h : CallMode.ofRaw? n = some m) :
    n = m.raw := by
  unfold CallMode.ofRaw? at h
  split_ifs at h with h₀ h₁ <;> cases h <;> assumption

/-- A function is marked as keeping the event loop alive, or not, in both sessions. -/
theorem Twin.setReferenced (h : Twin A past pairs hosts none s d) (hp : .function w f f' ∈ pairs)
    (on : Bool) : Twin A past pairs hosts none (s.setReferenced f on) (d.setReferenced f' on) :=
  h.changeFunction hp (fun fn => { fn with referenced := on }) (fun _ => rfl) fun _ hof => ⟨hof.1, hof.2⟩

/-- The runtime refuses a call with a handle that does not resolve. -/
theorem Session.runtimeEntry_unknown (s : Session) (t : ThreadId) (c : FunctionCall) (env : Word)
    (hfunc : s.functions.entry? ⟨func⟩ = none) :
    s.runtimeEntry t (c.request env func) = s.respond .invalidArg := by
  cases c <;>
    simp only [FunctionCall.request, Session.runtimeEntry, Session.withFunction, hfunc] <;>
    split <;> rfl

/-- The runtime performs a call of a function in both sessions. -/
theorem Twin.functionCall (h : Twin A past pairs hosts none s d) (hp : .function w f f' ∈ pairs)
    (c : FunctionCall) (env : Word) {fn : ThreadsafeFunction}
    (hfn : s.functions.entry? ⟨func⟩ = some (f, fn.wrappedAs w))
    (hfn' : d.functions.entry? ⟨func'⟩ = some (f', fn)) (hobject' : d.functions.object? f' = some fn)
    (hspace : ∀ data, c = .call data CallMode.blocking.raw → (fn.isFull && !fn.closing) = false)
    (hstack : StackAlike A pairs hosts .between (.response (c.request env func).entry) fs fs') :
    Move.Alike A past fs fs' (s.runtimeEntry .main (c.request env func))
      (d.runtimeEntry .main (c.request env func')) := by
  cases c with
  | context out =>
    simp only [FunctionCall.request, Session.runtimeEntry, Session.withFunction, hfn, hfn']
    split
    · exact h.respond _ hstack
    · exact h.give (X := .response .getThreadsafeFunctionContext) ⟨_, _, _, rfl, rfl, .some rfl⟩ hstack
  | call data mode =>
    simp only [FunctionCall.request, Session.runtimeEntry, Session.withFunction, hfn, hfn']
    cases hmode : CallMode.ofRaw? mode with
    | none => exact h.respond _ hstack
    | some m =>
      refine h.run (.call hp data m ?_) (.outcomeResponse hstack)
      rintro rfl fn₁ hfn₁
      obtain rfl : fn₁ = fn := Option.some.inj (hfn₁.symm.trans hobject')
      exact hspace data (congrArg _ (CallMode.raw_of_ofRaw? hmode))
  | acquire =>
    simp only [FunctionCall.request, Session.runtimeEntry, Session.withFunction, hfn, hfn']
    refine respondOutcome ?_ hstack
    simp only [Session.acquire, show (fn.wrappedAs w).closing = fn.closing from rfl]
    split
    · exact ⟨_, _, _, rfl, rfl, h⟩
    · exact ⟨_, _, _, rfl, rfl,
        (h.changeFunction hp (·.acquire) (fun _ => rfl) fun _ hof => ⟨hof.1, hof.2⟩).emit rfl rfl⟩
  | release mode =>
    simp only [FunctionCall.request, Session.runtimeEntry, Session.withFunction, hfn, hfn']
    cases ReleaseMode.ofRaw? mode with
    | none => exact h.respond _ hstack
    | some m => exact h.run (.release hp m) (.outcomeResponse hstack)
  | ref | unref =>
    simp only [FunctionCall.request, Session.runtimeEntry, Session.withFunction, hfn, hfn']
    exact (h.setReferenced hp _).respond _ hstack

/-! ### The call of an addon -/

/-- A call of an entry that a table provides itself, unless it is a blocking call that would have to
wait. -/
theorem Session.callEntry_eq (s : Session) {name : String} {table : HostTable} {p : Provider}
    {a : EntryArgs} {q : Request} (htable : s.findTable? name = some table)
    (he : e.ofRuntime = true) (hprovider : table.provider? e = some p) (hp : p ≠ .injected)
    (hq : s.buildRequest e a = some q)
    (hspace : e = .callThreadsafeFunction → a.mode = CallMode.blocking.raw →
      s.callWouldWait ⟨s.value a.func⟩ = false) :
    s.callEntry name e a = s.run (.entry p q) [.responseAnswer a.out] := by
  have hfatal : e ≠ .fatalError := by
    rintro rfl
    cases he
  have hforwards : table.forwards e = false := by simp [HostTable.forwards, hprovider, hp]
  have hguard : (decide (e = .callThreadsafeFunction) && decide (a.mode = CallMode.blocking.raw) &&
      s.callWouldWait ⟨s.value a.func⟩) = false := by
    by_cases h₁ : e = .callThreadsafeFunction <;> by_cases h₂ : a.mode = CallMode.blocking.raw <;>
      simp_all
  unfold Session.callEntry Session.withTable
  simp [htable, hfatal, hforwards, hprovider, hq, hguard]

namespace Twin

theorem standsFor (h : Twin A past pairs hosts none s d) {r r' : Ref} (hr : A.AreEnvs r r') :
    s.wrapped.StandsFor A (s.value r) (d.value r') := by
  obtain ⟨name, raw, rfl, hkind, rfl⟩ := hr
  exact h.resolveEnv hkind

theorem matchFunction (h : Twin A past pairs hosts none s d) {r : Ref} (hr : A.IsFunction r) :
    Pair.Match pairs .function (s.value r) (d.value r) := by
  obtain ⟨name, rfl, hkind⟩ := hr
  simpa [hkind] using h.values name

theorem matchJob (h : Twin A past pairs hosts none s d) {r : Ref} (hr : A.IsJob r) :
    Pair.Match pairs .job (s.value r) (d.value r) := by
  obtain ⟨name, rfl, hkind⟩ := hr
  simpa [hkind] using h.values name

/-- The addon's call becomes the same call with wrapped and with raw handles. -/
theorem buildRequest (h : Twin A past pairs hosts none s d) {a a' : EntryArgs}
    (he : e.ofRuntime = true) (ha : A.Args e a a')
    (hspace : e = .callThreadsafeFunction → a.mode = CallMode.blocking.raw →
      d.callWouldWait ⟨d.value a.func⟩ = false) :
    ∃ q q', s.buildRequest e a = some q ∧ d.buildRequest e a' = some q' ∧ q.entry = e ∧
      Routed A pairs s.wrapped d.functions q q' := by
  obtain ⟨env', rfl⟩ : ∃ env', a' = { a with env := env' } := ⟨_, ha.same⟩
  have henv := fun hmem => h.standsFor (ha.env hmem)
  have hdata := fun hmem => h.value_eq (ha.data hmem)
  have hwork := fun hmem => h.matchJob (ha.work hmem)
  have hfunc := fun hmem => h.matchFunction (ha.func hmem)
  have hcalls : ∀ c : FunctionCall, (∀ data mode, c ≠ .call data mode) → ∀ data,
      c = .call data CallMode.blocking.raw → ∀ fn, d.functions.get? ⟨d.value a.func⟩ = some fn →
      (fn.isFull && !fn.closing) = false := fun c hc data heq => absurd heq (hc data _)
  cases e with
  | createAsyncWork =>
    refine ⟨_, _, rfl, rfl, rfl, ?_⟩
    rw [hdata (by simp)]
    exact .createAsyncWork (henv (by simp)) ..
  | deleteAsyncWork =>
    exact ⟨_, _, rfl, rfl, rfl, .deleteAsyncWork (henv (by simp)) (hwork (by simp))⟩
  | queueAsyncWork =>
    exact ⟨_, _, rfl, rfl, rfl, .queueAsyncWork (henv (by simp)) (hwork (by simp))⟩
  | cancelAsyncWork =>
    exact ⟨_, _, rfl, rfl, rfl, .cancelAsyncWork (henv (by simp)) (hwork (by simp))⟩
  | createThreadsafeFunction =>
    refine ⟨_, _, rfl, rfl, rfl, ?_⟩
    obtain ⟨hcallee, hmax, hthreads, hcontext⟩ := ha.created rfl
    simp only [h.value_eq hcallee, h.value_eq hmax, h.value_eq hthreads, h.value_eq hcontext,
      hdata (by simp)]
    have hfinalizer : Session.extensionFinalizer a.finalize (s.value a.data) =
        (if a.finalize then some (s.value a.data) else none).map .extension := by
      unfold Session.extensionFinalizer
      split <;> rfl
    rw [hfinalizer]
    exact .createThreadsafeFunction (henv (by simp))
      { func := s.value a.func
        maxQueueSize := s.value a.max
        threadCount := s.value a.threads
        context := s.value a.context
        callJs := a.callJs } _ _
  | getThreadsafeFunctionContext =>
    exact ⟨_, _, rfl, rfl, rfl, .function (.context a.out.isSome) 0 0
      (fun hc => by simp [FunctionCall.TakesEnv] at hc) (hfunc (by simp)) (hcalls _ (by simp))⟩
  | callThreadsafeFunction =>
    refine ⟨_, _, rfl, rfl, rfl, ?_⟩
    rw [hdata (by simp)]
    refine .function (.call (s.value a.data) a.mode) 0 0
      (fun hc => by simp [FunctionCall.TakesEnv] at hc) (hfunc (by simp)) fun data hmode fn hfn => ?_
    have hwait := hspace rfl (by simp_all)
    simpa [Session.callWouldWait, hfn] using hwait
  | acquireThreadsafeFunction =>
    exact ⟨_, _, rfl, rfl, rfl, .function .acquire 0 0
      (fun hc => by simp [FunctionCall.TakesEnv] at hc) (hfunc (by simp)) (hcalls _ (by simp))⟩
  | releaseThreadsafeFunction =>
    exact ⟨_, _, rfl, rfl, rfl, .function (.release a.mode) 0 0
      (fun hc => by simp [FunctionCall.TakesEnv] at hc) (hfunc (by simp)) (hcalls _ (by simp))⟩
  | refThreadsafeFunction =>
    exact ⟨_, _, rfl, rfl, rfl, .function .ref _ _ (fun _ => henv (by simp)) (hfunc (by simp))
      (hcalls _ (by simp))⟩
  | unrefThreadsafeFunction =>
    exact ⟨_, _, rfl, rfl, rfl, .function .unref _ _ (fun _ => henv (by simp)) (hfunc (by simp))
      (hcalls _ (by simp))⟩
  | _ => cases he

end Twin

end AddonHost
