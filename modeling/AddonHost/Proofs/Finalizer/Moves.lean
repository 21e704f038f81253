import AddonHost.Proofs.Finalizer.Passing

/-!
Moves that pass finalizers on.

A move passes finalizers on if it has nothing to do with those that were called or are remembered,
and if what its thread holds afterwards satisfies a predicate that says which finalizers there may
be (`Move.Passes`).  A thread that goes on to call a finalizer waits for its end in a frame of its
own, which is not that of a multiplexer's finalizer.
-/

namespace AddonHost

/-- What a thread holds after a move satisfies a predicate, and nothing else has to do with
finalizers. -/
structure Move.Passes (P : Finalizer → Prop) (s : Session) (m : Move) : Prop where
  session : Session.Spares s m.session
  control : ∀ fin, m.control.finalizer? = some fin → P fin
  frames : ∀ fr ∈ m.frames, fr.isUnwrapped = false ∧ ∀ fin, fr.finalizer? = some fin → P fin
  waits : m.control.isFinalizer = true → m.frames ≠ []

variable {P : Finalizer → Prop} {s s' : Session} {t : ThreadId} {m : Move}

namespace Session

@[simp] theorem passes_run (c : Code) (frames : List Frame) :
    (s'.run c frames).Passes P s ↔ Spares s s' ∧ (∀ fin, c.finalizer? = some fin → P fin) ∧
      (∀ fr ∈ frames, fr.isUnwrapped = false ∧ ∀ fin, fr.finalizer? = some fin → P fin) ∧
      (c.isFinalizer = true → frames ≠ []) :=
  ⟨fun h => ⟨h.session, h.control, h.frames, h.waits⟩, fun h => ⟨h.1, h.2.1, h.2.2.1, h.2.2.2⟩⟩

@[simp] theorem passes_give_frames (s'' : Session) (r : Reply) (frames : List Frame) :
    ({ session := s', control := (s''.give r).control, frames } : Move).Passes P s ↔ Spares s s' ∧
      ∀ fr ∈ frames, fr.isUnwrapped = false ∧ ∀ fin, fr.finalizer? = some fin → P fin :=
  ⟨fun h => ⟨h.session, h.frames⟩, fun h => ⟨h.1, by simp [give], h.2, by simp [give]⟩⟩

@[simp] theorem passes_give (r : Reply) : (s'.give r).Passes P s ↔ Spares s s' :=
  (passes_give_frames s' r []).trans (by simp)

@[simp] theorem passes_reply (a : Answer) : (s'.reply a).Passes P s ↔ Spares s s' := passes_give _

@[simp] theorem passes_respond (status : Status) :
    (s'.respond status).Passes P s ↔ Spares s s' := passes_give _

@[simp] theorem passes_refuse (r : Refusal) : (s'.refuse r).Passes P s ↔ Spares s s' :=
  passes_give _

@[simp] theorem passes_respondOutcome (p : Outcome × Session) :
    (respondOutcome p).Passes P s ↔ Spares s p.2 := passes_respond _

@[simp] theorem passes_answerOutcome (p : Outcome × Session) :
    (answerOutcome p).Passes P s ↔ Spares s p.2 := passes_reply _

@[simp] theorem passes_abort : s'.abort.Passes P s ↔ Spares s s' := by
  simp [abort]

@[simp] theorem passes_fail :
    ({ session := s', control := .fail } : Move).Passes P s ↔ Spares s s' :=
  ⟨fun h => h.session, fun h => ⟨h, by simp, List.forall_mem_nil _, by simp⟩⟩

/-! ### Threadsafe functions -/

theorem passes_appendItem (f : HandleId) (fn : ThreadsafeFunction) (data : Word) :
    (s.appendItem t f fn data).Passes P s := by
  unfold appendItem
  simp only
  split
  · simp
  · split <;>
      next h =>
        simp [spares_of_offer h]

theorem passes_call (f : HandleId) (data : Word) (mode : CallMode) :
    (s.call t f data mode).Passes P s := by
  unfold call
  split
  · simp
  · split
    · simp
    · simp
    · exact passes_appendItem ..

theorem passes_awaitSpace {f : HandleId} {data : Word} (hm : s.awaitSpace t f data = some m) :
    m.Passes P s := by
  unfold awaitSpace at hm
  split at hm
  · obtain rfl := Option.some.inj hm
    simp
  · split_ifs at hm <;> obtain rfl := Option.some.inj hm
    · simp
    · simp
    · exact passes_appendItem ..

theorem passes_closeThen (f : HandleId) (r : Reply) (hs : Spares s s') :
    (s'.closeThen t f r).Passes P s := by
  unfold closeThen
  split
  · simpa using hs
  · split
    · simpa using hs
    · simp only
      split
      · simpa using hs
      · split <;>
          next h =>
            simpa [spares_of_offer h] using hs

theorem passes_release (f : HandleId) (mode : ReleaseMode) :
    (s.release t f mode).Passes P s := by
  unfold release
  split
  · simp
  · split
    · simp
    · split
      · exact passes_closeThen _ _ (by simp)
      · simp only
        split
        · exact passes_closeThen _ _ (by simp)
        · simp

theorem passes_drain (f : HandleId) : (s.drain f).Passes P s := by
  unfold drain
  split
  · simp
  · simp only
    split
    · simp
    · split <;>
        simp

theorem passes_afterDrain (f : HandleId) (wasEmpty : Bool) :
    (s.afterDrain t f wasEmpty).Passes P s := by
  unfold afterDrain
  split
  · simp
  · split
    · exact passes_closeThen _ _ (.refl s)
    · simp

theorem passes_deliverWith (f : HandleId) (fn : ThreadsafeFunction) (func data : Word)
    (hs : Spares s s') : (s'.deliverWith f fn func data).Passes P s := by
  unfold deliverWith
  split
  · simpa using hs
  · split
    · simpa using hs
    · simpa using hs

theorem passes_deliver (f : HandleId) (data : Word) : (s.deliver f data).Passes P s := by
  unfold deliver
  split
  · simp
  · split
    · simp
    · exact passes_deliverWith _ _ _ _ (.refl s)

theorem passes_afterReference (f : HandleId) (data : Word) (r : Response) :
    (s.afterReference f data r).Passes P s := by
  unfold afterReference
  split
  · simp
  · split
    · exact passes_deliverWith _ _ _ _ (.refl s)
    · exact passes_deliverWith _ _ _ _ (by simp)

theorem passes_afterReceiver (f : HandleId) (func : Word) (r : Response) :
    (s.afterReceiver f func r).Passes P s := by
  unfold afterReceiver
  split
  · simp
  · simp

theorem passes_afterResult (f : HandleId) (r : Response) : (s.afterResult f r).Passes P s := by
  unfold afterResult
  split <;> simp

/-- A teardown calls the finalizer that the function was created with. -/
theorem passes_teardown {f : HandleId}
    (hP : ∀ fn, s.functions.object? f = some fn → ∀ fin, fn.finalizer = some fin → P fin) :
    (s.teardown f).Passes P s := by
  unfold teardown
  split
  · simp
  · next fn hfn =>
    simp only
    split
    · simp
    · next fin hfin =>
      simp [hP fn hfn fin hfin]

theorem passes_afterFinalizer (f : HandleId) : (s.afterFinalizer f).Passes P s := by
  unfold afterFinalizer
  split
  · simp
  · simp only
    split <;>
      simp

theorem passes_unregisterFunction (f : HandleId) : (s.unregisterFunction f).Passes P s := by
  unfold unregisterFunction
  split
  · simp
  · simp

theorem passes_registerFunction (env reference : Word) (spec : FunctionSpec) (delivery : Delivery)
    (invoker : Option InvokerId) :
    (s.registerFunction env reference spec delivery invoker).Passes P s := by
  simp [registerFunction, freshId]

theorem passes_createFunction {spec : FunctionSpec}
    (hP : ∀ fin, spec.finalizer = some fin → P fin) (env : Word) (delivery : Delivery)
    (invoker : Option InvokerId) : (s.createFunction env spec delivery invoker).Passes P s := by
  unfold createFunction
  split
  · simpa using hP
  · exact passes_registerFunction ..

/-! ### The end of the process -/

@[simp] theorem passes_fatalError (location message : String) :
    (s.fatalError location message).Passes P s := by
  unfold fatalError
  simp only
  split <;> simp

@[simp] theorem passes_fatalEntry (p : Provider) (location message : RawText) :
    (s.fatalEntry p location message).Passes P s := by
  unfold fatalEntry
  split <;> simp

theorem passes_registerEntry (p : Provider) (moduleHandle : Word) :
    (s.registerEntry p moduleHandle).Passes P s := by
  unfold registerEntry
  split
  · simp
  · simp
  · split <;> simp
  · simp

theorem passes_afterCreateReference (env : Word) (spec : FunctionSpec) (delivery : Delivery)
    (invoker : Option InvokerId) (r : Response) :
    (s.afterCreateReference env spec delivery invoker r).Passes P s := by
  unfold afterCreateReference
  split
  · exact passes_registerFunction ..
  · simp

/-! ### Jobs -/

theorem passes_completeJob (j : HandleId) (job : AsyncJob) (env : Word) (status : Status)
    (hs : Spares s s') : (s'.completeJob j job env status).Passes P s := by
  simpa [completeJob] using hs

theorem passes_work (j : HandleId) (env : Word) : (s.work j env).Passes P s := by
  unfold work
  split
  · simp
  · simp only
    split
    · simp
    · split
      · simp
      · simp
      · exact passes_completeJob _ _ _ _ (by simp)

theorem passes_afterExecute (j : HandleId) (env : Word) : (s.afterExecute j env).Passes P s := by
  unfold afterExecute
  split
  · simp
  · exact passes_completeJob _ _ _ _ (.refl s)

/-! ### Invokers -/

theorem passes_task (i : InvokerId) (task : Task) : (s.task i task).Passes P s := by
  unfold Session.task
  split
  · exact passes_drain _
  · simp
  · exact passes_work ..
  · simp
  · simp

theorem passes_runNext {i : InvokerId} {inv : Invoker} {after : Frame}
    (hafter : after.isBare = true) (hm : s.runNext i inv after = some m) : m.Passes P s := by
  obtain ⟨⟨sub, s'⟩, hstart, rfl⟩ := Option.map_eq_some_iff.1 hm
  rw [Frame.isBare, Bool.and_eq_true, Option.isNone_iff_eq_none, Bool.not_eq_true'] at hafter
  rw [passes_run, spares_of_startTask hstart, List.forall_mem_cons, List.forall_mem_singleton]
  have hnone : ∀ fin, after.finalizer? = some fin → P fin := fun fin hfin =>
    absurd (hafter.1.symm.trans hfin) (by simp)
  exact ⟨.refl s, by simp, ⟨⟨rfl, by simp⟩, hafter.2, hnone⟩, by simp⟩

theorem passes_pump (i : InvokerId) (goal : PumpGoal) : (s.pump i goal).Passes P s := by
  unfold pump
  split
  · simp
  · split
    · next hm => exact passes_runNext rfl hm
    · split
      · simp
      · simp
      · simp
      · split <;> simp

theorem passes_loop {i : InvokerId} (hm : s.loop i = some m) : m.Passes P s := by
  unfold loop at hm
  split at hm
  · simp at hm
  · split at hm
    · simp at hm
    · split at hm
      · obtain rfl := Option.some.inj hm
        simp
      · exact passes_runNext rfl hm

theorem passes_afterPumped (i : InvokerId) (goal : PumpGoal) :
    (s.afterPumped i goal).Passes P s := by
  unfold afterPumped
  simp only
  split <;> simp

theorem passes_awaitTask {i : InvokerId} {completion : Nat}
    (hm : s.awaitTask i completion = some m) : m.Passes P s := by
  unfold awaitTask at hm
  split at hm
  · obtain rfl := Option.some.inj hm
    simp
  · split at hm
    · split at hm
      · obtain rfl := Option.some.inj hm
        simp
      · simp at hm
    · simp at hm

theorem passes_awaitOccupied {i : InvokerId} (hm : s.awaitOccupied i = some m) : m.Passes P s := by
  unfold awaitOccupied at hm
  split at hm
  · simp at hm
  · obtain rfl := Option.some.inj hm
    simp

theorem passes_occupied {i : InvokerId} (hm : s.occupied i = some m) : m.Passes P s := by
  unfold occupied at hm
  split at hm
  · simp at hm
  · obtain rfl := Option.some.inj hm
    simp

theorem passes_awaitEnd {i : InvokerId} {r : Reply} (hm : s.awaitEnd i r = some m) :
    m.Passes P s := by
  obtain ⟨-, rfl⟩ : s.hasEnded i = true ∧ s.give r = m := by simpa [awaitEnd] using hm
  simp

theorem passes_letGo (i : InvokerId) (r : Reply) : (s.letGo t i r).Passes P s := by
  unfold letGo
  split
  · simp
  · simp only
    split
    · simp
    · split
      · simp
      · split <;> simp

theorem passes_afterJoined (i : InvokerId) : (s.afterJoined i).Passes P s := by
  unfold afterJoined
  split
  · split <;> simp
  · simp

theorem passes_submit (i : InvokerId) (sync : Bool) (actions : List Action) (rejected : Rejected)
    (hs : Spares s s') : (s'.submit t i sync actions rejected).Passes P s := by
  unfold submit
  split
  case h_4 h =>
    cases rejected <;> simpa [spares_of_offer h] using hs
  all_goals
    next h => simpa [spares_of_offer h] using hs

/-! ### Entries -/

theorem passes_withFunction (func : Word) {act : HandleId → ThreadsafeFunction → Move}
    (h : ∀ f fn, (act f fn).Passes P s) : (s.withFunction func act).Passes P s := by
  unfold withFunction
  split
  · simp
  · exact h _ _

theorem passes_createFunctionEntry {spec : FunctionSpec}
    (hP : ∀ fin, spec.finalizer = some fin → P fin) (env : Word) (out : Bool) :
    (s.createFunctionEntry env spec out).Passes P s := by
  unfold createFunctionEntry
  split
  · simp
  · split
    · simp
    · simpa using hP

theorem passes_runtimeEntry {r : Request} (hP : ∀ fin, r.finalizer? = some fin → P fin) :
    (s.runtimeEntry t r).Passes P s := by
  unfold runtimeEntry
  split
  case h_1 => split <;> simp
  case h_5 => exact passes_createFunctionEntry hP ..
  case h_6 =>
    split
    · simp
    · exact passes_withFunction _ (by simp)
  case h_7 | h_9 =>
    split
    · simp
    · exact passes_withFunction _ (by simp)
  case h_8 | h_10 | h_11 => exact passes_withFunction _ (by simp)
  all_goals simp

theorem passes_engineEntry {r : Request} (hP : ∀ fin, r.finalizer? = some fin → P fin)
    (slot : Nat) : (s.engineEntry slot r).Passes P s := by
  simpa [engineEntry] using hP

theorem passes_refuseRoute (e : Entry) (p : RouteProblem) : (s.refuseRoute e p).Passes P s := by
  simp [refuseRoute]

theorem finalizer?_of_entry_ne {r : Request} (hr : r.entry ≠ .createThreadsafeFunction) :
    r.finalizer? = none := by
  cases r <;> simp_all [Request.entry]

/-- A computation that ends well passes through an intermediate result. -/
theorem exists_of_bind_eq_ok {α β : Type} {x : Except RouteProblem α}
    {f : α → Except RouteProblem β} {b : β} (h : x >>= f = .ok b) : ∃ a, f a = .ok b := by
  cases x with
  | error _ => cases h
  | ok a => exact ⟨a, h⟩

/-- A call is forwarded to the entry of the same name. -/
theorem entry_of_route {r : Request} {d : Destination} (hd : s.route r = .ok d) :
    d.request.entry = r.entry := by
  unfold route at hd
  split at hd
  case h_4 handle hroute =>
    obtain ⟨_, hd⟩ := exists_of_bind_eq_ok hd
    obtain rfl := Except.ok.inj hd
    cases r <;> simp_all [Request.route, Request.entry]
  case h_3 =>
    obtain ⟨_, hd⟩ := exists_of_bind_eq_ok hd
    obtain ⟨_, hd⟩ := exists_of_bind_eq_ok hd
    obtain rfl := Except.ok.inj hd
    simp
  all_goals
    obtain ⟨_, hd⟩ := exists_of_bind_eq_ok hd
    obtain rfl := Except.ok.inj hd
    simp

/-- Calls that are forwarded pass finalizers on, except for the creation of a function. -/
theorem passes_forward {r : Request} (hr : r.entry ≠ .createThreadsafeFunction) :
    (s.forward r).Passes P s := by
  unfold forward
  split
  · simp
  · split
    · exact passes_refuseRoute ..
    · next d hd =>
      have hfin := finalizer?_of_entry_ne (entry_of_route hd ▸ hr)
      split
      · exact passes_refuseRoute ..
      · split
        · simp [Request.entry] at hr
        all_goals simp [-Request.finalizer?, hfin]

theorem passes_entry {p : Provider} {r : Request}
    (hr : p = .multiplexer → r.entry ≠ .createThreadsafeFunction)
    (hP : ∀ fin, r.finalizer? = some fin → P fin) : (s.entry t p r).Passes P s := by
  unfold entry
  split
  · exact passes_engineEntry hP _
  · exact passes_runtimeEntry hP
  · split
    · simp
    · simpa using hP
    · simp
  · exact passes_forward (hr rfl)

/-! ### Actions -/

theorem passes_withInvoker (name : String) {act : InvokerId → Invoker → Move}
    (h : ∀ i inv, (act i inv).Passes P s) : (s.withInvoker name act).Passes P s := by
  unfold withInvoker
  split
  · simp
  · exact h _ _

theorem passes_withThread (name : String) {act : InvokerId → InterpreterThread → Move}
    (h : ∀ i r, (act i r).Passes P s) : (s.withThread name act).Passes P s := by
  unfold withThread
  split
  · simp
  · exact h _ _

theorem passes_withFound (r : Ref) {act : HandleId → ThreadsafeFunction → Move}
    (h : ∀ f fn, (act f fn).Passes P s) : (s.withFound r act).Passes P s := by
  unfold withFound
  split
  · simp
  · exact h _ _

theorem passes_withTable (name : String) {act : HostTable → Move}
    (h : ∀ table, (act table).Passes P s) : (s.withTable name act).Passes P s := by
  unfold withTable
  split
  · simp
  · exact h _

theorem passes_withRegistry (name : String) {act : Registry String → Move}
    (h : ∀ r, (act r).Passes P s) : (s.withRegistry name act).Passes P s := by
  unfold withRegistry
  split
  · simp
  · exact h _

theorem spares_setThread {u : ThreadId} {th : Thread} (hth : th.isBare = true)
    (hs : Spares s s') : Spares s (s'.setThread u th) where
  engines := hs.engines
  finalized := hs.finalized
  threads p hp := by
    rcases Assoc.mem_of_mem_insert hp with rfl | hp
    · exact .inr hth
    · exact hs.threads p hp

theorem passes_nameInvoker (name : String) (i : InvokerId) (hs : Spares s s') :
    (s'.nameInvoker name i).Passes P s := by
  unfold nameInvoker
  simp only
  split <;> simpa using hs

theorem passes_createInvoker (name : String) (spec : InvokerSpec) :
    (s.createInvoker t name spec).Passes P s := by
  unfold createInvoker
  split
  · exact passes_nameInvoker _ _ (by simp)
  · split
    · simp
    · simp
    · refine passes_nameInvoker _ _ ?_
      rw [spares_log]
      exact spares_setThread rfl (by simp)

theorem passes_startProducer (name : String) {c : Code} (hc : c.finalizer? = none)
    (hs : Spares s s') : (s'.startProducer name c).Passes P s := by
  rw [startProducer, passes_reply]
  refine spares_setThread ?_ (by simpa using hs)
  simp [-Code.finalizer?, Thread.isBare, Frame.isBare, hc]

theorem passes_dropInvoker (name : String) : (s.dropInvoker name).Passes P s := by
  unfold dropInvoker
  split
  · simp
  · simp only
    split
    · simp
    · split <;> simp

theorem passes_pumpNamed (name : String) (goal : PumpGoal) :
    (s.pumpNamed name goal).Passes P s := by
  refine passes_withInvoker name fun i inv => ?_
  split
  · simp
  · split <;> simp

theorem passes_holdThread (name : String) : (s.holdThread t name).Passes P s := by
  unfold holdThread
  split
  · simp
  · split <;>
      next h => simp [spares_of_offer h]

theorem passes_unholdThread (name : String) : (s.unholdThread name).Passes P s := by
  unfold unholdThread
  split <;> simp

theorem passes_shutdownThread (name : String) : (s.shutdownThread t name).Passes P s := by
  refine passes_withThread name fun i r => ?_
  split <;> simp

theorem passes_describeInvoker (name : String) : (s.describeInvoker name).Passes P s := by
  unfold describeInvoker
  split <;> simp

theorem passes_nameFunction (name : String) (keep : Bool) (id : HandleId) :
    (s.nameFunction name keep id).Passes P s := by
  unfold nameFunction
  simp only
  split <;> simp

theorem passes_createFunctionNamed (hP : ∀ data, P (.extension data)) (a : FunctionArgs) :
    (s.createFunctionNamed a).Passes P s := by
  unfold createFunctionNamed
  simp only
  split
  · simp [hP]
  · exact passes_withInvoker _ (by simp [hP])

theorem passes_createJobNamed (name : String) (env data : Ref) (keep : Bool) :
    (s.createJobNamed name env data keep).Passes P s := by
  unfold createJobNamed
  simp only
  split <;> simp

theorem passes_onJob (job : Ref) (direct : Bool) {kept byId : HandleId → Outcome × Session}
    (hkept : ∀ j, Spares s (kept j).2) (hbyId : ∀ j, Spares s (byId j).2) :
    (s.onJob job direct kept byId).Passes P s := by
  unfold onJob
  split <;> simp [hkept, hbyId]

theorem passes_createHost (name : String) (slot : Nat) (entries : List Entry)
    (overlays : List String) : (s.createHost name slot entries overlays).Passes P s := by
  unfold createHost
  split
  · simp
  · simp only
    split <;> simp

theorem passes_dropHost (name : String) : (s.dropHost name).Passes P s := by
  unfold dropHost
  split <;> simp

theorem passes_inject (name : Option String) : (s.inject name).Passes P s := by
  unfold inject
  split
  · simp
  · exact passes_withTable _ (by simp)

theorem passes_install (name : String) : (s.install name).Passes P s := by
  refine passes_withTable name fun table => ?_
  simp only
  split <;> simp

theorem passes_createMultiplexer (name : String) (register fatal : Bool) :
    (s.createMultiplexer name register fatal).Passes P s := by
  unfold createMultiplexer
  simp only
  split <;> simp

theorem passes_dropMultiplexer (name : String) : (s.dropMultiplexer name).Passes P s := by
  unfold dropMultiplexer
  split <;> simp

theorem passes_wrapEnv (multiplexer host : String) (env : Ref) (out : String) :
    (s.wrapEnv multiplexer host env out).Passes P s := by
  unfold wrapEnv
  split <;> simp

/-- An addon passes callbacks of its own. -/
theorem finalizer?_of_buildRequest (hP : ∀ data, P (.extension data)) {e : Entry} {a : EntryArgs}
    {r : Request} (hr : s.buildRequest e a = some r) :
    ∀ fin, r.finalizer? = some fin → P fin := by
  intro fin hfin
  cases e with
  | createThreadsafeFunction =>
    obtain rfl := Option.some.inj hr
    obtain ⟨-, rfl⟩ : a.finalize = true ∧ Finalizer.extension (s.value a.data) = fin := by
      simpa [extensionFinalizer] using hfin
    exact hP _
  | moduleRegister | fatalError => cases hr
  | _ =>
    obtain rfl := Option.some.inj hr
    cases hfin

theorem passes_callEntry (hP : ∀ data, P (.extension data)) (name : String) (e : Entry)
    (a : EntryArgs) : (s.callEntry name e a).Passes P s := by
  refine passes_withTable name fun table => ?_
  split
  · simp
  · split
    · simp
    · split
      · simp
      · next p _ =>
        split
        · next r hr =>
          split
          · simp
          · simpa using finalizer?_of_buildRequest hP hr
        · split
          · simp
          · have h : (s.fatalEntry p a.location a.message).Passes P s := passes_fatalEntry _ _ _
            refine ⟨h.session, h.control, fun fr hfr => ?_, fun _ => by simp⟩
            rcases List.mem_append.1 hfr with hfr | hfr
            · exact h.frames fr hfr
            · obtain rfl := List.mem_singleton.1 hfr
              exact ⟨rfl, by simp⟩

theorem passes_registryInsert (name value out : String) (withId : Bool) :
    (s.registryInsert name value out withId).Passes P s :=
  passes_withRegistry name fun r => by simp

theorem passes_registryRemove (name : String) (id : Ref) : (s.registryRemove name id).Passes P s :=
  passes_withRegistry name (by simp)

theorem passes_takeIds (name : String) (count : Nat) : (s.takeIds name count).Passes P s := by
  unfold takeIds
  split <;> simp

theorem passes_configureAction (c : RuntimeConfig) : (s.configureAction c).Passes P s := by
  unfold configureAction configure
  split
  · simp
  · next h =>
    split at h
    · simp at h
    · split at h
      · simp at h
      · obtain rfl := Except.ok.inj h
        simp

theorem passes_addScript (target : ScriptTarget) (actions : List Action) :
    (s.addScript target actions).Passes P s := by
  simp [addScript]

/-- What an addon does passes callbacks of its own, and no other finalizers. -/
theorem passes_perform (hP : ∀ data, P (.extension data)) (a : Action) :
    (s.perform t a).Passes P s := by
  cases a with
  | createInvoker name spec => exact passes_createInvoker name spec
  | dropInvoker name => exact passes_dropInvoker name
  | bind env invoker => exact passes_withInvoker invoker (by simp)
  | attach env invoker => exact passes_withInvoker invoker (by simp)
  | submit invoker sync actions rejected =>
    exact passes_withInvoker invoker fun i _ => passes_submit _ _ _ _ (by simp)
  | spawnSubmit name invoker actions =>
    exact passes_withInvoker invoker fun i _ => passes_startProducer _ rfl (by simp)
  | pump invoker goal => exact passes_pumpNamed invoker goal
  | hold invoker => exact passes_holdThread invoker
  | unhold invoker => exact passes_unholdThread invoker
  | requestShutdown invoker => exact passes_withThread invoker (by simp)
  | shutdown invoker => exact passes_shutdownThread invoker
  | describeInvoker invoker => exact passes_describeInvoker invoker
  | createFunction args => exact passes_createFunctionNamed hP args
  | call func data mode =>
    refine passes_withFound func fun f fn => ?_
    split <;> simp
  | spawnCall name func data mode =>
    exact passes_withFound func fun f _ => passes_startProducer _ rfl (.refl s)
  | acquire func => exact passes_withFound func (by simp)
  | release func mode => exact passes_withFound func (by simp)
  | setReferenced func on => exact passes_withFound func (by simp)
  | functionContext func => exact passes_withFound func (by simp)
  | describeFunction func => exact passes_withFound func (by simp)
  | functionState func => exact passes_withFound func (by simp)
  | createJob name env data keep => exact passes_createJobNamed name env data keep
  | queueJob job env direct =>
    simp only [perform]
    exact passes_onJob job direct (by simp) (by simp)
  | cancelJob job direct =>
    simp only [perform]
    exact passes_onJob job direct (by simp) (by simp)
  | describeJob job =>
    simp only [perform]
    split <;> simp
  | script target actions => exact passes_addScript target actions
  | createHost name slot entries overlays => exact passes_createHost name slot entries overlays
  | dropHost name => exact passes_dropHost name
  | describeTable name => exact passes_withTable name (by simp)
  | install name => exact passes_install name
  | inject name => exact passes_inject name
  | setEngine slot entry status mode =>
    rw [perform, passes_reply]
    exact ⟨rfl, rfl, fun _ => .inl⟩
  | createMultiplexer name register fatal => exact passes_createMultiplexer name register fatal
  | dropMultiplexer name => exact passes_dropMultiplexer name
  | wrap multiplexer host env out => exact passes_wrapEnv multiplexer host env out
  | describeMultiplexer name =>
    simp only [perform]
    split <;> simp
  | entry table e args => exact passes_callEntry hP table e args
  | registryInsert registry value out withId =>
    exact passes_registryInsert registry value out withId
  | registryGet registry id => exact passes_withRegistry registry (by simp)
  | registryRemove registry id => exact passes_registryRemove registry id
  | registryContains registry id => exact passes_withRegistry registry (by simp)
  | describeRegistry registry => exact passes_withRegistry registry (by simp)
  | takeIds name count => exact passes_takeIds name count
  | configure config => exact passes_configureAction config
  | _ => simp [perform, unbind, logState]

end Session

/-! ### Every move -/

/-- Whether a piece of code calls a finalizer, or a multiplexer's creation of a function. -/
def Code.concernsFinalizers : Code → Bool
  | .finalizer .. | .entry .multiplexer (.createThreadsafeFunction ..) => true
  | _ => false

/-- A piece of code passes finalizers on, unless it calls one or gives one to a host. -/
theorem Code.step_passes {c : Code} (hm : c.step t s = some m)
    (hc : c.concernsFinalizers = false) (hcode : ∀ fin, c.finalizer? = some fin → P fin)
    (hext : ∀ data, P (.extension data))
    (hfns : ∀ f fn, s.functions.object? f = some fn → ∀ fin, fn.finalizer = some fin → P fin) :
    m.Passes P s := by
  cases c with
  | finalizer => cases hc
  | awaitSpace f data => exact Session.passes_awaitSpace hm
  | awaitTask i completion => exact Session.passes_awaitTask hm
  | awaitOccupied i => exact Session.passes_awaitOccupied hm
  | occupied i => exact Session.passes_occupied hm
  | awaitEnd i r => exact Session.passes_awaitEnd hm
  | loop i => exact Session.passes_loop hm
  | script owner actions =>
    cases actions <;>
      · obtain rfl := Option.some.inj hm
        simp
  | entry p r =>
    obtain rfl := Option.some.inj hm
    refine Session.passes_entry (fun hp hr => ?_) hcode
    subst hp
    cases r <;> simp_all [concernsFinalizers, Request.entry]
  | teardown f =>
    obtain rfl := Option.some.inj hm
    exact Session.passes_teardown (hfns f)
  | createFunction env spec delivery invoker =>
    obtain rfl := Option.some.inj hm
    exact Session.passes_createFunction hcode env delivery invoker
  | perform a =>
    obtain rfl := Option.some.inj hm
    exact Session.passes_perform hext a
  | _ =>
    obtain rfl := Option.some.inj hm
    first
    | exact Session.passes_registerEntry ..
    | exact Session.passes_call ..
    | exact Session.passes_release ..
    | exact Session.passes_deliver ..
    | exact Session.passes_submit _ _ _ _ (.refl s)
    | exact Session.passes_task ..
    | exact Session.passes_pump ..
    | exact Session.passes_letGo ..

/-- A frame passes finalizers on, unless an engine answers. -/
theorem Frame.resume_passes {fr : Frame} (hfr : ∀ slot r, fr ≠ .engineScripted slot r)
    (r : Reply) : (fr.resume t s r).Passes P s := by
  cases fr with
  | engineScripted slot r => exact absurd rfl (hfr slot r)
  | responseAnswer out =>
    simp only [resume, Session.answerResponse]
    split <;> simp
  | createdAnswer name keep => exact Session.passes_nameFunction ..
  | referenced => exact Session.passes_afterCreateReference ..
  | gotFunction => exact Session.passes_afterReference ..
  | gotReceiver => exact Session.passes_afterReceiver ..
  | gotResult => exact Session.passes_afterResult ..
  | drained => exact Session.passes_afterDrain ..
  | finalized => exact Session.passes_afterFinalizer ..
  | unreferenced => exact Session.passes_unregisterFunction ..
  | executed => exact Session.passes_afterExecute ..
  | pumped => exact Session.passes_afterPumped ..
  | looped => simp [resume, Session.afterLooped]
  | joined => exact Session.passes_afterJoined ..
  | forwardedCreate =>
    simp only [resume, Session.afterForwardCreate]
    split <;> simp
  | forwardedHook =>
    simp only [resume, Session.afterForwardHook]
    split
    · split <;> simp
    · simp
  | forwardedUnhook =>
    simp only [resume, Session.afterForwardUnhook]
    split <;> simp
  | _ => simp [resume]

/-- A failure passes finalizers on. -/
theorem Frame.unwind_passes (fr : Frame) : (fr.unwind s).Passes P s := by
  unfold unwind
  simp only
  split <;> simp [Session.loopFailed]

end AddonHost
