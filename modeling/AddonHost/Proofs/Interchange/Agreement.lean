import AddonHost.Proofs.Interchange.Stage
import AddonHost.Proofs.Invoker.Aside
import AddonHost.Proofs.Session.Does

/-!
Moves that are the same on stage.

What operations lead to depends on what is on stage alone, unless it submits a task or closes a
function: on two sessions that are the same on stage it is the same move, and leaves them the same
(`Move.Agrees`).  The thread that makes the move does not matter.
-/

namespace AddonHost

/-- Two moves that are the same on stage, of a thread that goes on with what operations lead to. -/
structure Move.Agrees (i : InvokerId) (name : String) (nested : Bool) (m m' : Move) : Prop where
  onstage : m.session.onstage = m'.session.onstage
  control : m.control = m'.control
  frames : m.frames = m'.frames
  order : m.session.InOrder i name
  light : m.control.isLight nested = true ∧ m.frames.all Frame.isLight = true

/-- Two results of operations that are the same on stage. -/
structure Session.Yield {α : Type*} (i : InvokerId) (name : String) (p p' : α × Session) :
    Prop where
  value : p.1 = p'.1
  onstage : p.2.onstage = p'.2.onstage
  order : p.2.InOrder i name

namespace Session

variable {i : InvokerId} {name : String} {nested : Bool} {s d : Session}

/-! ### Moves -/

@[simp] theorem agrees_give (r : Reply) : (s.give r).Agrees i name nested (d.give r) ↔
    s.onstage = d.onstage ∧ s.InOrder i name :=
  ⟨fun h => ⟨h.onstage, h.order⟩, fun h => ⟨h.1, rfl, rfl, h.2, rfl, rfl⟩⟩

@[simp] theorem agrees_reply (a : Answer) : (s.reply a).Agrees i name nested (d.reply a) ↔
    s.onstage = d.onstage ∧ s.InOrder i name := agrees_give _

@[simp] theorem agrees_respond (status : Status) :
    (s.respond status).Agrees i name nested (d.respond status) ↔
      s.onstage = d.onstage ∧ s.InOrder i name := agrees_give _

@[simp] theorem agrees_refuse (r : Refusal) :
    (s.refuse r).Agrees i name nested (d.refuse r) ↔ s.onstage = d.onstage ∧ s.InOrder i name :=
  agrees_give _

@[simp] theorem agrees_abort : s.abort.Agrees i name nested d.abort ↔
    s.onstage.halt = d.onstage.halt ∧ s.InOrder i name := agrees_give _

@[simp] theorem agrees_run (c : Code) (frames : List Frame) :
    (s.run c frames).Agrees i name nested (d.run c frames) ↔
      s.onstage = d.onstage ∧ s.InOrder i name ∧ c.isLight nested = true ∧
        frames.all Frame.isLight = true :=
  ⟨fun h => ⟨h.onstage, h.order, h.light⟩, fun h => ⟨h.1, rfl, rfl, h.2.1, h.2.2⟩⟩

@[simp] theorem agrees_frames (r : Reply) (frames : List Frame) :
    ({ session := s, control := (s.give r).control, frames } : Move).Agrees i name nested
        { session := d, control := (d.give r).control, frames } ↔
      s.onstage = d.onstage ∧ s.InOrder i name ∧ frames.all Frame.isLight = true :=
  ⟨fun h => ⟨h.onstage, h.order, h.light.2⟩, fun h => ⟨h.1, rfl, rfl, h.2.1, rfl, h.2.2⟩⟩

@[simp] theorem isBlocking_withEnv (r : Request) (env : Word) :
    (r.withEnv env).isBlocking = r.isBlocking := by
  cases r <;> rfl

@[simp] theorem isBlocking_withFunction (r : Request) (func : Word) :
    (r.withFunction func).isBlocking = r.isBlocking := by
  cases r <;> rfl

/-- A call that waits for no space does not do so at the host that it is routed to. -/
theorem isBlocking_route {r : Request} {destination : Destination}
    (hroute : s.route r = .ok destination) (hr : r.isBlocking = false) :
    destination.request.isBlocking = false := by
  unfold route at hroute
  split at hroute
  · next env _ =>
    cases henv : s.findEnv env with
    | error p => simp [henv] at hroute
    | ok found =>
      simp only [henv] at hroute
      obtain rfl := Except.ok.inj hroute
      simpa using hr
  · next func _ =>
    cases hfunc : s.findWrappedFunction func with
    | error p => simp [hfunc] at hroute
    | ok found =>
      simp only [hfunc] at hroute
      obtain rfl := Except.ok.inj hroute
      simpa using hr
  · next env func _ =>
    cases henv : s.findEnv env with
    | error p =>
      rw [henv] at hroute
      cases hroute
    | ok found =>
      cases hfunc : s.findWrappedFunction func with
      | error p =>
        rw [henv, hfunc] at hroute
        cases hroute
      | ok found =>
        simp only [henv, hfunc] at hroute
        obtain rfl := Except.ok.inj hroute
        simpa using hr
  · next handle _ =>
    cases hhook : s.findHook handle with
    | error p => simp [hhook] at hroute
    | ok found =>
      simp only [hhook] at hroute
      obtain rfl := Except.ok.inj hroute
      rfl

theorem agrees_respondOutcome {p p' : Outcome × Session} (hp : Yield i name p p') :
    (respondOutcome p).Agrees i name nested (respondOutcome p') := by
  simp [respondOutcome, hp.value, hp.onstage, hp.order]

theorem agrees_answerOutcome {p p' : Outcome × Session} (hp : Yield i name p p') :
    (answerOutcome p).Agrees i name nested (answerOutcome p') := by
  simp [answerOutcome, hp.value, hp.onstage, hp.order]

theorem entry_buildRequest {e : Entry} {a : EntryArgs} {r : Request}
    (hbuild : s.buildRequest e a = some r) : r.entry = e := by
  cases e <;> simp [buildRequest] at hbuild <;> subst hbuild <;> rfl

theorem isBlocking_buildRequest {e : Entry} {a : EntryArgs} {r : Request}
    (hbuild : s.buildRequest e a = some r) :
    r.isBlocking = (e = .callThreadsafeFunction && CallMode.ofRaw? a.mode = some .blocking) := by
  cases e <;> simp [buildRequest] at hbuild <;> subst hbuild <;> simp [Request.isBlocking]

/-- A call of an entry of the runtime. -/
theorem callEntry_runtime {e : Entry} (he : e.ofRuntime = true) (a : EntryArgs) :
    ∃ r, s.buildRequest e a = some r ∧
      s.callEntry "abi" e a =
        if e = .callThreadsafeFunction && a.mode = CallMode.blocking.raw &&
            s.callWouldWait ⟨s.value a.func⟩ then s.refuse .wouldBlock
        else s.run (.entry .runtime r) [.responseAnswer a.out] := by
  cases e <;> simp [Entry.ofRuntime] at he <;>
    refine ⟨_, rfl, ?_⟩ <;>
    simp [callEntry, withTable, findTable?, HostTable.forwards, HostTable.runtime, Entry.ofRuntime,
      buildRequest]

section Agreeing

variable (h : s.onstage = d.onstage) (hr : s.InOrder i name)

include h hr

/-- A callback performs its script. -/
theorem agrees_callback (owner : ScriptOwner) (key : ScriptKey) {frames : List Frame}
    (hframes : frames.all Frame.isLight = true) :
    ((s.fire key).2.run (.script owner (s.fire key).1) frames).Agrees i name nested
      ((d.fire key).2.run (.script owner (d.fire key).1) frames) := by
  rw [← fire_eq h key]
  simp [h, hr.fire key, Code.isLight, hr.areNested_fire key, hframes]

theorem agrees_engineEntry (slot : Nat) (r : Request) :
    (s.engineEntry slot r).Agrees i name nested (d.engineEntry slot r) := by
  refine agrees_callback ?_ ?_ _ _ (by simp [Frame.isLight])
  · simp [onstage_emit, h]
  · simpa using hr

theorem agrees_finalizer (owner : Option HandleId) (fin : Finalizer) (env hint : Word) :
    (s.finalizer owner fin env hint).Agrees i name nested (d.finalizer owner fin env hint) := by
  unfold finalizer
  split
  · refine agrees_callback ?_ ?_ _ _ rfl <;> cases owner <;> simp [onstage_emit, h, hr]
  · simp [h, hr, Frame.isLight]
  · simp [h, hr, Frame.isLight, Code.isLight]

/-! ### Entries -/

theorem agrees_fatalError (location message : String) :
    (s.fatalError location message).Agrees i name nested (d.fatalError location message) := by
  generalize hline : fatalLine location message = line
  have hs : (s.log .error line).onstage = (d.log .error line).onstage := by simp [h]
  simp only [fatalError, hline, injected_eq hs]
  split <;> simp [reportFatal, h, hr, onstage_emit]

theorem agrees_engineAnswer (slot : Nat) (r : Request) :
    (s.engineAnswer slot r).Agrees i name nested (d.engineAnswer slot r) := by
  unfold engineAnswer
  rw [engines_eq h]
  simp only
  split <;> simp [h, hr, Code.isLight, Frame.isLight]

theorem agrees_forwardCreate (env : Word) (spec : FunctionSpec) {destination : Destination}
    (p : Provider) (hlight : nested = true → destination.request.isBlocking = false) :
    (s.forwardCreate env spec destination p).Agrees i name nested
      (d.forwardCreate env spec destination p) := by
  unfold forwardCreate
  rw [wrapped_eq h]
  split
  · simp [refuseRoute, h, hr]
  · have hs : s.freshId.2.onstage = d.freshId.2.onstage := by simp [h]
    simp only [freshId_eq h, wrapped_eq hs, agrees_run, onstage_keepHost, onstage_wrapped, hs]
    refine ⟨trivial, by simpa using hr, ?_, rfl⟩
    split
    · simp [Code.isLight, Request.isBlocking]
    · simpa [Code.isLight, imp_iff_not_or] using hlight

theorem agrees_forward {r : Request} (hlight : nested = true → r.isBlocking = false) :
    (s.forward r).Agrees i name nested (d.forward r) := by
  unfold forward
  rw [route_eq h]
  split
  · simp [h, hr]
  · split
    · simp [refuseRoute, h, hr]
    · next destination hroute =>
      have hrequest : nested = true → destination.request.isBlocking = false :=
        fun hnested => isBlocking_route hroute (hlight hnested)
      split
      · simp [refuseRoute, h, hr]
      · split
        · exact agrees_forwardCreate h hr _ _ _ hrequest
        all_goals simpa [h, hr, Code.isLight, Frame.isLight, imp_iff_not_or] using hrequest

theorem agrees_withFunction (func : Word) {act act' : HandleId → ThreadsafeFunction → Move}
    (hact : ∀ f fn, (act f fn).Agrees i name nested (act' f fn)) :
    (s.withFunction func act).Agrees i name nested (d.withFunction func act') := by
  unfold withFunction
  rw [functions_eq h]
  split
  · simp [h, hr]
  · exact hact _ _

theorem agrees_createFunctionEntry (env : Word) (spec : FunctionSpec) (out : Bool) :
    (s.createFunctionEntry env spec out).Agrees i name nested
      (d.createFunctionEntry env spec out) := by
  unfold createFunctionEntry
  split
  · simp [h, hr]
  · split
    · simp [h, hr]
    · have hs : s.readConfig.2.onstage = d.readConfig.2.onstage := by simp [h]
      simp [readConfig_eq h, bindings_eq hs, h, hr, Code.isLight, Frame.isLight]

/-! ### Results -/

theorem yield_acquire (f : HandleId) (fn : ThreadsafeFunction) :
    Yield i name (s.acquire f fn) (d.acquire f fn) := by
  unfold acquire
  split
  · exact ⟨rfl, h, hr⟩
  · exact ⟨rfl, by simp [onstage_emit, h], by simpa using hr⟩

theorem yield_createJob (env data : Word) :
    Yield i name (s.createJob env data) (d.createJob env data) := by
  have hs : s.freshId.2.onstage = d.freshId.2.onstage := by simp [h]
  refine ⟨freshId_eq h, ?_, by simpa [createJob] using hr⟩
  simp [createJob, freshId_eq h, jobs_eq hs, h]

theorem yield_cancelJob (j : HandleId) : Yield i name (s.cancelJob j) (d.cancelJob j) := by
  unfold cancelJob
  rw [jobs_eq h]
  split
  · exact ⟨rfl, h, hr⟩
  · split
    · exact ⟨rfl, h, hr⟩
    · exact ⟨rfl, by simp [onstage_emit, h], by simpa using hr⟩
    · exact ⟨rfl, by simp [onstage_emit, h], by simpa using hr⟩

theorem yield_cancelJobById (j : HandleId) :
    Yield i name (s.cancelJobById j) (d.cancelJobById j) := by
  unfold cancelJobById
  rw [jobs_eq h]
  split
  · exact ⟨rfl, h, hr⟩
  · exact yield_cancelJob h hr _

theorem yield_deleteJob (j : HandleId) : Yield i name (s.deleteJob j) (d.deleteJob j) := by
  unfold deleteJob
  rw [jobs_eq h]
  split
  · exact ⟨rfl, h, hr⟩
  · exact ⟨rfl, by simp [onstage_emit, h], by simpa using hr⟩

/-- The runtime's entries, but for the queueing of a job. -/
theorem agrees_runtimeEntry (t t' : ThreadId) {r : Request} (hr' : r.isAside = true)
    (hlight : nested = true → r.isBlocking = false) :
    (s.runtimeEntry t r).Agrees i name nested (d.runtimeEntry t' r) := by
  cases r with
  | createAsyncWork env resource resourceName execute complete data out =>
    simp only [runtimeEntry]
    split
    · simp [h, hr]
    · obtain ⟨hvalue, hs, hr⟩ := yield_createJob h hr env data
      simp [hvalue, hs, hr]
  | deleteAsyncWork env work => exact agrees_respondOutcome (yield_deleteJob h hr _)
  | queueAsyncWork env work => simp [Request.isAside] at hr'
  | cancelAsyncWork env work => exact agrees_respondOutcome (yield_cancelJobById h hr _)
  | createThreadsafeFunction env spec out => exact agrees_createFunctionEntry h hr ..
  | getThreadsafeFunctionContext func out =>
    simp only [runtimeEntry]
    split
    · simp [h, hr]
    · exact agrees_withFunction h hr _ (by simp [h, hr])
  | callThreadsafeFunction func data mode =>
    simp only [runtimeEntry]
    split
    · simp [h, hr]
    · next m hm =>
      refine agrees_withFunction h hr _ fun f fn => ?_
      cases nested <;> cases m <;>
        simp_all [Code.isLight, Frame.isLight, Request.isBlocking]
  | acquireThreadsafeFunction func =>
    exact agrees_withFunction h hr _ fun f fn => agrees_respondOutcome (yield_acquire h hr f fn)
  | releaseThreadsafeFunction func mode =>
    simp only [runtimeEntry]
    split
    · simp [h, hr]
    · exact agrees_withFunction h hr _ (by simp [Code.isLight, Frame.isLight, h, hr])
  | refThreadsafeFunction env func => exact agrees_withFunction h hr _ (by simp [h, hr])
  | unrefThreadsafeFunction env func => exact agrees_withFunction h hr _ (by simp [h, hr])
  | _ => simp [runtimeEntry, h, hr]

theorem agrees_entry (t t' : ThreadId) {p : Provider} {r : Request}
    (hr' : p = .runtime → r.isAside = true) (hlight : nested = true → r.isBlocking = false) :
    (s.entry t p r).Agrees i name nested (d.entry t' p r) := by
  unfold entry
  split
  · exact agrees_engineEntry h hr ..
  · exact agrees_runtimeEntry h hr t t' (hr' rfl) hlight
  · rw [injected_eq h]
    split
    · simp [h, hr]
    · simpa [h, hr, Code.isLight, imp_iff_not_or] using hlight
    · simp [h, hr]
  · exact agrees_forward h hr hlight

/-! ### Threadsafe functions and jobs -/

theorem agrees_deliverWith (f : HandleId) (fn : ThreadsafeFunction) (func data : Word) :
    (s.deliverWith f fn func data).Agrees i name nested (d.deliverWith f fn func data) := by
  unfold deliverWith
  split
  · exact agrees_callback (by simp [onstage_emit, h]) (by simpa using hr) _ _ rfl
  · split <;> simp [h, hr, Code.isLight, Frame.isLight, Request.isBlocking]

theorem agrees_deliver (f : HandleId) (data : Word) :
    (s.deliver f data).Agrees i name nested (d.deliver f data) := by
  unfold deliver
  rw [functions_eq h]
  split
  · simp [h, hr]
  · split
    · simp [h, hr, Code.isLight, Frame.isLight, Request.isBlocking]
    · exact agrees_deliverWith h hr ..

theorem agrees_afterReference (f : HandleId) (data : Word) (r : Response) :
    (s.afterReference f data r).Agrees i name nested (d.afterReference f data r) := by
  unfold afterReference
  rw [functions_eq h]
  split
  · simp [h, hr]
  · split
    · exact agrees_deliverWith h hr ..
    · exact agrees_deliverWith (by simp [h]) (by simpa using hr) ..

theorem agrees_afterReceiver (f : HandleId) (func : Word) (r : Response) :
    (s.afterReceiver f func r).Agrees i name nested (d.afterReceiver f func r) := by
  unfold afterReceiver
  rw [functions_eq h]
  split <;> simp [h, hr, onstage_emit, Code.isLight, Frame.isLight, Request.isBlocking]

theorem agrees_afterResult (f : HandleId) (r : Response) :
    (s.afterResult f r).Agrees i name nested (d.afterResult f r) := by
  unfold afterResult
  split <;> simp [h, hr]

theorem agrees_drain (f : HandleId) : (s.drain f).Agrees i name nested (d.drain f) := by
  unfold drain
  rw [functions_eq h]
  split
  · simp [h, hr]
  · simp only
    split
    · simp [h, hr, onstage_emit, Frame.isLight]
    · split <;> simp [h, hr, onstage_emit, Code.isLight, Frame.isLight]

theorem agrees_teardown (f : HandleId) : (s.teardown f).Agrees i name nested (d.teardown f) := by
  unfold teardown
  rw [functions_eq h]
  split
  · simp [h, hr]
  · simp only
    split <;> simp [h, hr, onstage_emit, Code.isLight, Frame.isLight]

theorem agrees_afterFinalizer (f : HandleId) :
    (s.afterFinalizer f).Agrees i name nested (d.afterFinalizer f) := by
  unfold afterFinalizer
  rw [functions_eq h]
  split
  · simp [h, hr]
  · simp only
    split <;> simp [h, hr, Code.isLight, Frame.isLight, Request.isBlocking]

theorem agrees_unregisterFunction (f : HandleId) :
    (s.unregisterFunction f).Agrees i name nested (d.unregisterFunction f) := by
  unfold unregisterFunction
  rw [functions_eq h]
  split <;> simp [h, hr, onstage_emit]

theorem agrees_registerFunction (env reference : Word) (spec : FunctionSpec) (delivery : Delivery)
    (invoker : Option InvokerId) :
    (s.registerFunction env reference spec delivery invoker).Agrees i name nested
      (d.registerFunction env reference spec delivery invoker) := by
  have hs : s.freshId.2.onstage = d.freshId.2.onstage := by simp [h]
  simp [registerFunction, freshId_eq h, functions_eq hs, h, hr]

theorem agrees_createFunction (env : Word) (spec : FunctionSpec) (delivery : Delivery)
    (invoker : Option InvokerId) :
    (s.createFunction env spec delivery invoker).Agrees i name nested
      (d.createFunction env spec delivery invoker) := by
  unfold createFunction
  split
  · simp [h, hr, Code.isLight, Frame.isLight, Request.isBlocking]
  · exact agrees_registerFunction h hr ..

theorem agrees_afterCreateReference (env : Word) (spec : FunctionSpec) (delivery : Delivery)
    (invoker : Option InvokerId) (r : Response) :
    (s.afterCreateReference env spec delivery invoker r).Agrees i name nested
      (d.afterCreateReference env spec delivery invoker r) := by
  unfold afterCreateReference
  split
  · exact agrees_registerFunction h hr ..
  · exact agrees_fatalError h hr ..

theorem agrees_completeJob (j : HandleId) (job : AsyncJob) (env : Word) (status : Status) :
    (s.completeJob j job env status).Agrees i name nested (d.completeJob j job env status) :=
  agrees_callback (by simp [onstage_emit, h]) (by simpa using hr) _ _ (by simp [Frame.isLight])

theorem agrees_work (j : HandleId) (env : Word) :
    (s.work j env).Agrees i name nested (d.work j env) := by
  have hs : (s.emit (.workStarted j)).onstage = (d.emit (.workStarted j)).onstage := by
    simp [onstage_emit, h]
  unfold work
  rw [jobs_eq h]
  split
  · simp [h, hr]
  · simp only [holdsJob_eq hs]
    split
    · simp [hs, hr]
    · split
      · simp [hs, hr]
      · exact agrees_callback (by simp [onstage_emit, h]) (by simpa using hr) _ _ rfl
      · exact agrees_completeJob hs (by simpa using hr) ..

theorem agrees_afterExecute (j : HandleId) (env : Word) :
    (s.afterExecute j env).Agrees i name nested (d.afterExecute j env) := by
  unfold afterExecute
  rw [jobs_eq h]
  split
  · simp [h, hr]
  · exact agrees_completeJob h hr ..

/-- A task that operations lead to begins. -/
theorem agrees_task (j : InvokerId) {task : Task} (hlight : (Code.task j task).isLight nested) :
    (s.task j task).Agrees i name nested (d.task j task) := by
  cases task with
  | drain f => exact agrees_drain h hr f
  | teardown f => simp [task, h, hr, Code.isLight]
  | work j env => exact agrees_work h hr j env
  | client actions => simp [Code.isLight, Task.isLight] at hlight
  | occupy => simp [Code.isLight, Task.isLight] at hlight

/-! ### Actions -/

theorem agrees_withInvoker (key : String) {act act' : InvokerId → Invoker → Move}
    (hact : ∀ j inv inv', (act j inv).Agrees i name nested (act' j inv')) :
    (s.withInvoker key act).Agrees i name nested (d.withInvoker key act') := by
  unfold withInvoker findInvoker?
  rw [names_eq h]
  cases d.names.invokers.get? key with
  | none => simp [h, hr]
  | some j =>
    have hsome := isSome_invoker_eq h j
    cases hs : s.invokers.get? j <;> cases hd : d.invokers.get? j <;> simp_all

theorem agrees_withFound (r : Ref) {act act' : HandleId → ThreadsafeFunction → Move}
    (hact : ∀ f fn, (act f fn).Agrees i name nested (act' f fn)) :
    (s.withFound r act).Agrees i name nested (d.withFound r act') := by
  unfold withFound
  rw [findFunction?_eq h]
  split
  · simp [h, hr]
  · exact hact _ _

theorem agrees_bind (env : Ref) (invoker : String) :
    (s.bind env invoker).Agrees i name nested (d.bind env invoker) := by
  refine agrees_withInvoker h hr _ fun j _ _ => ?_
  simp [value_eq h, bindings_eq h, h, hr]

theorem agrees_unbind (env : Ref) :
    (s.unbind env).Agrees i name nested (d.unbind env) := by
  simp [unbind, value_eq h, bindings_eq h, h, hr]

theorem agrees_createFunctionNamed (a : FunctionArgs) :
    (s.createFunctionNamed a).Agrees i name nested (d.createFunctionNamed a) := by
  have hs : s.readConfig.2.onstage = d.readConfig.2.onstage := by simp [h]
  unfold createFunctionNamed
  simp only [readConfig_eq h, value_eq h, value_eq hs, bindings_eq h]
  split
  · simp [h, hr, Code.isLight, Frame.isLight]
  · exact agrees_withInvoker h hr _ fun j _ _ => by simp [h, hr, Code.isLight, Frame.isLight]

theorem agrees_nameFunction (key : String) (keep : Bool) (id : HandleId) :
    (s.nameFunction key keep id).Agrees i name nested (d.nameFunction key keep id) := by
  have hs : (s.setVariable key id.value).onstage = (d.setVariable key id.value).onstage := by
    simp [h]
  unfold nameFunction
  simp only [names_eq hs]
  split
  · exact (agrees_reply _).2 ⟨by simp [h], (inOrder_names (by rw [names_eq hs])).2 hr⟩
  · simp [h, hr]

theorem agrees_createJobNamed (key : String) (env data : Ref) (keep : Bool) :
    (s.createJobNamed key env data keep).Agrees i name nested
      (d.createJobNamed key env data keep) := by
  obtain ⟨hvalue, hs, hr⟩ := yield_createJob h hr (s.value env) (s.value data)
  simp only [value_eq h] at hvalue hs hr
  unfold createJobNamed
  simp only [value_eq h, hvalue]
  generalize (d.createJob (d.value env) (d.value data)).1 = id
  have hs : (((s.createJob (d.value env) (d.value data)).2.setVariable key id.value)).onstage
      = (((d.createJob (d.value env) (d.value data)).2.setVariable key id.value)).onstage := by
    simp [hs]
  simp only [names_eq hs]
  split
  · exact (agrees_reply _).2 ⟨by simp [hs], (inOrder_names (by rw [names_eq hs])).2 hr⟩
  · exact (agrees_reply _).2 ⟨hs, hr⟩

omit hr in
theorem agrees_onJob (job : Ref) (direct : Bool)
    {kept byId kept' byId' : HandleId → Outcome × Session}
    (hkept : ∀ j, Yield i name (kept j) (kept' j)) (hbyId : ∀ j, Yield i name (byId j) (byId' j)) :
    (s.onJob job direct kept byId).Agrees i name nested (d.onJob job direct kept' byId') := by
  unfold onJob
  rw [keptJob?_eq h, value_eq h]
  split
  · exact agrees_answerOutcome (hkept _)
  · exact agrees_answerOutcome (hbyId _)

theorem agrees_addScript {target : ScriptTarget} {actions : List Action}
    (htarget : target.isCallback = true) (hactions : Action.areNested actions = true) :
    (s.addScript target actions).Agrees i name nested (d.addScript target actions) := by
  have hs : ∀ key scripts, (∀ actions ∈ scripts, Action.areNested actions = true) →
      (∀ slot e, key ≠ .engine slot e) →
      ({ s with scripts := s.scripts.insert key scripts } : Session).InOrder i name := by
    intro key scripts hscripts hkey
    refine ⟨fun key' scripts' hget => ?_, hr.2⟩
    simp only [Assoc.get?_insert] at hget
    split at hget
    · next heq =>
      obtain rfl := Option.some.inj hget
      exact ⟨hscripts, heq ▸ hkey⟩
    · exact hr.1 key' scripts' hget
  have hlast : ∀ key, ∀ actions' ∈ (s.scripts.get? key).getD [] ++ [actions],
      Action.areNested actions' = true := by
    intro key actions' hmem
    rcases List.mem_append.1 hmem with hmem | hmem
    · cases hget : s.scripts.get? key with
      | none => simp [hget] at hmem
      | some scripts => exact (hr.1 key scripts hget).1 actions' (by simpa [hget] using hmem)
    · rwa [List.mem_singleton.1 hmem]
  unfold addScript
  refine (agrees_reply _).2 ⟨by simp [scripts_eq h, value_eq h, h], hs _ _ (hlast _) ?_⟩
  cases target <;> simp_all [ScriptTarget.isCallback]

theorem agrees_callEntry {e : Entry} {a : EntryArgs}
    (ha : (Action.entry "abi" e a).isOperation nested = true) :
    (s.callEntry "abi" e a).Agrees i name nested (d.callEntry "abi" e a) := by
  simp only [Action.isOperation, Bool.and_eq_true] at ha
  obtain ⟨⟨⟨-, he⟩, -⟩, hnested⟩ := ha
  obtain ⟨r, hbuild, hs⟩ := callEntry_runtime (s := s) he a
  obtain ⟨r', hbuild', hd⟩ := callEntry_runtime (s := d) he a
  obtain rfl : r = r' := Option.some.inj (hbuild.symm.trans ((buildRequest_eq h e a).trans hbuild'))
  rw [hs, hd, value_eq h, callWouldWait_eq h]
  split
  · simp [h, hr]
  · have hlight : (Code.entry .runtime r).isLight nested = true := by
      cases nested <;> simp_all [Code.isLight, isBlocking_buildRequest hbuild]
    simp [h, hr, hlight, Frame.isLight]

theorem agrees_perform (t t' : ThreadId) {a : Action} (ha : a.isOperation nested = true)
    (haside : a.isAside = true) :
    (s.perform t a).Agrees i name nested (d.perform t' a) := by
  cases a with
  | createFunction args => exact agrees_createFunctionNamed h hr args
  | call func data mode =>
    refine agrees_withFound h hr func fun f fn => ?_
    rw [callWouldWait_eq h, value_eq h]
    split
    · simp [h, hr]
    · simpa [h, hr, Code.isLight, Frame.isLight, Action.isOperation] using ha
  | acquire func =>
    exact agrees_withFound h hr func fun f fn => agrees_answerOutcome (yield_acquire h hr f fn)
  | release func mode =>
    exact agrees_withFound h hr func fun f fn => by simp [h, hr, Code.isLight, Frame.isLight]
  | setReferenced func on => exact agrees_withFound h hr func (by simp [h, hr])
  | functionContext func => exact agrees_withFound h hr func (by simp [h, hr])
  | describeFunction func => exact agrees_withFound h hr func (by simp [h, hr])
  | functionState func =>
    exact agrees_withFound h hr func fun f fn => by simp [viewFunction_eq h, h, hr]
  | forgetFunction func =>
    simp only [perform, keptFunction?, names_eq h]
    exact (agrees_reply _).2 ⟨by simp [h], (inOrder_names (by rw [names_eq h])).2 hr⟩
  | createJob key env data keep => exact agrees_createJobNamed h hr key env data keep
  | cancelJob job direct =>
    exact agrees_onJob h job direct (yield_cancelJob h hr) (yield_cancelJobById h hr)
  | deleteJob job =>
    simp only [perform, value_eq h]
    exact agrees_answerOutcome (yield_deleteJob h hr _)
  | describeJob job =>
    simp only [perform, findJob?, keptJob?_eq h, jobs_eq h, value_eq h]
    split <;> simp [h, hr]
  | script target actions =>
    obtain ⟨htarget, hactions⟩ := Bool.and_eq_true_iff.1 ha
    exact agrees_addScript h hr htarget hactions
  | bind env invoker => exact agrees_bind h hr env invoker
  | attach env invoker => exact agrees_bind h hr env invoker
  | unbind env => exact agrees_unbind h hr env
  | detach env => exact agrees_unbind h hr env
  | entry table e args =>
    obtain rfl : table = "abi" := by
      simp only [Action.isOperation, Bool.and_eq_true] at ha
      simpa using ha.1.1.1
    exact agrees_callEntry h hr ha
  | _ => simp [Action.isOperation, Action.isAside] at ha haside

/-! ### Code and frames -/

/-- What a piece of code does that leaves the invokers alone depends on what is on stage. -/
theorem agrees_step (t t' : ThreadId) {c : Code} (hc : c.isLight nested = true)
    (haside : c.isAside = true) (hperform : ∀ a, c = .perform a → a.isAside = true)
    (hentry : ∀ r, c = .entry .runtime r → r.isAside = true) :
    ∃ m m', c.step t s = some m ∧ c.step t' d = some m' ∧ m.Agrees i name nested m' := by
  cases c with
  | perform a => exact ⟨_, _, rfl, rfl, agrees_perform h hr t t' hc (hperform a rfl)⟩
  | script owner actions =>
    cases actions with
    | nil => exact ⟨_, _, rfl, rfl, by simp [h, hr]⟩
    | cons a rest =>
      refine ⟨_, _, rfl, rfl, ?_⟩
      obtain ⟨ha, hrest⟩ := Bool.and_eq_true_iff.1 hc
      simp [h, hr, Code.isLight, Frame.isLight, Action.isOperation_of_nested ha, hrest]
  | entry p r =>
    refine ⟨_, _, rfl, rfl, agrees_entry h hr t t' (fun hp => hentry r (by rw [hp])) ?_⟩
    simpa [Code.isLight, imp_iff_not_or] using hc
  | createFunction env spec delivery invoker =>
    exact ⟨_, _, rfl, rfl, agrees_createFunction h hr ..⟩
  | deliver f data => exact ⟨_, _, rfl, rfl, agrees_deliver h hr f data⟩
  | teardown f => exact ⟨_, _, rfl, rfl, agrees_teardown h hr f⟩
  | finalizer owner fin env hint => exact ⟨_, _, rfl, rfl, agrees_finalizer h hr ..⟩
  | task j task => exact ⟨_, _, rfl, rfl, agrees_task h hr j hc⟩
  | _ => simp [Code.isLight, Code.isAside] at hc haside

/-- What a frame does with a reply, unless it closes a function, depends on what is on stage. -/
theorem agrees_resume (t t' : ThreadId) {fr : Frame} (hfr : fr.isLight = true)
    (haside : fr.isAside = true) (r : Reply) :
    (fr.resume t s r).Agrees i name nested (fr.resume t' d r) := by
  cases fr with
  | performed owner a rest =>
    simp only [Frame.isLight] at hfr
    simp [Frame.resume, onstage_emit, h, hr, Code.isLight, hfr]
  | responseAnswer out => cases out <;> simp [Frame.resume, answerResponse, h, hr]
  | createdAnswer key keep => exact agrees_nameFunction h hr key keep _
  | referenced env spec delivery invoker =>
    exact agrees_afterCreateReference h hr env spec delivery invoker _
  | gotFunction f data => exact agrees_afterReference h hr f data _
  | gotReceiver f func => exact agrees_afterReceiver h hr f func _
  | gotResult f => exact agrees_afterResult h hr f _
  | finalized f => exact agrees_afterFinalizer h hr f
  | unreferenced f => exact agrees_unregisterFunction h hr f
  | executed j env => exact agrees_afterExecute h hr j env
  | engineScripted slot request => exact agrees_engineAnswer h hr slot request
  | unwrapped handle => simp [Frame.resume, wrapped_eq h, h, hr]
  | forwardedCreate host id =>
    have hs : (s.releaseHost host).onstage = (d.releaseHost host).onstage := by simp [h]
    simp only [Frame.resume, afterForwardCreate, wrapped_eq hs]
    split <;> simp [h, hr]
  | forwardedHook host env out =>
    have hs : (s.releaseHost host).onstage = (d.releaseHost host).onstage := by simp [h]
    simp only [Frame.resume, afterForwardHook, wrapped_eq hs]
    split
    · split
      · simp [h, hr]
      · have hfresh : (s.releaseHost host).freshId.2.onstage
            = (d.releaseHost host).freshId.2.onstage := by simp [h]
        simp [freshId_eq hs, wrapped_eq hfresh, h, hr]
    · simp [h, hr]
  | forwardedUnhook host handle =>
    have hs : (s.releaseHost host).onstage = (d.releaseHost host).onstage := by simp [h]
    simp only [Frame.resume, afterForwardUnhook, wrapped_eq hs]
    split <;> simp [h, hr]
  | _ => simp_all [Frame.resume, Frame.isLight, Frame.isAside]

end Agreeing

end Session

end AddonHost
