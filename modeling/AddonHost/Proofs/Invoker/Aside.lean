import AddonHost.Proofs.Invoker.View

/-!
What leaves the invokers alone.

Most of what a session does changes nothing behind the stage, and leaves the thread with nothing to
do for an invoker (`Move.Aside`).  `Code.isAside`, `Action.isAside` and `Frame.isAside` list what
does more: it submits or runs a task, waits, or tells an interpreter thread to stop.
-/

namespace AddonHost

/-- Whether a piece of code leaves the invokers alone, if it performs no action and calls no
entry. -/
def Code.isAside : Code → Bool
  | .call .. | .awaitSpace .. | .release .. | .submit .. | .awaitTask .. | .pump .. | .loop _
  | .awaitEnd .. | .letGo .. => false
  | _ => true

/-- Whether the runtime's entry leaves the invokers alone. -/
def Request.isAside : Request → Bool
  | .queueAsyncWork .. => false
  | _ => true

/-- Whether an action leaves the invokers alone when it begins. -/
def Action.isAside : Action → Bool
  | .createInvoker .. | .dropInvoker _ | .submit .. | .spawnSubmit .. | .pump .. | .hold _
  | .requestShutdown _ | .shutdown _ | .spawnCall .. | .queueJob .. => false
  | _ => true

/-- Whether a frame leaves the invokers alone when it gets its reply. -/
def Frame.isAside : Frame → Bool
  | .ranInline _ | .drained .. | .taskEnded .. | .pumped .. | .looped _ | .joined _ => false
  | _ => true

/-- Whether a move leaves the invokers and the threads alone, and its thread with nothing to do for
an invoker. -/
structure Move.Aside (s : Session) (m : Move) : Prop where
  backstage : m.session.backstage = s.backstage
  duties : m.duties = []

namespace Session

variable {s s' : Session}

/-! ### Operations -/

@[simp] theorem backstage_update (environment : Log.Variables) (logger : Log.Logger)
    (config : Option RuntimeConfig) (ids : IdSource) (functions : Registry ThreadsafeFunction)
    (jobs : Registry AsyncJob) (bindings : Assoc Word InvokerId) (injected : HostTable)
    (wrapped : Wrapped) (hosts : Assoc HostId Host) (engines : Engines) (names : Names)
    (scripts : Assoc ScriptKey (List (List Action))) (occupations : Assoc InvokerId Occupation)
    (producers : List Producer) (written complaints : List String) (halted : Bool) :
    ({ s with
      environment, logger, config, ids, functions, jobs, bindings, injected, wrapped, hosts,
      engines, names, scripts, occupations, producers, written, complaints, halted }
      : Session).backstage = s.backstage := rfl

theorem backstage_emit {e : Event} (he : ¬e.isService) :
    (s.emit e).backstage = s.backstage := by
  have htold : (s.emit e).history.filter Event.isService = s.history.filter Event.isService := by
    simp [he]
  simp only [backstage, htold]
  rfl

@[simp] theorem backstage_log (s : Session) (level : Log.Level) (text : String) :
    (s.log level text).backstage = s.backstage := by
  simp only [log]
  split_ifs <;> simp [backstage_emit, Event.isService]

@[simp] theorem backstage_modifyFunction (s : Session) (f : HandleId)
    (g : ThreadsafeFunction → ThreadsafeFunction) :
    (s.modifyFunction f g).backstage = s.backstage := rfl

@[simp] theorem backstage_modifyJob (s : Session) (j : HandleId) (g : AsyncJob → AsyncJob) :
    (s.modifyJob j g).backstage = s.backstage := rfl

@[simp] theorem backstage_setLogger (s : Session) (g : Log.Logger) :
    (s.setLogger g).backstage = s.backstage := rfl

@[simp] theorem backstage_complain (s : Session) (line : String) :
    (s.complain line).backstage = s.backstage := rfl

@[simp] theorem backstage_halt (s : Session) : s.halt.backstage = s.backstage := rfl

@[simp] theorem backstage_setVariable (s : Session) (name : String) (w : Word) :
    (s.setVariable name w).backstage = s.backstage := rfl

@[simp] theorem backstage_freshId (s : Session) : s.freshId.2.backstage = s.backstage := rfl

@[simp] theorem backstage_keepHost (s : Session) (h : HostId) :
    (s.keepHost h).backstage = s.backstage := rfl

@[simp] theorem backstage_releaseHost (s : Session) (h : HostId) :
    (s.releaseHost h).backstage = s.backstage := rfl

@[simp] theorem backstage_endProducer (s : Session) (n : Nat) (a : Answer) :
    (s.endProducer n a).backstage = s.backstage := rfl

@[simp] theorem backstage_setRegistry (s : Session) (name : String) (r : Registry String) :
    (s.setRegistry name r).backstage = s.backstage := rfl

@[simp] theorem backstage_eraseEnvs (s : Session) (m : MultiplexerHandle) :
    (s.eraseEnvs m).backstage = s.backstage := rfl

@[simp] theorem backstage_setReferenced (s : Session) (f : HandleId) (on : Bool) :
    (s.setReferenced f on).backstage = s.backstage := rfl

@[simp] theorem backstage_readConfig (s : Session) :
    s.readConfig.2.backstage = s.backstage := by
  unfold readConfig
  split <;> rfl

@[simp] theorem backstage_fire (s : Session) (key : ScriptKey) :
    (s.fire key).2.backstage = s.backstage := by
  unfold fire
  split <;> rfl

@[simp] theorem backstage_injectTable (s : Session) (table : HostTable) :
    (s.injectTable table).backstage = s.backstage := by
  simp [injectTable]

@[simp] theorem backstage_reportFatal (s : Session) (location message : RawText) :
    (s.reportFatal location message).backstage = s.backstage := by
  simp [reportFatal]

@[simp] theorem backstage_releaseOccupation (s : Session) (i : InvokerId) :
    (s.releaseOccupation i).backstage = s.backstage := by
  unfold releaseOccupation
  split <;> rfl

theorem backstage_acquire (s : Session) (f : HandleId) (fn : ThreadsafeFunction) :
    (s.acquire f fn).2.backstage = s.backstage := by
  unfold acquire
  split
  · rfl
  · simp [backstage_emit, Event.isService]

theorem backstage_createJob (s : Session) (env data : Word) :
    (s.createJob env data).2.backstage = s.backstage := by
  simp [createJob]

theorem backstage_cancelJob (s : Session) (j : HandleId) :
    (s.cancelJob j).2.backstage = s.backstage := by
  unfold cancelJob
  split
  · rfl
  · split <;> simp [backstage_emit, Event.isService]

theorem backstage_cancelJobById (s : Session) (j : HandleId) :
    (s.cancelJobById j).2.backstage = s.backstage := by
  unfold cancelJobById
  split
  · rfl
  · exact backstage_cancelJob ..

theorem backstage_deleteJob (s : Session) (j : HandleId) :
    (s.deleteJob j).2.backstage = s.backstage := by
  unfold deleteJob
  split
  · rfl
  · simp [backstage_emit, Event.isService]

/-! ### Moves -/

@[simp] theorem aside_give (r : Reply) : (s'.give r).Aside s ↔ s'.backstage = s.backstage :=
  ⟨fun h => h.backstage, fun h => ⟨h, rfl⟩⟩

@[simp] theorem aside_run (c : Code) (frames : List Frame) :
    (s'.run c frames).Aside s ↔
      s'.backstage = s.backstage ∧ c.duties = [] ∧ dutiesOf frames = [] :=
  ⟨fun h => ⟨h.backstage, List.append_eq_nil_iff.1 h.duties⟩,
    fun h => ⟨h.1, List.append_eq_nil_iff.2 h.2⟩⟩

@[simp] theorem backstage_give (s : Session) (r : Reply) :
    (s.give r).session.backstage = s.backstage := rfl

@[simp] theorem duties_give (s : Session) (r : Reply) : (s.give r).control.duties = [] := rfl

@[simp] theorem aside_mk (c : Control) (frames : List Frame) :
    ({ session := s', control := c, frames := frames } : Move).Aside s ↔
      s'.backstage = s.backstage ∧ c.duties = [] ∧ dutiesOf frames = [] :=
  ⟨fun h => ⟨h.backstage, List.append_eq_nil_iff.1 h.duties⟩,
    fun h => ⟨h.1, List.append_eq_nil_iff.2 h.2⟩⟩

@[simp] theorem aside_reply (a : Answer) : (s'.reply a).Aside s ↔ s'.backstage = s.backstage :=
  aside_give _

@[simp] theorem aside_respond (status : Status) :
    (s'.respond status).Aside s ↔ s'.backstage = s.backstage := aside_give _

@[simp] theorem aside_refuse (r : Refusal) : (s'.refuse r).Aside s ↔ s'.backstage = s.backstage :=
  aside_give _

@[simp] theorem aside_abort : s'.abort.Aside s ↔ s'.backstage = s.backstage := by
  simp [abort]

@[simp] theorem aside_respondOutcome (p : Outcome × Session) :
    (respondOutcome p).Aside s ↔ p.2.backstage = s.backstage := aside_give _

@[simp] theorem aside_answerOutcome (p : Outcome × Session) :
    (answerOutcome p).Aside s ↔ p.2.backstage = s.backstage := aside_give _

/-! ### Entries -/

@[simp] theorem aside_fatalError (location message : String) :
    (s'.fatalError location message).Aside s ↔ s'.backstage = s.backstage := by
  unfold fatalError
  simp only
  split <;> simp [backstage_emit, Event.isService]

@[simp] theorem aside_fatalEntry (p : Provider) (location message : RawText) :
    (s'.fatalEntry p location message).Aside s ↔ s'.backstage = s.backstage := by
  unfold fatalEntry
  split <;> simp [backstage_emit, Event.isService]

theorem aside_registerEntry (p : Provider) (moduleHandle : Word) :
    (s.registerEntry p moduleHandle).Aside s := by
  unfold registerEntry
  split
  · simp [backstage_emit, Event.isService]
  · simp
  · split <;> simp [Code.duties]
  · simp

theorem aside_engineEntry (slot : Nat) (r : Request) : (s.engineEntry slot r).Aside s := by
  simp [engineEntry, backstage_emit, Event.isService, Code.duties, Frame.duties]

theorem aside_engineAnswer (slot : Nat) (r : Request) : (s.engineAnswer slot r).Aside s := by
  unfold engineAnswer
  simp only
  split <;> simp [Code.duties, Frame.duties]

theorem aside_forward (r : Request) : (s.forward r).Aside s := by
  unfold forward
  split
  · simp
  · split
    · simp [refuseRoute]
    · split
      · simp [refuseRoute]
      · split
        · unfold forwardCreate
          split <;> simp [refuseRoute, Code.duties, Frame.duties]
        all_goals simp [Code.duties, Frame.duties]

theorem aside_withFunction (func : Word) {act : HandleId → ThreadsafeFunction → Move}
    (h : ∀ f fn, (act f fn).Aside s) : (s.withFunction func act).Aside s := by
  unfold withFunction
  split
  · simp
  · exact h _ _

theorem aside_createFunctionEntry (env : Word) (spec : FunctionSpec) (out : Bool) :
    (s.createFunctionEntry env spec out).Aside s := by
  unfold createFunctionEntry
  split
  · simp
  · split
    · simp
    · simp [Code.duties, Frame.duties]

/-- The runtime's entries leave the invokers alone, but for the queueing of a job. -/
theorem aside_runtimeEntry (t : ThreadId) {r : Request} (hr : r.isAside = true) :
    (s.runtimeEntry t r).Aside s := by
  unfold runtimeEntry
  split
  case h_1 =>
    split
    · simp
    · simp [backstage_createJob]
  case h_2 => simp [backstage_deleteJob]
  case h_3 => simp [Request.isAside] at hr
  case h_4 => simp [backstage_cancelJobById]
  case h_5 => exact aside_createFunctionEntry ..
  case h_6 =>
    split
    · simp
    · exact aside_withFunction _ (by simp)
  case h_7 | h_9 =>
    split
    · simp
    · exact aside_withFunction _ (by simp [Code.duties, Frame.duties])
  case h_8 => exact aside_withFunction _ fun f fn => by simp [backstage_acquire]
  case h_10 | h_11 => exact aside_withFunction _ (by simp)
  case h_12 => simp

theorem aside_entry (t : ThreadId) {p : Provider} {r : Request}
    (hr : p = .runtime → r.isAside = true) : (s.entry t p r).Aside s := by
  unfold entry
  split
  · exact aside_engineEntry ..
  · exact aside_runtimeEntry t (hr rfl)
  · split <;> simp [Code.duties]
  · exact aside_forward r

/-! ### Threadsafe functions and jobs -/

theorem aside_deliverWith (f : HandleId) (fn : ThreadsafeFunction) (func data : Word) :
    (s.deliverWith f fn func data).Aside s := by
  unfold deliverWith
  split
  · simp [backstage_emit, Event.isService, Code.duties]
  · split <;> simp [Code.duties, Frame.duties]

theorem aside_deliver (f : HandleId) (data : Word) : (s.deliver f data).Aside s := by
  unfold deliver
  split
  · simp
  · split
    · simp [Code.duties, Frame.duties]
    · exact aside_deliverWith ..

theorem aside_afterReference (f : HandleId) (data : Word) (r : Response) :
    (s.afterReference f data r).Aside s := by
  unfold afterReference
  split
  · simp
  · split
    · exact aside_deliverWith ..
    · obtain ⟨hsession, hduties⟩ := aside_deliverWith (s := s.log .warn _) f _ 0 data
      exact ⟨hsession.trans (by simp), hduties⟩

theorem aside_afterReceiver (f : HandleId) (func : Word) (r : Response) :
    (s.afterReceiver f func r).Aside s := by
  unfold afterReceiver
  split
  · simp
  · simp [backstage_emit, Event.isService, Code.duties, Frame.duties]

theorem aside_afterResult (f : HandleId) (r : Response) : (s.afterResult f r).Aside s := by
  unfold afterResult
  split <;> simp

theorem aside_drain (f : HandleId) : (s.drain f).Aside s := by
  unfold drain
  split
  · simp
  · simp only
    split
    · simp [backstage_emit, Event.isService, Frame.duties]
    · split <;> simp [backstage_emit, Event.isService, Code.duties, Frame.duties]

theorem aside_teardown (f : HandleId) : (s.teardown f).Aside s := by
  unfold teardown
  split
  · simp
  · simp only
    split <;> simp [backstage_emit, Event.isService, Code.duties, Frame.duties]

theorem aside_afterFinalizer (f : HandleId) : (s.afterFinalizer f).Aside s := by
  unfold afterFinalizer
  split
  · simp
  · simp only
    split <;> simp [Code.duties, Frame.duties]

theorem aside_unregisterFunction (f : HandleId) : (s.unregisterFunction f).Aside s := by
  unfold unregisterFunction
  split <;> simp [backstage_emit, Event.isService]

theorem aside_finalizer (owner : Option HandleId) (fin : Finalizer) (env hint : Word) :
    (s.finalizer owner fin env hint).Aside s := by
  unfold finalizer
  split
  · cases owner <;> simp [backstage_emit, Event.isService, Code.duties]
  · simp [Frame.duties]
  · simp [Code.duties, Frame.duties]

theorem aside_registerFunction (env reference : Word) (spec : FunctionSpec) (delivery : Delivery)
    (invoker : Option InvokerId) :
    (s.registerFunction env reference spec delivery invoker).Aside s := by
  simp [registerFunction]

theorem aside_createFunction (env : Word) (spec : FunctionSpec) (delivery : Delivery)
    (invoker : Option InvokerId) : (s.createFunction env spec delivery invoker).Aside s := by
  unfold createFunction
  split
  · simp [Code.duties, Frame.duties]
  · exact aside_registerFunction ..

theorem aside_afterCreateReference (env : Word) (spec : FunctionSpec) (delivery : Delivery)
    (invoker : Option InvokerId) (r : Response) :
    (s.afterCreateReference env spec delivery invoker r).Aside s := by
  unfold afterCreateReference
  split
  · exact aside_registerFunction ..
  · simp

theorem aside_completeJob (j : HandleId) (job : AsyncJob) (env : Word) (status : Status) :
    (s.completeJob j job env status).Aside s := by
  simp [completeJob, backstage_emit, Event.isService, Code.duties, Frame.duties]

theorem aside_work (j : HandleId) (env : Word) : (s.work j env).Aside s := by
  unfold work
  split
  · simp
  · next job _ =>
    simp only
    split
    · simp [backstage_emit, Event.isService]
    · split
      · simp [backstage_emit, Event.isService]
      · simp [backstage_emit, Event.isService, Code.duties, Frame.duties]
      · obtain ⟨hsession, hduties⟩ :=
          aside_completeJob (s := s.emit (.workStarted j)) j job env .cancelled
        exact ⟨hsession.trans (by simp [backstage_emit, Event.isService]), hduties⟩

theorem aside_afterExecute (j : HandleId) (env : Word) : (s.afterExecute j env).Aside s := by
  unfold afterExecute
  split
  · simp
  · exact aside_completeJob ..

/-- Running a task begins aside; what took it off the queue did not. -/
theorem aside_task (i : InvokerId) (task : Task) : (s.task i task).Aside s := by
  unfold Session.task
  split
  · exact aside_drain _
  · simp [Code.duties]
  · exact aside_work ..
  · simp [backstage_emit, Event.isService, Code.duties]
  · simp [Code.duties]

/-! ### Actions -/

theorem aside_withInvoker (name : String) {act : InvokerId → Invoker → Move}
    (h : ∀ i inv, (act i inv).Aside s) : (s.withInvoker name act).Aside s := by
  unfold withInvoker
  split
  · simp
  · exact h _ _

theorem aside_withFound (r : Ref) {act : HandleId → ThreadsafeFunction → Move}
    (h : ∀ f fn, (act f fn).Aside s) : (s.withFound r act).Aside s := by
  unfold withFound
  split
  · simp
  · exact h _ _

theorem aside_withTable (name : String) {act : HostTable → Move}
    (h : ∀ table, (act table).Aside s) : (s.withTable name act).Aside s := by
  unfold withTable
  split
  · simp
  · exact h _

theorem aside_withRegistry (name : String) {act : Registry String → Move}
    (h : ∀ r, (act r).Aside s) : (s.withRegistry name act).Aside s := by
  unfold withRegistry
  split
  · simp
  · exact h _

theorem aside_unholdThread (name : String) : (s.unholdThread name).Aside s := by
  unfold unholdThread
  split <;> simp

theorem aside_describeInvoker (name : String) : (s.describeInvoker name).Aside s := by
  unfold describeInvoker
  split <;> simp

theorem aside_createFunctionNamed (a : FunctionArgs) : (s.createFunctionNamed a).Aside s := by
  unfold createFunctionNamed
  simp only
  split
  · simp [Code.duties, Frame.duties]
  · exact aside_withInvoker _ (by simp [Code.duties, Frame.duties])

theorem aside_nameFunction (name : String) (keep : Bool) (id : HandleId) :
    (s.nameFunction name keep id).Aside s := by
  unfold nameFunction
  simp only
  split <;> simp

theorem aside_createJobNamed (name : String) (env data : Ref) (keep : Bool) :
    (s.createJobNamed name env data keep).Aside s := by
  unfold createJobNamed
  simp only
  split <;> simp [backstage_createJob]

theorem aside_cancelJobAction (job : Ref) (direct : Bool) :
    (s.onJob job direct s.cancelJob s.cancelJobById).Aside s := by
  unfold onJob
  split
  · simp [backstage_cancelJob]
  · simp [backstage_cancelJobById]

theorem aside_createHost (name : String) (slot : Nat) (entries : List Entry)
    (overlays : List String) : (s.createHost name slot entries overlays).Aside s := by
  unfold createHost
  split
  · simp
  · simp only
    split <;> simp

theorem aside_dropHost (name : String) : (s.dropHost name).Aside s := by
  unfold dropHost
  split <;> simp

theorem aside_inject (name : Option String) : (s.inject name).Aside s := by
  unfold inject
  split
  · simp
  · exact aside_withTable _ (by simp)

theorem aside_install (name : String) : (s.install name).Aside s := by
  refine aside_withTable name fun table => ?_
  simp only
  split <;> simp

theorem aside_createMultiplexer (name : String) (register fatal : Bool) :
    (s.createMultiplexer name register fatal).Aside s := by
  unfold createMultiplexer
  simp only
  split <;> simp

theorem aside_dropMultiplexer (name : String) : (s.dropMultiplexer name).Aside s := by
  unfold dropMultiplexer
  split <;> simp

theorem aside_wrapEnv (multiplexer host : String) (env : Ref) (out : String) :
    (s.wrapEnv multiplexer host env out).Aside s := by
  unfold wrapEnv
  split <;> simp

theorem aside_callEntry (name : String) (e : Entry) (a : EntryArgs) :
    (s.callEntry name e a).Aside s := by
  refine aside_withTable name fun table => ?_
  split
  · simp
  · split
    · simp
    · split
      · simp
      · next p _ =>
        split
        · split <;> simp [Code.duties, Frame.duties]
        · split
          · simp [Code.duties, Frame.duties]
          · have h : (s.fatalEntry p a.location a.message).Aside s := by simp
            refine ⟨h.backstage, ?_⟩
            simpa [Move.duties, Frame.duties] using h.duties

theorem aside_configureAction (c : RuntimeConfig) : (s.configureAction c).Aside s := by
  unfold configureAction configure
  split
  · simp
  · next h =>
    split at h
    · simp at h
    · split at h
      · simp at h
      · obtain rfl := Except.ok.inj h
        simp

theorem aside_perform (t : ThreadId) {a : Action} (ha : a.isAside = true) :
    (s.perform t a).Aside s := by
  cases a with
  | createInvoker | dropInvoker | submit | spawnSubmit | pump | hold | requestShutdown | shutdown
  | spawnCall | queueJob => simp [Action.isAside] at ha
  | bind env invoker => exact aside_withInvoker invoker (by simp)
  | attach env invoker => exact aside_withInvoker invoker (by simp)
  | unhold invoker => exact aside_unholdThread invoker
  | describeInvoker invoker => exact aside_describeInvoker invoker
  | fail => exact ⟨rfl, rfl⟩
  | createFunction args => exact aside_createFunctionNamed args
  | call func data mode =>
    refine aside_withFound func fun f fn => ?_
    split <;> simp [Code.duties, Frame.duties]
  | acquire func => exact aside_withFound func fun f fn => by simp [backstage_acquire]
  | release func mode => exact aside_withFound func (by simp [Code.duties, Frame.duties])
  | setReferenced func on => exact aside_withFound func (by simp)
  | functionContext func => exact aside_withFound func (by simp)
  | describeFunction func => exact aside_withFound func (by simp)
  | functionState func => exact aside_withFound func (by simp)
  | createJob name env data keep => exact aside_createJobNamed name env data keep
  | cancelJob job direct => exact aside_cancelJobAction job direct
  | deleteJob job => simp [perform, backstage_deleteJob]
  | describeJob job =>
    simp only [perform]
    split <;> simp
  | script target actions => simp [perform, addScript]
  | createHost name slot entries overlays => exact aside_createHost name slot entries overlays
  | dropHost name => exact aside_dropHost name
  | describeTable name => exact aside_withTable name (by simp)
  | install name => exact aside_install name
  | inject name => exact aside_inject name
  | createMultiplexer name register fatal => exact aside_createMultiplexer name register fatal
  | dropMultiplexer name => exact aside_dropMultiplexer name
  | wrap multiplexer host env out => exact aside_wrapEnv multiplexer host env out
  | describeMultiplexer name =>
    simp only [perform]
    split <;> simp
  | entry table e args => exact aside_callEntry table e args
  | registryInsert registry value out withId => exact aside_withRegistry registry (by simp)
  | registryGet registry id => exact aside_withRegistry registry (by simp)
  | registryRemove registry id => exact aside_withRegistry registry (by simp)
  | registryContains registry id => exact aside_withRegistry registry (by simp)
  | describeRegistry registry => exact aside_withRegistry registry (by simp)
  | takeIds name count =>
    simp only [perform, takeIds]
    split <;> simp
  | configure config => exact aside_configureAction config
  | _ => simp [perform, unbind, logState]

/-! ### Code and frames -/

theorem aside_step {c : Code} {t : ThreadId} {m : Move} (hc : c.isAside = true)
    (hperform : ∀ a, c = .perform a → a.isAside = true)
    (hentry : ∀ r, c = .entry .runtime r → r.isAside = true) (hm : c.step t s = some m) :
    m.Aside s := by
  cases c with
  | call | awaitSpace | release | submit | awaitTask | pump | loop | awaitEnd | letGo =>
    simp [Code.isAside] at hc
  | perform a =>
    obtain rfl := Option.some.inj hm
    exact aside_perform t (hperform a rfl)
  | script owner actions =>
    cases actions with
    | nil =>
      obtain rfl := Option.some.inj hm
      simp
    | cons a rest =>
      obtain rfl := Option.some.inj hm
      simp [Code.duties, Frame.duties]
  | entry p r =>
    obtain rfl := Option.some.inj hm
    exact aside_entry t fun hp => hentry r (by rw [hp])
  | register p moduleHandle =>
    obtain rfl := Option.some.inj hm
    exact aside_registerEntry p moduleHandle
  | createFunction env spec delivery invoker =>
    obtain rfl := Option.some.inj hm
    exact aside_createFunction env spec delivery invoker
  | deliver f data =>
    obtain rfl := Option.some.inj hm
    exact aside_deliver f data
  | teardown f =>
    obtain rfl := Option.some.inj hm
    exact aside_teardown f
  | finalizer owner fin env hint =>
    obtain rfl := Option.some.inj hm
    exact aside_finalizer owner fin env hint
  | task i work =>
    obtain rfl := Option.some.inj hm
    exact aside_task i work
  | awaitOccupied i =>
    simp only [Code.step, awaitOccupied] at hm
    split at hm
    · simp at hm
    · obtain rfl := Option.some.inj hm
      simp
  | occupied i =>
    simp only [Code.step, occupied] at hm
    split at hm
    · simp at hm
    · obtain rfl := Option.some.inj hm
      simp

theorem aside_resume (t : ThreadId) {fr : Frame} (hfr : fr.isAside = true) (r : Reply) :
    (fr.resume t s r).Aside s := by
  cases fr with
  | ranInline | drained | taskEnded | pumped | looped | joined => simp [Frame.isAside] at hfr
  | performed owner a rest =>
    simp [Frame.resume, backstage_emit, Event.isService, Code.duties]
  | responseAnswer out => cases out <;> simp [Frame.resume, answerResponse]
  | createdAnswer name keep => exact aside_nameFunction name keep _
  | referenced env spec delivery invoker =>
    exact aside_afterCreateReference env spec delivery invoker _
  | gotFunction f data => exact aside_afterReference f data _
  | gotReceiver f func => exact aside_afterReceiver f func _
  | gotResult f => exact aside_afterResult f _
  | finalized f => exact aside_afterFinalizer f
  | unreferenced f => exact aside_unregisterFunction f
  | executed j env => exact aside_afterExecute j env
  | engineScripted slot request => exact aside_engineAnswer slot request
  | forwardedCreate host id =>
    simp only [Frame.resume, afterForwardCreate]
    split <;> simp
  | forwardedHook host env out =>
    simp only [Frame.resume, afterForwardHook]
    split
    · split <;> simp
    · simp
  | forwardedUnhook host handle =>
    simp only [Frame.resume, afterForwardUnhook]
    split <;> simp
  | _ => simp [Frame.resume, Code.duties]

end Session

end AddonHost
