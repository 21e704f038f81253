import AddonHost.Proofs.Invoker.Aside

/-!
Who keeps an invoker alive.

An invoker is kept by the names that it has, and by threads that let go of it later: code and frames
that do are listed by `Code.owes` and `Frame.owes`.  Most moves leave the names alone and their
thread with no invoker to let go of (`Move.Uninvolved`); `Code.involves` and `Action.involves` list
what does more.
-/

namespace AddonHost

/-- The invokers that a piece of code lets go of in the end. -/
def Code.owes : Code → List InvokerId
  | .submit i .. | .pump i _ | .letGo i _ => [i]
  | _ => []

/-- The invokers that a frame lets go of when it gets its reply. -/
def Frame.owes : Frame → List InvokerId
  | .called i | .submitted i | .ranRejected i | .pumped i _ => [i]
  | _ => []

/-- The invokers that the control of a thread lets go of in the end. -/
def Control.owes : Control → List InvokerId
  | .run c => c.owes
  | _ => []

/-- The invokers that a thread lets go of later. -/
def Thread.owes (th : Thread) : List InvokerId := th.control.owes ++ th.stack.flatMap Frame.owes

/-- The invokers that a thread lets go of later because of a move. -/
def Move.owes (m : Move) : List InvokerId := m.control.owes ++ m.frames.flatMap Frame.owes

/-- Whether a piece of code keeps an invoker, begins to, or makes someone else do so, if it performs
no action. -/
def Code.involves : Code → Bool
  | .call .. | .awaitSpace .. | .submit .. | .pump .. | .letGo .. => true
  | _ => false

/-- Whether an action names an invoker or makes someone keep it. -/
def Action.involves : Action → Bool
  | .createInvoker .. | .dropInvoker _ | .submit .. | .spawnSubmit .. | .pump .. => true
  | _ => false

/-- Whether a move leaves the names of invokers alone, and its thread with none to let go of. -/
structure Move.Uninvolved (s : Session) (m : Move) : Prop where
  names : m.session.names.invokers = s.names.invokers
  owes : m.owes = []

@[simp] theorem Control.owes_run (c : Code) : (Control.run c).owes = c.owes := rfl

@[simp] theorem Control.owes_give (r : Reply) : (Control.give r).owes = [] := rfl

@[simp] theorem Control.owes_fail : Control.fail.owes = [] := rfl

attribute [local simp] Code.owes Frame.owes

namespace Session

variable {s s' : Session}

/-! ### Operations -/

@[simp] theorem names_emit (s : Session) (e : Event) : (s.emit e).names = s.names := rfl

@[simp] theorem names_log (s : Session) (level : Log.Level) (text : String) :
    (s.log level text).names = s.names := by
  simp only [log]
  split_ifs <;> rfl

@[simp] theorem names_modifyFunction (s : Session) (f : HandleId)
    (g : ThreadsafeFunction → ThreadsafeFunction) : (s.modifyFunction f g).names = s.names := rfl

@[simp] theorem names_modifyJob (s : Session) (j : HandleId) (g : AsyncJob → AsyncJob) :
    (s.modifyJob j g).names = s.names := rfl

@[simp] theorem names_modifyInvoker (s : Session) (i : InvokerId) (g : Invoker → Invoker) :
    (s.modifyInvoker i g).names = s.names := rfl

@[simp] theorem names_modifyInterpreter (s : Session) (i : InvokerId)
    (g : InterpreterThread → InterpreterThread) : (s.modifyInterpreter i g).names = s.names := rfl

@[simp] theorem names_requestShutdown (s : Session) (i : InvokerId) :
    (s.requestShutdown i).names = s.names := rfl

@[simp] theorem names_countExecuted (s : Session) (i : InvokerId) :
    (s.countExecuted i).names = s.names := rfl

@[simp] theorem names_setLogger (s : Session) (g : Log.Logger) : (s.setLogger g).names = s.names :=
  rfl

@[simp] theorem names_complain (s : Session) (line : String) : (s.complain line).names = s.names :=
  rfl

@[simp] theorem names_halt (s : Session) : s.halt.names = s.names := rfl

@[simp] theorem names_setThread (s : Session) (t : ThreadId) (th : Thread) :
    (s.setThread t th).names = s.names := rfl

@[simp] theorem invokers_names_setVariable (s : Session) (name : String) (w : Word) :
    (s.setVariable name w).names.invokers = s.names.invokers := rfl

@[simp] theorem names_freshId (s : Session) : s.freshId.2.names = s.names := rfl

@[simp] theorem names_keepHost (s : Session) (h : HostId) : (s.keepHost h).names = s.names := rfl

@[simp] theorem names_releaseHost (s : Session) (h : HostId) :
    (s.releaseHost h).names = s.names := rfl

@[simp] theorem names_endProducer (s : Session) (n : ℕ) (a : Answer) :
    (s.endProducer n a).names = s.names := rfl

@[simp] theorem invokers_names_setRegistry (s : Session) (name : String) (r : Registry String) :
    (s.setRegistry name r).names.invokers = s.names.invokers := rfl

@[simp] theorem names_eraseEnvs (s : Session) (m : MultiplexerHandle) :
    (s.eraseEnvs m).names = s.names := rfl

@[simp] theorem names_setReferenced (s : Session) (f : HandleId) (on : Bool) :
    (s.setReferenced f on).names = s.names := rfl

@[simp] theorem names_readConfig (s : Session) : s.readConfig.2.names = s.names := by
  unfold readConfig
  split <;> rfl

@[simp] theorem names_fire (s : Session) (key : ScriptKey) : (s.fire key).2.names = s.names := by
  unfold fire
  split <;> rfl

@[simp] theorem names_injectTable (s : Session) (table : HostTable) :
    (s.injectTable table).names = s.names := by
  simp [injectTable]

@[simp] theorem names_reportFatal (s : Session) (location message : RawText) :
    (s.reportFatal location message).names = s.names := by
  simp [reportFatal]

@[simp] theorem names_releaseOccupation (s : Session) (i : InvokerId) :
    (s.releaseOccupation i).names = s.names := by
  unfold releaseOccupation
  split <;> rfl

@[simp] theorem names_signal (s : Session) (completion : Option ℕ) :
    (s.signal completion).names = s.names := by
  cases completion <;> rfl

@[simp] theorem names_endTask (s : Session) (e : Event) (sub : Submission) :
    (s.endTask e sub).names = s.names := by
  simp [endTask]

@[simp] theorem names_enqueue (s : Session) (i : InvokerId) (inv : Invoker) (task : Task)
    (completion : Option ℕ) : (s.enqueue i inv task completion).names = s.names := rfl

theorem names_discardQueue (s : Session) (i : InvokerId) (inv : Invoker) :
    (s.discardQueue i inv).names = s.names := by
  unfold discardQueue
  generalize inv.queue.pending = subs
  suffices h : (subs.foldl (fun s sub => (s.emit (.discarded i sub)).signal sub.completion) s).names
      = s.names from h
  induction subs generalizing s with
  | nil => rfl
  | cons sub rest ih =>
    rw [List.foldl_cons, ih]
    simp

theorem names_offer (s : Session) (t : ThreadId) (i : InvokerId) (sync : Bool) (task : Task) :
    (s.offer t i sync task).2.names = s.names := by
  unfold offer
  split
  · rfl
  · split
    · simp only
      split_ifs <;> rfl
    · simp only
      split_ifs <;> simp [enqueueAwaited]

theorem names_of_offer {t : ThreadId} {i : InvokerId} {sync : Bool} {task : Task} {o : Offer}
    (h : s.offer t i sync task = (o, s')) : s'.names = s.names := by
  rw [← names_offer s t i sync task, h]

theorem names_acquire (s : Session) (f : HandleId) (fn : ThreadsafeFunction) :
    (s.acquire f fn).2.names = s.names := by
  unfold acquire
  split <;> rfl

theorem names_createJob (s : Session) (env data : Word) :
    (s.createJob env data).2.names = s.names := by
  simp [createJob]

theorem names_cancelJob (s : Session) (j : HandleId) : (s.cancelJob j).2.names = s.names := by
  unfold cancelJob
  split
  · rfl
  · split <;> simp

theorem names_cancelJobById (s : Session) (j : HandleId) :
    (s.cancelJobById j).2.names = s.names := by
  unfold cancelJobById
  split
  · rfl
  · exact names_cancelJob ..

theorem names_deleteJob (s : Session) (j : HandleId) : (s.deleteJob j).2.names = s.names := by
  unfold deleteJob
  split <;> simp

theorem names_queueJob (s : Session) (t : ThreadId) (j : HandleId) (env : Word) :
    (s.queueJob t j env).2.names = s.names := by
  unfold queueJob
  split
  · rfl
  · split
    · simp
    · split
      · rfl
      · split <;> next hoffer => simp [names_of_offer hoffer]

theorem names_queueJobById (s : Session) (t : ThreadId) (j : HandleId) (env : Word) :
    (s.queueJobById t j env).2.names = s.names := by
  unfold queueJobById
  split
  · rfl
  · exact names_queueJob ..

/-! ### Moves -/

@[simp] theorem uninvolved_give (r : Reply) :
    (s'.give r).Uninvolved s ↔ s'.names.invokers = s.names.invokers :=
  ⟨fun h => h.names, fun h => ⟨h, rfl⟩⟩

@[simp] theorem uninvolved_run (c : Code) (frames : List Frame) :
    (s'.run c frames).Uninvolved s ↔
      s'.names.invokers = s.names.invokers ∧ c.owes = [] ∧ frames.flatMap Frame.owes = [] :=
  ⟨fun h => ⟨h.names, List.append_eq_nil_iff.1 h.owes⟩,
    fun h => ⟨h.1, List.append_eq_nil_iff.2 h.2⟩⟩

@[simp] theorem uninvolved_mk (c : Control) (frames : List Frame) :
    ({ session := s', control := c, frames := frames } : Move).Uninvolved s ↔
      s'.names.invokers = s.names.invokers ∧ c.owes = [] ∧ frames.flatMap Frame.owes = [] :=
  ⟨fun h => ⟨h.names, List.append_eq_nil_iff.1 h.owes⟩,
    fun h => ⟨h.1, List.append_eq_nil_iff.2 h.2⟩⟩

@[simp] theorem names_give (s : Session) (r : Reply) : (s.give r).session.names = s.names := rfl

@[simp] theorem owes_give (s : Session) (r : Reply) : (s.give r).control.owes = [] := rfl

@[simp] theorem uninvolved_reply (a : Answer) :
    (s'.reply a).Uninvolved s ↔ s'.names.invokers = s.names.invokers := uninvolved_give _

@[simp] theorem uninvolved_respond (status : Status) :
    (s'.respond status).Uninvolved s ↔ s'.names.invokers = s.names.invokers := uninvolved_give _

@[simp] theorem uninvolved_refuse (r : Refusal) :
    (s'.refuse r).Uninvolved s ↔ s'.names.invokers = s.names.invokers := uninvolved_give _

@[simp] theorem uninvolved_abort :
    s'.abort.Uninvolved s ↔ s'.names.invokers = s.names.invokers := by
  simp [abort]

@[simp] theorem uninvolved_respondOutcome (p : Outcome × Session) :
    (respondOutcome p).Uninvolved s ↔ p.2.names.invokers = s.names.invokers := uninvolved_give _

@[simp] theorem uninvolved_answerOutcome (p : Outcome × Session) :
    (answerOutcome p).Uninvolved s ↔ p.2.names.invokers = s.names.invokers := uninvolved_give _

/-! ### Entries -/

@[simp] theorem uninvolved_fatalError (location message : String) :
    (s'.fatalError location message).Uninvolved s ↔ s'.names.invokers = s.names.invokers := by
  unfold fatalError
  simp only
  split <;> simp

@[simp] theorem uninvolved_fatalEntry (p : Provider) (location message : RawText) :
    (s'.fatalEntry p location message).Uninvolved s ↔ s'.names.invokers = s.names.invokers := by
  unfold fatalEntry
  split <;> simp

theorem uninvolved_registerEntry (p : Provider) (moduleHandle : Word) :
    (s.registerEntry p moduleHandle).Uninvolved s := by
  unfold registerEntry
  split
  · simp
  · simp
  · split <;> simp
  · simp

theorem uninvolved_engineEntry (slot : ℕ) (r : Request) :
    (s.engineEntry slot r).Uninvolved s := by
  simp [engineEntry]

theorem uninvolved_engineAnswer (slot : ℕ) (r : Request) :
    (s.engineAnswer slot r).Uninvolved s := by
  unfold engineAnswer
  simp only
  split <;> simp

theorem uninvolved_forward (r : Request) : (s.forward r).Uninvolved s := by
  unfold forward
  split
  · simp
  · split
    · simp [refuseRoute]
    · split
      · simp [refuseRoute]
      · split
        · unfold forwardCreate
          split <;> simp [refuseRoute]
        all_goals simp

theorem uninvolved_withFunction (func : Word) {act : HandleId → ThreadsafeFunction → Move}
    (h : ∀ f fn, (act f fn).Uninvolved s) : (s.withFunction func act).Uninvolved s := by
  unfold withFunction
  split
  · simp
  · exact h _ _

theorem uninvolved_runtimeEntry (t : ThreadId) (r : Request) :
    (s.runtimeEntry t r).Uninvolved s := by
  unfold runtimeEntry
  split
  case h_1 =>
    split
    · simp
    · simp [names_createJob]
  case h_2 => simp [names_deleteJob]
  case h_3 => simp [names_queueJobById]
  case h_4 => simp [names_cancelJobById]
  case h_5 =>
    unfold createFunctionEntry
    split
    · simp
    · split <;> simp
  case h_6 =>
    split
    · simp
    · exact uninvolved_withFunction _ (by simp)
  case h_7 | h_9 =>
    split
    · simp
    · exact uninvolved_withFunction _ (by simp)
  case h_8 => exact uninvolved_withFunction _ fun f fn => by simp [names_acquire]
  case h_10 | h_11 => exact uninvolved_withFunction _ (by simp)
  case h_12 => simp

theorem uninvolved_entry (t : ThreadId) (p : Provider) (r : Request) :
    (s.entry t p r).Uninvolved s := by
  unfold entry
  split
  · exact uninvolved_engineEntry ..
  · exact uninvolved_runtimeEntry ..
  · split <;> simp
  · exact uninvolved_forward r

/-! ### Threadsafe functions and jobs -/

theorem uninvolved_deliverWith (f : HandleId) (fn : ThreadsafeFunction) (func data : Word)
    (hs : s'.names.invokers = s.names.invokers) :
    (s'.deliverWith f fn func data).Uninvolved s := by
  unfold deliverWith
  split
  · simpa using hs
  · split <;> simpa using hs

theorem uninvolved_deliver (f : HandleId) (data : Word) : (s.deliver f data).Uninvolved s := by
  unfold deliver
  split
  · simp
  · split
    · simp
    · exact uninvolved_deliverWith f _ _ _ rfl

theorem uninvolved_afterReference (f : HandleId) (data : Word) (r : Response) :
    (s.afterReference f data r).Uninvolved s := by
  unfold afterReference
  split
  · simp
  · split
    · exact uninvolved_deliverWith f _ _ _ rfl
    · exact uninvolved_deliverWith f _ _ _ (by simp)

theorem uninvolved_afterReceiver (f : HandleId) (func : Word) (r : Response) :
    (s.afterReceiver f func r).Uninvolved s := by
  unfold afterReceiver
  split <;> simp

theorem uninvolved_afterResult (f : HandleId) (r : Response) :
    (s.afterResult f r).Uninvolved s := by
  unfold afterResult
  split <;> simp

theorem uninvolved_drain (f : HandleId) : (s.drain f).Uninvolved s := by
  unfold drain
  split
  · simp
  · simp only
    split
    · simp
    · split <;> simp

theorem uninvolved_teardown (f : HandleId) : (s.teardown f).Uninvolved s := by
  unfold teardown
  split
  · simp
  · simp only
    split <;> simp

theorem uninvolved_afterFinalizer (f : HandleId) : (s.afterFinalizer f).Uninvolved s := by
  unfold afterFinalizer
  split
  · simp
  · simp only
    split <;> simp

theorem uninvolved_unregisterFunction (f : HandleId) :
    (s.unregisterFunction f).Uninvolved s := by
  unfold unregisterFunction
  split <;> simp

theorem uninvolved_finalizer (owner : Option HandleId) (fin : Finalizer) (env hint : Word) :
    (s.finalizer owner fin env hint).Uninvolved s := by
  unfold finalizer
  split
  · cases owner <;> simp
  · simp
  · simp

theorem uninvolved_createFunction (env : Word) (spec : FunctionSpec) (delivery : Delivery)
    (invoker : Option InvokerId) : (s.createFunction env spec delivery invoker).Uninvolved s := by
  unfold createFunction
  split <;> simp [registerFunction]

theorem uninvolved_afterCreateReference (env : Word) (spec : FunctionSpec) (delivery : Delivery)
    (invoker : Option InvokerId) (r : Response) :
    (s.afterCreateReference env spec delivery invoker r).Uninvolved s := by
  unfold afterCreateReference
  split <;> simp [registerFunction]

theorem uninvolved_closeThen (t : ThreadId) (f : HandleId) (r : Reply)
    (hs : s'.names.invokers = s.names.invokers) : (s'.closeThen t f r).Uninvolved s := by
  unfold closeThen
  split
  · simpa using hs
  · split
    · simpa using hs
    · simp only
      split
      · simpa using hs
      · split <;> next hoffer => simpa [names_of_offer hoffer] using hs

theorem uninvolved_release (t : ThreadId) (f : HandleId) (mode : ReleaseMode) :
    (s.release t f mode).Uninvolved s := by
  unfold release
  split
  · simp
  · split
    · simp
    · split
      · exact uninvolved_closeThen t f _ (by simp)
      · simp only
        split
        · exact uninvolved_closeThen t f _ (by simp)
        · simp

theorem uninvolved_afterDrain (t : ThreadId) (f : HandleId) (wasEmpty : Bool) :
    (s.afterDrain t f wasEmpty).Uninvolved s := by
  unfold afterDrain
  split
  · simp
  · split
    · exact uninvolved_closeThen t f _ rfl
    · simp

theorem uninvolved_work (j : HandleId) (env : Word) : (s.work j env).Uninvolved s := by
  unfold work
  split
  · simp
  · simp only
    split
    · simp
    · split <;> simp [completeJob]

theorem uninvolved_afterExecute (j : HandleId) (env : Word) :
    (s.afterExecute j env).Uninvolved s := by
  unfold afterExecute
  split <;> simp [completeJob]

theorem uninvolved_task (i : InvokerId) (task : Task) : (s.task i task).Uninvolved s := by
  unfold Session.task
  split
  · exact uninvolved_drain _
  · simp
  · exact uninvolved_work ..
  · simp
  · simp

/-! ### Interpreter threads -/

theorem uninvolved_loop {i : InvokerId} {m : Move} (hm : s.loop i = some m) :
    m.Uninvolved s := by
  unfold loop at hm
  split at hm
  · simp at hm
  · split at hm
    · simp at hm
    · split at hm
      · obtain rfl := Option.some.inj hm
        simp [names_discardQueue]
      · obtain ⟨p, hp, rfl⟩ := Option.map_eq_some_iff.1 hm
        obtain ⟨q, -, rfl⟩ := Option.map_eq_some_iff.1 hp
        simp

theorem uninvolved_afterJoined (i : InvokerId) : (s.afterJoined i).Uninvolved s := by
  unfold afterJoined
  split
  · split <;> simp
  · simp

/-! ### Actions -/

theorem uninvolved_withInvoker (name : String) {act : InvokerId → Invoker → Move}
    (h : ∀ i inv, (act i inv).Uninvolved s) : (s.withInvoker name act).Uninvolved s := by
  unfold withInvoker
  split
  · simp
  · exact h _ _

theorem uninvolved_withThread (name : String) {act : InvokerId → InterpreterThread → Move}
    (h : ∀ i r, (act i r).Uninvolved s) : (s.withThread name act).Uninvolved s := by
  unfold withThread
  split
  · simp
  · exact h _ _

theorem uninvolved_withFound (r : Ref) {act : HandleId → ThreadsafeFunction → Move}
    (h : ∀ f fn, (act f fn).Uninvolved s) : (s.withFound r act).Uninvolved s := by
  unfold withFound
  split
  · simp
  · exact h _ _

theorem uninvolved_withTable (name : String) {act : HostTable → Move}
    (h : ∀ table, (act table).Uninvolved s) : (s.withTable name act).Uninvolved s := by
  unfold withTable
  split
  · simp
  · exact h _

theorem uninvolved_withRegistry (name : String) {act : Registry String → Move}
    (h : ∀ r, (act r).Uninvolved s) : (s.withRegistry name act).Uninvolved s := by
  unfold withRegistry
  split
  · simp
  · exact h _

theorem uninvolved_holdThread (t : ThreadId) (name : String) :
    (s.holdThread t name).Uninvolved s := by
  unfold holdThread
  split
  · simp
  · split <;> next hoffer => simp [names_of_offer hoffer]

theorem uninvolved_unholdThread (name : String) : (s.unholdThread name).Uninvolved s := by
  unfold unholdThread
  split <;> simp

theorem uninvolved_shutdownThread (t : ThreadId) (name : String) :
    (s.shutdownThread t name).Uninvolved s := by
  refine uninvolved_withThread name fun i r => ?_
  simp only
  split <;> simp

theorem uninvolved_describeInvoker (name : String) : (s.describeInvoker name).Uninvolved s := by
  unfold describeInvoker
  split <;> simp

theorem uninvolved_createFunctionNamed (a : FunctionArgs) :
    (s.createFunctionNamed a).Uninvolved s := by
  unfold createFunctionNamed
  simp only
  split
  · simp
  · exact uninvolved_withInvoker _ (by simp)

theorem uninvolved_nameFunction (name : String) (keep : Bool) (id : HandleId) :
    (s.nameFunction name keep id).Uninvolved s := by
  unfold nameFunction
  simp only
  split <;> simp

theorem uninvolved_createJobNamed (name : String) (env data : Ref) (keep : Bool) :
    (s.createJobNamed name env data keep).Uninvolved s := by
  unfold createJobNamed
  simp only
  split <;> simp [names_createJob]

theorem uninvolved_onJob (job : Ref) (direct : Bool) {kept byId : HandleId → Outcome × Session}
    (hkept : ∀ j, (kept j).2.names = s.names) (hbyId : ∀ j, (byId j).2.names = s.names) :
    (s.onJob job direct kept byId).Uninvolved s := by
  unfold onJob
  split
  · simp [hkept]
  · simp [hbyId]

theorem uninvolved_createHost (name : String) (slot : ℕ) (entries : List Entry)
    (overlays : List String) : (s.createHost name slot entries overlays).Uninvolved s := by
  unfold createHost
  split
  · simp
  · simp only
    split <;> simp

theorem uninvolved_dropHost (name : String) : (s.dropHost name).Uninvolved s := by
  unfold dropHost
  split <;> simp

theorem uninvolved_inject (name : Option String) : (s.inject name).Uninvolved s := by
  unfold inject
  split
  · simp
  · exact uninvolved_withTable _ (by simp)

theorem uninvolved_install (name : String) : (s.install name).Uninvolved s := by
  refine uninvolved_withTable name fun table => ?_
  simp only
  split <;> simp

theorem uninvolved_createMultiplexer (name : String) (register fatal : Bool) :
    (s.createMultiplexer name register fatal).Uninvolved s := by
  unfold createMultiplexer
  simp only
  split <;> simp

theorem uninvolved_dropMultiplexer (name : String) : (s.dropMultiplexer name).Uninvolved s := by
  unfold dropMultiplexer
  split <;> simp

theorem uninvolved_wrapEnv (multiplexer host : String) (env : Ref) (out : String) :
    (s.wrapEnv multiplexer host env out).Uninvolved s := by
  unfold wrapEnv
  split <;> simp

theorem uninvolved_callEntry (name : String) (e : Entry) (a : EntryArgs) :
    (s.callEntry name e a).Uninvolved s := by
  refine uninvolved_withTable name fun table => ?_
  split
  · simp
  · split
    · simp
    · split
      · simp
      · next p _ =>
        split
        · split <;> simp
        · split
          · simp
          · have h : (s.fatalEntry p a.location a.message).Uninvolved s := by simp
            refine ⟨h.names, ?_⟩
            simpa [Move.owes] using h.owes

theorem uninvolved_configureAction (c : RuntimeConfig) :
    (s.configureAction c).Uninvolved s := by
  unfold configureAction configure
  split
  · simp
  · next h =>
    split at h
    · simp at h
    · split at h
      · simp at h
      · obtain rfl := Except.ok.inj h
        simp

theorem uninvolved_perform (t : ThreadId) {a : Action} (ha : a.involves = false) :
    (s.perform t a).Uninvolved s := by
  cases a with
  | createInvoker | dropInvoker | submit | spawnSubmit | pump => simp [Action.involves] at ha
  | bind env invoker => exact uninvolved_withInvoker invoker (by simp)
  | attach env invoker => exact uninvolved_withInvoker invoker (by simp)
  | hold invoker => exact uninvolved_holdThread t invoker
  | unhold invoker => exact uninvolved_unholdThread invoker
  | requestShutdown invoker => exact uninvolved_withThread invoker (by simp)
  | shutdown invoker => exact uninvolved_shutdownThread t invoker
  | describeInvoker invoker => exact uninvolved_describeInvoker invoker
  | createFunction args => exact uninvolved_createFunctionNamed args
  | call func data mode =>
    refine uninvolved_withFound func fun f fn => ?_
    split <;> simp
  | spawnCall name func data mode =>
    exact uninvolved_withFound func (by simp [startProducer])
  | acquire func => exact uninvolved_withFound func fun f fn => by simp [names_acquire]
  | release func mode => exact uninvolved_withFound func (by simp)
  | setReferenced func on => exact uninvolved_withFound func (by simp)
  | functionContext func => exact uninvolved_withFound func (by simp)
  | describeFunction func => exact uninvolved_withFound func (by simp)
  | functionState func => exact uninvolved_withFound func (by simp)
  | createJob name env data keep => exact uninvolved_createJobNamed name env data keep
  | queueJob job env direct =>
    exact uninvolved_onJob job direct (names_queueJob s t · _) (names_queueJobById s t · _)
  | cancelJob job direct =>
    exact uninvolved_onJob job direct (names_cancelJob s) (names_cancelJobById s)
  | deleteJob job => simp [perform, names_deleteJob]
  | describeJob job =>
    simp only [perform]
    split <;> simp
  | script target actions => simp [perform, addScript]
  | createHost name slot entries overlays => exact uninvolved_createHost name slot entries overlays
  | dropHost name => exact uninvolved_dropHost name
  | describeTable name => exact uninvolved_withTable name (by simp)
  | install name => exact uninvolved_install name
  | inject name => exact uninvolved_inject name
  | createMultiplexer name register fatal => exact uninvolved_createMultiplexer name register fatal
  | dropMultiplexer name => exact uninvolved_dropMultiplexer name
  | wrap multiplexer host env out => exact uninvolved_wrapEnv multiplexer host env out
  | describeMultiplexer name =>
    simp only [perform]
    split <;> simp
  | entry table e args => exact uninvolved_callEntry table e args
  | registryInsert registry value out withId => exact uninvolved_withRegistry registry (by simp)
  | registryGet registry id => exact uninvolved_withRegistry registry (by simp)
  | registryRemove registry id => exact uninvolved_withRegistry registry (by simp)
  | registryContains registry id => exact uninvolved_withRegistry registry (by simp)
  | describeRegistry registry => exact uninvolved_withRegistry registry (by simp)
  | takeIds name count =>
    simp only [perform, takeIds]
    split <;> simp
  | configure config => exact uninvolved_configureAction config
  | _ => simp [perform, unbind, logState]

/-! ### Code and frames -/

theorem uninvolved_step {c : Code} {t : ThreadId} {m : Move} (hc : c.involves = false)
    (hperform : ∀ a, c = .perform a → a.involves = false) (hm : c.step t s = some m) :
    m.Uninvolved s := by
  cases c with
  | call | awaitSpace | submit | pump | letGo => simp [Code.involves] at hc
  | perform a =>
    obtain rfl := Option.some.inj hm
    exact uninvolved_perform t (hperform a rfl)
  | script owner actions =>
    cases actions <;> obtain rfl := Option.some.inj hm <;> simp
  | entry p r =>
    obtain rfl := Option.some.inj hm
    exact uninvolved_entry t p r
  | register p moduleHandle =>
    obtain rfl := Option.some.inj hm
    exact uninvolved_registerEntry p moduleHandle
  | createFunction env spec delivery invoker =>
    obtain rfl := Option.some.inj hm
    exact uninvolved_createFunction env spec delivery invoker
  | release f mode =>
    obtain rfl := Option.some.inj hm
    exact uninvolved_release t f mode
  | deliver f data =>
    obtain rfl := Option.some.inj hm
    exact uninvolved_deliver f data
  | teardown f =>
    obtain rfl := Option.some.inj hm
    exact uninvolved_teardown f
  | finalizer owner fin env hint =>
    obtain rfl := Option.some.inj hm
    exact uninvolved_finalizer owner fin env hint
  | task i work =>
    obtain rfl := Option.some.inj hm
    exact uninvolved_task i work
  | awaitTask i completion =>
    simp only [Code.step, awaitTask] at hm
    split at hm
    · obtain rfl := Option.some.inj hm
      simp
    · split at hm
      · split at hm
        · obtain rfl := Option.some.inj hm
          simp
        · simp at hm
      · simp at hm
  | loop i => exact uninvolved_loop hm
  | awaitOccupied i =>
    simp only [Code.step, awaitOccupied] at hm
    split at hm
    · simp at hm
    · obtain rfl := Option.some.inj hm
      simp
  | occupied i =>
    simp only [Code.step, occupied] at hm
    split at hm
    · simp at hm
    · obtain rfl := Option.some.inj hm
      simp
  | awaitEnd i r =>
    simp only [Code.step, awaitEnd] at hm
    split at hm
    · obtain rfl := Option.some.inj hm
      simp
    · simp at hm

theorem uninvolved_resume (t : ThreadId) {fr : Frame} (hfr : fr.owes = []) (r : Reply) :
    (fr.resume t s r).Uninvolved s := by
  cases fr with
  | called | submitted | ranRejected | pumped => simp at hfr
  | responseAnswer out => cases out <;> simp [Frame.resume, answerResponse]
  | createdAnswer name keep => exact uninvolved_nameFunction name keep _
  | referenced env spec delivery invoker =>
    exact uninvolved_afterCreateReference env spec delivery invoker _
  | gotFunction f data => exact uninvolved_afterReference f data _
  | gotReceiver f func => exact uninvolved_afterReceiver f func _
  | gotResult f => exact uninvolved_afterResult f _
  | drained f wasEmpty => exact uninvolved_afterDrain t f wasEmpty
  | finalized f => exact uninvolved_afterFinalizer f
  | unreferenced f => exact uninvolved_unregisterFunction f
  | executed j env => exact uninvolved_afterExecute j env
  | joined i => exact uninvolved_afterJoined i
  | engineScripted slot request => exact uninvolved_engineAnswer slot request
  | forwardedCreate host id =>
    simp only [Frame.resume, afterForwardCreate]
    split <;> simp
  | forwardedHook host env out =>
    simp only [Frame.resume, afterForwardHook]
    split
    · split <;> simp
    · simp
  | forwardedUnhook host handle =>
    simp only [Frame.resume, afterForwardUnhook]
    split <;> simp
  | _ => simp [Frame.resume, afterLooped]

theorem uninvolved_unwind {fr : Frame} (hfr : fr.owes = []) : (fr.unwind s).Uninvolved s := by
  cases fr with
  | called | submitted | ranRejected | pumped => simp at hfr
  | performed owner a rest => cases owner <;> simp [Frame.unwind]
  | _ => simp [Frame.unwind, loopFailed]

end Session

end AddonHost
