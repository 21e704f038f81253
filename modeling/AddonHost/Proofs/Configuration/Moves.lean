import Mathlib
import AddonHost.Proofs.Session.Onward

/-!
What leaves the configuration alone.

The configuration that a session has installed, and the environment that gives one if there is none,
change in three places only: where a configuration is installed, where it is read, and where the
options of a threadsafe function are made (`Code.usesConfig`).  All else leaves both as they are
(`configuration_step`, `configuration_resume`, `configuration_unwind`).
-/

namespace AddonHost

/-- Whether a piece of code installs a configuration, reads it, or makes the options of a threadsafe
function. -/
def Code.usesConfig : Code → Bool
  | .perform (.configure _) | .perform .readConfig | .perform (.createFunction _)
  | .entry .runtime (.createThreadsafeFunction ..) => true
  | _ => false

namespace Session

variable {s s' : Session} {t : ThreadId}

/-- The configuration that is installed, if one is, and the environment. -/
def configuration (s : Session) : Option RuntimeConfig × Log.Variables := (s.config, s.environment)

/-! ### Operations -/

@[simp] theorem configuration_update (logger : Log.Logger) (ids : IdSource)
    (functions : Registry ThreadsafeFunction) (jobs : Registry AsyncJob)
    (bindings : Assoc Word InvokerId) (injected : HostTable) (wrapped : Wrapped)
    (invokers : Assoc InvokerId Invoker) (hosts : Assoc HostId Host) (engines : Engines)
    (names : Names) (scripts : Assoc ScriptKey (List (List Action))) (completions : Nat)
    (signalled : List Nat) (occupations : Assoc InvokerId Occupation) (producers : List Producer)
    (threads : Assoc ThreadId Thread) (written complaints : List String) (halted : Bool)
    (journal : List Event) :
    ({ s with
      logger, ids, functions, jobs, bindings, injected, wrapped, invokers, hosts, engines, names,
      scripts, completions, signalled, occupations, producers, threads, written, complaints, halted,
      journal } : Session).configuration = s.configuration := rfl

@[simp] theorem configuration_emit (e : Event) : (s.emit e).configuration = s.configuration := rfl

@[simp] theorem configuration_log (level : Log.Level) (text : String) :
    (s.log level text).configuration = s.configuration := by
  simp only [log]
  split_ifs <;> rfl

@[simp] theorem configuration_setLogger (g : Log.Logger) :
    (s.setLogger g).configuration = s.configuration := rfl

@[simp] theorem configuration_complain (line : String) :
    (s.complain line).configuration = s.configuration := rfl

@[simp] theorem configuration_halt : s.halt.configuration = s.configuration := rfl

@[simp] theorem configuration_freshId : s.freshId.2.configuration = s.configuration := rfl

@[simp] theorem configuration_setVariable (name : String) (w : Word) :
    (s.setVariable name w).configuration = s.configuration := rfl

@[simp] theorem configuration_setThread (th : Thread) :
    (s.setThread t th).configuration = s.configuration := rfl

@[simp] theorem configuration_modifyFunction (f : HandleId)
    (g : ThreadsafeFunction → ThreadsafeFunction) :
    (s.modifyFunction f g).configuration = s.configuration := rfl

@[simp] theorem configuration_modifyJob (j : HandleId) (g : AsyncJob → AsyncJob) :
    (s.modifyJob j g).configuration = s.configuration := rfl

@[simp] theorem configuration_modifyInvoker (i : InvokerId) (g : Invoker → Invoker) :
    (s.modifyInvoker i g).configuration = s.configuration := rfl

@[simp] theorem configuration_modifyInterpreter (i : InvokerId)
    (g : InterpreterThread → InterpreterThread) :
    (s.modifyInterpreter i g).configuration = s.configuration := rfl

@[simp] theorem configuration_keepInvoker (i : InvokerId) :
    (s.keepInvoker i).configuration = s.configuration := rfl

@[simp] theorem configuration_requestShutdown (i : InvokerId) :
    (s.requestShutdown i).configuration = s.configuration := rfl

@[simp] theorem configuration_countExecuted (i : InvokerId) :
    (s.countExecuted i).configuration = s.configuration := rfl

@[simp] theorem configuration_keepHost (h : HostId) :
    (s.keepHost h).configuration = s.configuration := rfl

@[simp] theorem configuration_releaseHost (h : HostId) :
    (s.releaseHost h).configuration = s.configuration := rfl

@[simp] theorem configuration_setReferenced (f : HandleId) (on : Bool) :
    (s.setReferenced f on).configuration = s.configuration := rfl

@[simp] theorem configuration_endProducer (n : Nat) (a : Answer) :
    (s.endProducer n a).configuration = s.configuration := rfl

@[simp] theorem configuration_setRegistry (name : String) (r : Registry String) :
    (s.setRegistry name r).configuration = s.configuration := rfl

@[simp] theorem configuration_eraseEnvs (m : MultiplexerHandle) :
    (s.eraseEnvs m).configuration = s.configuration := rfl

@[simp] theorem configuration_enqueue (i : InvokerId) (inv : Invoker) (task : Task)
    (completion : Option Nat) :
    (s.enqueue i inv task completion).configuration = s.configuration := rfl

@[simp] theorem configuration_signal (completion : Option Nat) :
    (s.signal completion).configuration = s.configuration := by
  cases completion <;> rfl

@[simp] theorem configuration_releaseOccupation (i : InvokerId) :
    (s.releaseOccupation i).configuration = s.configuration := by
  unfold releaseOccupation
  split <;> rfl

@[simp] theorem configuration_fire (key : ScriptKey) :
    (s.fire key).2.configuration = s.configuration := by
  unfold fire
  split <;> rfl

@[simp] theorem configuration_endTask (e : Event) (sub : Submission) :
    (s.endTask e sub).configuration = s.configuration := by
  simp [endTask]

@[simp] theorem configuration_injectTable (table : HostTable) :
    (s.injectTable table).configuration = s.configuration := by
  simp [injectTable]

@[simp] theorem configuration_reportFatal (location message : RawText) :
    (s.reportFatal location message).configuration = s.configuration := by
  simp [reportFatal]

@[simp] theorem configuration_discardQueue (i : InvokerId) (inv : Invoker) :
    (s.discardQueue i inv).configuration = s.configuration := by
  simp only [discardQueue, configuration_modifyInvoker]
  induction inv.queue.pending generalizing s with
  | nil => rfl
  | cons sub subs ih => simp [ih]

theorem configuration_of_offer {i : InvokerId} {sync : Bool} {task : Task} {o : Offer}
    (h : s.offer t i sync task = (o, s')) : s'.configuration = s.configuration := by
  unfold offer at h
  split at h
  · obtain ⟨-, rfl⟩ := Prod.mk.inj h
    rfl
  · split at h
    all_goals
      simp only at h
      split_ifs at h <;>
        · obtain ⟨-, rfl⟩ := Prod.mk.inj h
          simp

theorem configuration_of_startTask {i : InvokerId} {inv : Invoker} {sub : Submission}
    (h : s.startTask i inv = some (sub, s')) : s'.configuration = s.configuration := by
  obtain ⟨p, -, heq⟩ := Option.map_eq_some_iff.1 h
  obtain ⟨-, rfl⟩ := Prod.mk.inj heq
  simp

@[simp] theorem configuration_acquire (f : HandleId) (fn : ThreadsafeFunction) :
    (s.acquire f fn).2.configuration = s.configuration := by
  unfold acquire
  split <;> rfl

@[simp] theorem configuration_createJob (env data : Word) :
    (s.createJob env data).2.configuration = s.configuration := by
  simp [createJob]

@[simp] theorem configuration_queueJob (j : HandleId) (env : Word) :
    (s.queueJob t j env).2.configuration = s.configuration := by
  unfold queueJob
  split
  · rfl
  · split
    · simp
    · split
      · rfl
      · split <;> next h => simp [configuration_of_offer h]

@[simp] theorem configuration_queueJobById (j : HandleId) (env : Word) :
    (s.queueJobById t j env).2.configuration = s.configuration := by
  unfold queueJobById
  split <;> simp

@[simp] theorem configuration_cancelJob (j : HandleId) :
    (s.cancelJob j).2.configuration = s.configuration := by
  unfold cancelJob
  split
  · rfl
  · split <;> simp

@[simp] theorem configuration_cancelJobById (j : HandleId) :
    (s.cancelJobById j).2.configuration = s.configuration := by
  unfold cancelJobById
  split <;> simp

@[simp] theorem configuration_deleteJob (j : HandleId) :
    (s.deleteJob j).2.configuration = s.configuration := by
  unfold deleteJob
  split <;> simp

/-! ### Moves -/

@[simp] theorem configuration_reply (a : Answer) :
    (s.reply a).session.configuration = s.configuration := rfl

@[simp] theorem configuration_respond (status : Status) :
    (s.respond status).session.configuration = s.configuration := rfl

@[simp] theorem configuration_refuse (r : Refusal) :
    (s.refuse r).session.configuration = s.configuration := rfl

@[simp] theorem configuration_abort : s.abort.session.configuration = s.configuration := rfl

@[simp] theorem configuration_respondOutcome (p : Outcome × Session) :
    (respondOutcome p).session.configuration = p.2.configuration := rfl

@[simp] theorem configuration_answerOutcome (p : Outcome × Session) :
    (answerOutcome p).session.configuration = p.2.configuration := rfl

@[simp] theorem configuration_refuseRoute (entry : Entry) (p : RouteProblem) :
    (s.refuseRoute entry p).session.configuration = s.configuration := by
  simp [refuseRoute]

/-! ### Entries -/

@[simp] theorem configuration_fatalError (location message : String) :
    (s.fatalError location message).session.configuration = s.configuration := by
  unfold fatalError
  simp only
  split <;> simp

@[simp] theorem configuration_fatalEntry (p : Provider) (location message : RawText) :
    (s.fatalEntry p location message).session.configuration = s.configuration := by
  unfold fatalEntry
  split <;> simp

@[simp] theorem configuration_registerEntry (p : Provider) (moduleHandle : Word) :
    (s.registerEntry p moduleHandle).session.configuration = s.configuration := by
  unfold registerEntry
  split
  case h_3 => split <;> simp
  all_goals simp

@[simp] theorem configuration_engineEntry (slot : Nat) (r : Request) :
    (s.engineEntry slot r).session.configuration = s.configuration := by
  simp [engineEntry]

@[simp] theorem configuration_engineAnswer (slot : Nat) (r : Request) :
    (s.engineAnswer slot r).session.configuration = s.configuration := by
  unfold engineAnswer
  simp only
  split <;> simp

@[simp] theorem configuration_forwardCreate (env : Word) (spec : FunctionSpec) (d : Destination)
    (p : Provider) :
    (s.forwardCreate env spec d p).session.configuration = s.configuration := by
  unfold forwardCreate
  split <;> simp

@[simp] theorem configuration_forward (r : Request) :
    (s.forward r).session.configuration = s.configuration := by
  unfold forward
  split
  · simp
  · split
    · simp
    · split
      · simp
      · split <;> simp

theorem configuration_withFunction (func : Word) {act : HandleId → ThreadsafeFunction → Move}
    (h : ∀ f fn, (act f fn).session.configuration = s.configuration) :
    (s.withFunction func act).session.configuration = s.configuration := by
  unfold withFunction
  split
  · simp
  · exact h _ _

/-- The runtime's entries leave the configuration alone, but for the creation of a function. -/
theorem configuration_runtimeEntry {r : Request} (hr : (Code.entry .runtime r).usesConfig = false) :
    (s.runtimeEntry t r).session.configuration = s.configuration := by
  unfold runtimeEntry
  split
  case h_5 => simp [Code.usesConfig] at hr
  case h_1 => split <;> simp
  case h_6 | h_7 | h_9 =>
    split
    · simp
    · exact configuration_withFunction _ (by simp)
  case h_8 | h_10 | h_11 => exact configuration_withFunction _ (by simp)
  all_goals simp

theorem configuration_entry {p : Provider} {r : Request}
    (hr : (Code.entry p r).usesConfig = false) :
    (s.entry t p r).session.configuration = s.configuration := by
  unfold entry
  split
  · simp
  · exact configuration_runtimeEntry hr
  · split <;> simp
  · simp

/-! ### Threadsafe functions and jobs -/

@[simp] theorem configuration_appendItem (f : HandleId) (fn : ThreadsafeFunction) (data : Word) :
    (s.appendItem t f fn data).session.configuration = s.configuration := by
  unfold appendItem
  simp only
  split
  · simp
  · split <;> next h => simp [configuration_of_offer h]

@[simp] theorem configuration_call (f : HandleId) (data : Word) (mode : CallMode) :
    (s.call t f data mode).session.configuration = s.configuration := by
  unfold call
  split
  · simp
  · split <;> simp

theorem configuration_awaitSpace {f : HandleId} {data : Word} {m : Move}
    (hm : s.awaitSpace t f data = some m) : m.session.configuration = s.configuration := by
  unfold awaitSpace at hm
  split at hm
  · obtain rfl := Option.some.inj hm
    simp
  · split_ifs at hm <;>
      · obtain rfl := Option.some.inj hm
        simp

@[simp] theorem configuration_closeThen (f : HandleId) (r : Reply) :
    (s.closeThen t f r).session.configuration = s.configuration := by
  unfold closeThen
  split
  · simp
  · split
    · simp
    · simp only
      split
      · simp
      · split <;> next h => simp [configuration_of_offer h]

@[simp] theorem configuration_release (f : HandleId) (mode : ReleaseMode) :
    (s.release t f mode).session.configuration = s.configuration := by
  unfold release
  split
  · simp
  · split
    · simp
    · split
      · simp
      · simp only
        split <;> simp

@[simp] theorem configuration_drain (f : HandleId) :
    (s.drain f).session.configuration = s.configuration := by
  unfold drain
  split
  · simp
  · simp only
    split
    · simp
    · split <;> simp

@[simp] theorem configuration_afterDrain (f : HandleId) (wasEmpty : Bool) :
    (s.afterDrain t f wasEmpty).session.configuration = s.configuration := by
  unfold afterDrain
  split
  · simp
  · split <;> simp

@[simp] theorem configuration_deliverWith (f : HandleId) (fn : ThreadsafeFunction)
    (func data : Word) :
    (s.deliverWith f fn func data).session.configuration = s.configuration := by
  unfold deliverWith
  split
  · simp
  · split <;> simp

@[simp] theorem configuration_deliver (f : HandleId) (data : Word) :
    (s.deliver f data).session.configuration = s.configuration := by
  unfold deliver
  split
  · simp
  · split <;> simp

@[simp] theorem configuration_afterReference (f : HandleId) (data : Word) (r : Response) :
    (s.afterReference f data r).session.configuration = s.configuration := by
  unfold afterReference
  split
  · simp
  · split <;> simp

@[simp] theorem configuration_afterReceiver (f : HandleId) (func : Word) (r : Response) :
    (s.afterReceiver f func r).session.configuration = s.configuration := by
  unfold afterReceiver
  split <;> simp

@[simp] theorem configuration_afterResult (f : HandleId) (r : Response) :
    (s.afterResult f r).session.configuration = s.configuration := by
  unfold afterResult
  split <;> simp

@[simp] theorem configuration_teardown (f : HandleId) :
    (s.teardown f).session.configuration = s.configuration := by
  unfold teardown
  split
  · simp
  · simp only
    split <;> simp

@[simp] theorem configuration_afterFinalizer (f : HandleId) :
    (s.afterFinalizer f).session.configuration = s.configuration := by
  unfold afterFinalizer
  split
  · simp
  · simp only
    split <;> simp

@[simp] theorem configuration_unregisterFunction (f : HandleId) :
    (s.unregisterFunction f).session.configuration = s.configuration := by
  unfold unregisterFunction
  split <;> simp

@[simp] theorem configuration_finalizer (owner : Option HandleId) (fin : Finalizer)
    (env hint : Word) :
    (s.finalizer owner fin env hint).session.configuration = s.configuration := by
  unfold finalizer
  split
  · cases owner <;> simp
  · simp
  · simp

@[simp] theorem configuration_registerFunction (env reference : Word) (spec : FunctionSpec)
    (delivery : Delivery) (invoker : Option InvokerId) :
    (s.registerFunction env reference spec delivery invoker).session.configuration
      = s.configuration := by
  simp [registerFunction]

@[simp] theorem configuration_createFunction (env : Word) (spec : FunctionSpec)
    (delivery : Delivery) (invoker : Option InvokerId) :
    (s.createFunction env spec delivery invoker).session.configuration = s.configuration := by
  unfold createFunction
  split <;> simp

@[simp] theorem configuration_afterCreateReference (env : Word) (spec : FunctionSpec)
    (delivery : Delivery) (invoker : Option InvokerId) (r : Response) :
    (s.afterCreateReference env spec delivery invoker r).session.configuration
      = s.configuration := by
  unfold afterCreateReference
  split <;> simp

@[simp] theorem configuration_completeJob (j : HandleId) (job : AsyncJob) (env : Word)
    (status : Status) :
    (s.completeJob j job env status).session.configuration = s.configuration := by
  simp [completeJob]

@[simp] theorem configuration_work (j : HandleId) (env : Word) :
    (s.work j env).session.configuration = s.configuration := by
  unfold work
  split
  · simp
  · simp only
    split
    · simp
    · split <;> simp

@[simp] theorem configuration_afterExecute (j : HandleId) (env : Word) :
    (s.afterExecute j env).session.configuration = s.configuration := by
  unfold afterExecute
  split <;> simp

/-! ### Invokers -/

@[simp] theorem configuration_task (i : InvokerId) (task : Task) :
    (s.task i task).session.configuration = s.configuration := by
  unfold Session.task
  split <;> simp

theorem configuration_runNext {i : InvokerId} {inv : Invoker} {after : Frame} {m : Move}
    (hm : s.runNext i inv after = some m) : m.session.configuration = s.configuration := by
  obtain ⟨⟨sub, s'⟩, hstart, rfl⟩ := Option.map_eq_some_iff.1 hm
  exact configuration_of_startTask hstart

@[simp] theorem configuration_pump (i : InvokerId) (goal : PumpGoal) :
    (s.pump i goal).session.configuration = s.configuration := by
  unfold pump
  split
  · simp
  · split
    · next hm => exact configuration_runNext hm
    · split
      case h_4 => split <;> simp
      all_goals simp

@[simp] theorem configuration_afterPumped (i : InvokerId) (goal : PumpGoal) :
    (s.afterPumped i goal).session.configuration = s.configuration := by
  unfold afterPumped
  simp only
  split <;> simp

theorem configuration_loop {i : InvokerId} {m : Move} (hm : s.loop i = some m) :
    m.session.configuration = s.configuration := by
  unfold loop at hm
  split at hm
  · cases hm
  · split at hm
    · cases hm
    · split at hm
      · obtain rfl := Option.some.inj hm
        simp
      · exact configuration_runNext hm

@[simp] theorem configuration_afterJoined (i : InvokerId) :
    (s.afterJoined i).session.configuration = s.configuration := by
  unfold afterJoined
  split
  · split <;> simp
  · simp

@[simp] theorem configuration_letGo (i : InvokerId) (r : Reply) :
    (s.letGo t i r).session.configuration = s.configuration := by
  unfold letGo
  split
  · simp
  · simp only
    split
    · simp
    · split
      · simp
      · split <;> simp

@[simp] theorem configuration_submit (i : InvokerId) (sync : Bool) (actions : List Action)
    (rejected : Rejected) :
    (s.submit t i sync actions rejected).session.configuration = s.configuration := by
  unfold submit
  split
  case h_4 h => split <;> simp [configuration_of_offer h]
  all_goals next h => simp [configuration_of_offer h]

/-! ### Actions -/

theorem configuration_withInvoker (name : String) {act : InvokerId → Invoker → Move}
    (h : ∀ i inv, (act i inv).session.configuration = s.configuration) :
    (s.withInvoker name act).session.configuration = s.configuration := by
  unfold withInvoker
  split
  · simp
  · exact h _ _

theorem configuration_withThread (name : String) {act : InvokerId → InterpreterThread → Move}
    (h : ∀ i r, (act i r).session.configuration = s.configuration) :
    (s.withThread name act).session.configuration = s.configuration := by
  unfold withThread
  split
  · simp
  · exact h _ _

theorem configuration_withFound (r : Ref) {act : HandleId → ThreadsafeFunction → Move}
    (h : ∀ f fn, (act f fn).session.configuration = s.configuration) :
    (s.withFound r act).session.configuration = s.configuration := by
  unfold withFound
  split
  · simp
  · exact h _ _

theorem configuration_withTable (name : String) {act : HostTable → Move}
    (h : ∀ table, (act table).session.configuration = s.configuration) :
    (s.withTable name act).session.configuration = s.configuration := by
  unfold withTable
  split
  · simp
  · exact h _

theorem configuration_withRegistry (name : String) {act : Registry String → Move}
    (h : ∀ r, (act r).session.configuration = s.configuration) :
    (s.withRegistry name act).session.configuration = s.configuration := by
  unfold withRegistry
  split
  · simp
  · exact h _

@[simp] theorem configuration_nameInvoker (name : String) (i : InvokerId) :
    (s.nameInvoker name i).session.configuration = s.configuration := by
  unfold nameInvoker
  simp only
  split <;> simp

@[simp] theorem configuration_startProducer (name : String) (c : Code) :
    (s.startProducer name c).session.configuration = s.configuration := by
  simp [startProducer]

theorem configuration_createInvoker (name : String) (spec : InvokerSpec) :
    (s.createInvoker t name spec).session.configuration = s.configuration := by
  unfold createInvoker
  split
  · simp
  · split <;> simp

theorem configuration_dropInvoker (name : String) :
    (s.dropInvoker name).session.configuration = s.configuration := by
  unfold dropInvoker
  split
  · simp
  · simp only
    split
    · simp
    · split <;> simp

theorem configuration_pumpNamed (name : String) (goal : PumpGoal) :
    (s.pumpNamed name goal).session.configuration = s.configuration := by
  refine configuration_withInvoker name fun i inv => ?_
  split
  · simp
  · split <;> simp

theorem configuration_holdThread (name : String) :
    (s.holdThread t name).session.configuration = s.configuration := by
  unfold holdThread
  split
  · simp
  · split <;> next h => simp [configuration_of_offer h]

theorem configuration_unholdThread (name : String) :
    (s.unholdThread name).session.configuration = s.configuration := by
  unfold unholdThread
  split <;> simp

theorem configuration_shutdownThread (name : String) :
    (s.shutdownThread t name).session.configuration = s.configuration := by
  refine configuration_withThread name fun i r => ?_
  simp only
  split <;> simp

theorem configuration_describeInvoker (name : String) :
    (s.describeInvoker name).session.configuration = s.configuration := by
  unfold describeInvoker
  split <;> simp

theorem configuration_nameFunction (name : String) (keep : Bool) (id : HandleId) :
    (s.nameFunction name keep id).session.configuration = s.configuration := by
  unfold nameFunction
  simp only
  split <;> simp

theorem configuration_createJobNamed (name : String) (env data : Ref) (keep : Bool) :
    (s.createJobNamed name env data keep).session.configuration = s.configuration := by
  unfold createJobNamed
  simp only
  split <;> simp

theorem configuration_onJob (job : Ref) (direct : Bool) {kept byId : HandleId → Outcome × Session}
    (hkept : ∀ j, (kept j).2.configuration = s.configuration)
    (hbyId : ∀ j, (byId j).2.configuration = s.configuration) :
    (s.onJob job direct kept byId).session.configuration = s.configuration := by
  unfold onJob
  split
  · exact hkept _
  · exact hbyId _

theorem configuration_createHost (name : String) (slot : Nat) (entries : List Entry)
    (overlays : List String) :
    (s.createHost name slot entries overlays).session.configuration = s.configuration := by
  unfold createHost
  split
  · simp
  · simp only
    split <;> simp

theorem configuration_dropHost (name : String) :
    (s.dropHost name).session.configuration = s.configuration := by
  unfold dropHost
  split <;> simp

theorem configuration_inject (name : Option String) :
    (s.inject name).session.configuration = s.configuration := by
  unfold inject
  split
  · simp
  · exact configuration_withTable _ (by simp)

theorem configuration_install (name : String) :
    (s.install name).session.configuration = s.configuration := by
  refine configuration_withTable name fun table => ?_
  simp only
  split <;> simp

theorem configuration_createMultiplexer (name : String) (register fatal : Bool) :
    (s.createMultiplexer name register fatal).session.configuration = s.configuration := by
  unfold createMultiplexer
  simp only
  split <;> simp

theorem configuration_dropMultiplexer (name : String) :
    (s.dropMultiplexer name).session.configuration = s.configuration := by
  unfold dropMultiplexer
  split <;> simp

theorem configuration_wrapEnv (multiplexer host : String) (env : Ref) (out : String) :
    (s.wrapEnv multiplexer host env out).session.configuration = s.configuration := by
  unfold wrapEnv
  split <;> simp

theorem configuration_callEntry (name : String) (e : Entry) (a : EntryArgs) :
    (s.callEntry name e a).session.configuration = s.configuration := by
  refine configuration_withTable name fun table => ?_
  split
  · simp
  · split
    · simp
    · split
      · simp
      · split <;> split <;> simp

theorem configuration_perform {a : Action} (ha : (Code.perform a).usesConfig = false) :
    (s.perform t a).session.configuration = s.configuration := by
  cases a with
  | configure | readConfig | createFunction => simp [Code.usesConfig] at ha
  | createInvoker name spec => exact configuration_createInvoker name spec
  | dropInvoker name => exact configuration_dropInvoker name
  | bind env invoker => exact configuration_withInvoker invoker (by simp)
  | attach env invoker => exact configuration_withInvoker invoker (by simp)
  | submit invoker => exact configuration_withInvoker invoker (by simp)
  | spawnSubmit name invoker => exact configuration_withInvoker invoker (by simp)
  | pump invoker goal => exact configuration_pumpNamed invoker goal
  | hold invoker => exact configuration_holdThread invoker
  | unhold invoker => exact configuration_unholdThread invoker
  | requestShutdown invoker => exact configuration_withThread invoker (by simp)
  | shutdown invoker => exact configuration_shutdownThread invoker
  | describeInvoker invoker => exact configuration_describeInvoker invoker
  | fail => rfl
  | call func data mode =>
    refine configuration_withFound func fun f fn => ?_
    split <;> simp
  | spawnCall name func => exact configuration_withFound func (by simp)
  | acquire func => exact configuration_withFound func (by simp)
  | release func mode => exact configuration_withFound func (by simp)
  | setReferenced func on => exact configuration_withFound func (by simp)
  | functionContext func => exact configuration_withFound func (by simp)
  | describeFunction func => exact configuration_withFound func (by simp)
  | functionState func => exact configuration_withFound func (by simp)
  | createJob name env data keep => exact configuration_createJobNamed name env data keep
  | queueJob job env direct => exact configuration_onJob job direct (by simp) (by simp)
  | cancelJob job direct => exact configuration_onJob job direct (by simp) (by simp)
  | describeJob job =>
    simp only [perform]
    split <;> simp
  | createHost name slot entries overlays =>
    exact configuration_createHost name slot entries overlays
  | dropHost name => exact configuration_dropHost name
  | describeTable name => exact configuration_withTable name (by simp)
  | install name => exact configuration_install name
  | inject name => exact configuration_inject name
  | createMultiplexer name register fatal =>
    exact configuration_createMultiplexer name register fatal
  | dropMultiplexer name => exact configuration_dropMultiplexer name
  | wrap multiplexer host env out => exact configuration_wrapEnv multiplexer host env out
  | describeMultiplexer name =>
    simp only [perform]
    split <;> simp
  | entry table e args => exact configuration_callEntry table e args
  | registryInsert registry => exact configuration_withRegistry registry (by simp)
  | registryGet registry => exact configuration_withRegistry registry (by simp)
  | registryRemove registry => exact configuration_withRegistry registry (by simp)
  | registryContains registry => exact configuration_withRegistry registry (by simp)
  | describeRegistry registry => exact configuration_withRegistry registry (by simp)
  | takeIds name count =>
    simp only [perform, takeIds]
    split <;> simp
  | _ => simp [perform, unbind, logState, addScript]

/-! ### Code and frames -/

/-- Code that does not use the configuration leaves it alone. -/
theorem configuration_step {c : Code} {m : Move} (hc : c.usesConfig = false)
    (hm : c.step t s = some m) : m.session.configuration = s.configuration := by
  cases c with
  | perform a =>
    obtain rfl := Option.some.inj hm
    exact configuration_perform hc
  | script owner actions => cases actions <;> obtain rfl := Option.some.inj hm <;> simp
  | entry p r =>
    obtain rfl := Option.some.inj hm
    exact configuration_entry hc
  | awaitSpace f data => exact configuration_awaitSpace hm
  | awaitTask i completion =>
    simp only [Code.step, awaitTask] at hm
    split at hm
    · obtain rfl := Option.some.inj hm
      simp
    · split at hm
      · split at hm
        · obtain rfl := Option.some.inj hm
          simp
        · cases hm
      · cases hm
  | loop i => exact configuration_loop hm
  | awaitOccupied i =>
    simp only [Code.step, awaitOccupied] at hm
    split at hm
    · cases hm
    · obtain rfl := Option.some.inj hm
      simp
  | occupied i =>
    simp only [Code.step, occupied] at hm
    split at hm
    · cases hm
    · obtain rfl := Option.some.inj hm
      simp
  | awaitEnd i r =>
    simp only [Code.step, awaitEnd] at hm
    split at hm
    · obtain rfl := Option.some.inj hm
      simp
    · cases hm
  | _ =>
    obtain rfl := Option.some.inj hm
    simp

theorem configuration_resume (fr : Frame) (r : Reply) :
    (fr.resume t s r).session.configuration = s.configuration := by
  cases fr with
  | responseAnswer out => cases out <;> simp [Frame.resume, answerResponse]
  | createdAnswer name keep => exact configuration_nameFunction name keep _
  | forwardedCreate host id =>
    simp only [Frame.resume, afterForwardCreate]
    split <;> simp
  | forwardedHook host env out =>
    simp only [Frame.resume, afterForwardHook]
    split
    · split <;> simp
    · simp
  | forwardedUnhook host handle =>
    simp only [Frame.resume, afterForwardUnhook]
    split <;> simp
  | _ => simp [Frame.resume, afterLooped]

theorem configuration_unwind (fr : Frame) :
    (fr.unwind s).session.configuration = s.configuration := by
  cases fr with
  | performed owner a rest => cases owner <;> simp [Frame.unwind]
  | _ => simp [Frame.unwind, loopFailed]

theorem configuration_loseTask (i : InvokerId) (position : Nat) :
    (s.loseTask i position).configuration = s.configuration := by
  unfold loseTask
  split
  · rfl
  · split <;> simp

/-- A move of a thread leaves the configuration alone unless it uses it. -/
theorem Moves.configuration {th : Thread} {m : Move} {below : List Frame}
    (hm : s.Moves t th m below) (hth : ∀ c, th.control = .run c → c.usesConfig = false) :
    m.session.configuration = s.configuration := by
  cases hm with
  | run hstep => exact configuration_step (hth _ rfl) hstep
  | give r fr => exact configuration_resume fr r
  | unwind fr => exact configuration_unwind fr
  | refuse => rfl

end Session

end AddonHost
