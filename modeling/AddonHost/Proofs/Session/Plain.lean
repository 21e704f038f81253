import AddonHost.Proofs.Session.Follows

/-!
Plain moves.

A move is plain if it concerns no topic, and leaves the thread with nothing to do for a threadsafe
function or a job and with no failure to come (`Move.Plain`).  Nearly all of what an embedder or an
addon does starts with a plain move: `plain_perform` lists the actions that do not.
-/

namespace AddonHost

/-- Whether a piece of code has nothing to do for a function or a job, and does not perform actions
that may fail. -/
def Code.isPlain : Code → Bool
  | .awaitSpace .. | .deliver .. | .teardown _ | .finalizer (some _) .. | .perform _
  | .script .clientTask _ | .task _ (.drain _) | .task _ (.teardown _) | .task _ (.work ..)
  | .task _ (.client _) => false
  | _ => true

/-- Whether a frame is in the middle of nothing that is done for a function or a job, and of no task
that may fail. -/
def Frame.isPlain : Frame → Bool
  | .gotFunction .. | .gotReceiver .. | .drained .. | .finalized _ | .unreferenced _ | .executed ..
  | .completed _ | .performed .clientTask .. => false
  | _ => true

/-- Whether a frame creates a function, or changes wrapped handles, when it gets its reply. -/
def Frame.touchesTopic : Frame → Bool
  | .referenced .. | .unwrapped _ | .forwardedCreate .. | .forwardedHook .. | .forwardedUnhook .. =>
    true
  | _ => false

/-- Whether a call of an entry changes a function, a job or wrapped handles before it returns or is
passed on: the runtime's entries do, and a multiplexer reserves a handle for a function that is to
be created. -/
def Request.touchesTopic : Provider → Request → Bool
  | .runtime, .createAsyncWork .. | .runtime, .deleteAsyncWork .. | .runtime, .queueAsyncWork ..
  | .runtime, .cancelAsyncWork .. | .runtime, .acquireThreadsafeFunction _
  | .runtime, .refThreadsafeFunction .. | .runtime, .unrefThreadsafeFunction ..
  | .multiplexer, .createThreadsafeFunction .. => true
  | _, _ => false

/-- Whether an action starts with a plain move: the others start a thread, run a task, change a
function, a job or a multiplexer, or fail. -/
def Action.isPlain : Action → Bool
  | .createInvoker .. | .submit .. | .spawnSubmit .. | .fail | .spawnCall .. | .acquire _
  | .setReferenced .. | .createJob .. | .queueJob .. | .cancelJob .. | .deleteJob _
  | .createMultiplexer .. | .dropMultiplexer _ | .wrap .. => false
  | _ => true

/-- Whether the control of a thread is plain. -/
def Control.isPlain : Control → Bool
  | .run c => c.isPlain
  | .give _ => true
  | .fail => false

/-- Whether a move from a session concerns no topic. -/
structure Move.Plain (s : Session) (m : Move) : Prop where
  session : Session.Unconcerned s m.session
  control : m.control.isPlain = true
  frames : m.frames.all Frame.isPlain = true

namespace Session

variable {s s' : Session}

attribute [local simp] Code.isPlain Frame.isPlain

theorem plain_run (c : Code) (frames : List Frame) :
    (s'.run c frames).Plain s ↔
      Unconcerned s s' ∧ c.isPlain = true ∧ frames.all Frame.isPlain = true :=
  ⟨fun h => ⟨h.session, h.control, h.frames⟩, fun h => ⟨h.1, h.2.1, h.2.2⟩⟩

theorem plain_give_frames (r : Reply) (frames : List Frame) :
    ({ s'.give r with frames } : Move).Plain s ↔
      Unconcerned s s' ∧ frames.all Frame.isPlain = true :=
  ⟨fun h => ⟨h.session, h.frames⟩, fun h => ⟨h.1, rfl, h.2⟩⟩

@[simp] theorem plain_give (r : Reply) : (s'.give r).Plain s ↔ Unconcerned s s' := by
  exact (plain_give_frames r []).trans (by simp)

attribute [simp] plain_run plain_give_frames

@[simp] theorem plain_reply (a : Answer) : (s'.reply a).Plain s ↔ Unconcerned s s' := plain_give _

@[simp] theorem plain_respond (status : Status) :
    (s'.respond status).Plain s ↔ Unconcerned s s' := plain_give _

@[simp] theorem plain_refuse (r : Refusal) : (s'.refuse r).Plain s ↔ Unconcerned s s' := plain_give _

@[simp] theorem plain_abort : s'.abort.Plain s ↔ Unconcerned s s' := by
  simp [abort]

/-! ### Entries -/

@[simp] theorem plain_fatalError (location message : String) :
    (s'.fatalError location message).Plain s ↔ Unconcerned s s' := by
  unfold fatalError
  simp only
  split <;> simp [follows_emit, Event.topic?]

@[simp] theorem plain_fatalEntry (p : Provider) (location message : RawText) :
    (s'.fatalEntry p location message).Plain s ↔ Unconcerned s s' := by
  unfold fatalEntry
  split <;> simp [follows_emit, Event.topic?]

@[simp] theorem plain_registerEntry (p : Provider) (moduleHandle : Word) :
    (s'.registerEntry p moduleHandle).Plain s ↔ Unconcerned s s' := by
  unfold registerEntry
  split
  · simp [follows_emit, Event.topic?]
  · simp
  · split <;> simp
  · simp

theorem plain_engineEntry (slot : Nat) (r : Request) : (s.engineEntry slot r).Plain s := by
  have h : Unconcerned s (s.emit (.engine slot r)) := by simp [follows_emit, Event.topic?]
  simpa [engineEntry] using h.fire _

theorem plain_engineAnswer (slot : Nat) (r : Request) : (s.engineAnswer slot r).Plain s := by
  unfold engineAnswer
  simp only
  split <;> simp

/-- A finalizer of an engine's function. -/
theorem plain_finalizer (fin : Finalizer) (env hint : Word) :
    (s.finalizer none fin env hint).Plain s := by
  unfold finalizer
  split
  · next data =>
    have h : Unconcerned s (s.emit (.finalize env data hint)) := by
      simp [follows_emit, Event.topic?]
    simpa using h.fire _
  · simp
  · simp

theorem plain_forward {r : Request} (hr : r.touchesTopic .multiplexer = false) :
    (s.forward r).Plain s := by
  unfold forward
  split
  · simp
  · split
    · simp [refuseRoute]
    · split
      · simp [refuseRoute]
      · split
        · simp [Request.touchesTopic] at hr
        all_goals simp

/-! ### The runtime's entries -/

@[simp] theorem plain_respondOutcome (p : Outcome × Session) :
    (respondOutcome p).Plain s ↔ Unconcerned s p.2 := plain_respond _

theorem plain_withFunction (func : Word) {act : HandleId → ThreadsafeFunction → Move}
    (h : ∀ f fn, (act f fn).Plain s) : (s.withFunction func act).Plain s := by
  unfold withFunction
  split
  · simp
  · exact h _ _

theorem plain_createFunctionEntry (env : Word) (spec : FunctionSpec) (out : Bool) :
    (s.createFunctionEntry env spec out).Plain s := by
  unfold createFunctionEntry
  split
  · simp
  · split
    · simp
    · simp

theorem plain_runtimeEntry (t : ThreadId) {r : Request}
    (hr : r.touchesTopic .runtime = false) : (s.runtimeEntry t r).Plain s := by
  unfold runtimeEntry
  split
  case h_5 => exact plain_createFunctionEntry ..
  case h_6 =>
    split
    · simp
    · exact plain_withFunction _ (by simp)
  case h_7 | h_9 =>
    split
    · simp
    · exact plain_withFunction _ (by simp)
  case h_12 => simp
  all_goals simp [Request.touchesTopic] at hr

theorem plain_entry (t : ThreadId) {p : Provider} {r : Request}
    (hr : r.touchesTopic p = false) : (s.entry t p r).Plain s := by
  unfold entry
  split
  · exact plain_engineEntry ..
  · exact plain_runtimeEntry t hr
  · split <;> simp
  · exact plain_forward hr

/-! ### Invokers -/

theorem plain_afterPumped (i : InvokerId) (goal : PumpGoal) : (s.afterPumped i goal).Plain s := by
  unfold afterPumped
  simp only
  split <;> simp

theorem plain_afterLooped (i : InvokerId) : (s.afterLooped i).Plain s := by
  simp [afterLooped, follows_modifyInterpreter]

theorem plain_loopFailed (i : InvokerId) : (s.loopFailed i).Plain s := by
  simp [loopFailed, follows_modifyInterpreter]

theorem plain_afterJoined (i : InvokerId) : (s.afterJoined i).Plain s := by
  unfold afterJoined
  split
  · split <;> simp
  · simp

theorem plain_awaitTask {i : InvokerId} {completion : Nat} {m : Move}
    (h : s.awaitTask i completion = some m) : m.Plain s := by
  unfold awaitTask at h
  split at h
  · obtain rfl := Option.some.inj h
    simp
  · split at h
    · split at h
      · obtain rfl := Option.some.inj h
        simp
      · simp at h
    · simp at h

theorem plain_awaitOccupied {i : InvokerId} {m : Move} (h : s.awaitOccupied i = some m) :
    m.Plain s := by
  unfold awaitOccupied at h
  split at h
  · simp at h
  · obtain rfl := Option.some.inj h
    simp

theorem plain_occupied {i : InvokerId} {m : Move} (h : s.occupied i = some m) : m.Plain s := by
  unfold occupied at h
  split at h
  · simp at h
  · obtain rfl := Option.some.inj h
    simp

theorem plain_awaitEnd {i : InvokerId} {r : Reply} {m : Move} (h : s.awaitEnd i r = some m) :
    m.Plain s := by
  unfold awaitEnd at h
  split at h
  · obtain rfl := Option.some.inj h
    simp
  · simp at h

/-! ### Actions -/

theorem plain_withInvoker (name : String) {act : InvokerId → Invoker → Move}
    (h : ∀ i inv, (act i inv).Plain s) : (s.withInvoker name act).Plain s := by
  unfold withInvoker
  split
  · simp
  · exact h _ _

theorem plain_withThread (name : String) {act : InvokerId → InterpreterThread → Move}
    (h : ∀ i r, (act i r).Plain s) : (s.withThread name act).Plain s := by
  unfold withThread
  split
  · simp
  · exact h _ _

theorem plain_withFound (r : Ref) {act : HandleId → ThreadsafeFunction → Move}
    (h : ∀ f fn, (act f fn).Plain s) : (s.withFound r act).Plain s := by
  unfold withFound
  split
  · simp
  · exact h _ _

theorem plain_withTable (name : String) {act : HostTable → Move}
    (h : ∀ table, (act table).Plain s) : (s.withTable name act).Plain s := by
  unfold withTable
  split
  · simp
  · exact h _

theorem plain_withRegistry (name : String) {act : Registry String → Move}
    (h : ∀ r, (act r).Plain s) : (s.withRegistry name act).Plain s := by
  unfold withRegistry
  split
  · simp
  · exact h _

@[simp] theorem plain_answerOutcome (p : Outcome × Session) :
    (answerOutcome p).Plain s ↔ Unconcerned s p.2 := plain_reply _

theorem plain_dropInvoker (name : String) : (s.dropInvoker name).Plain s := by
  unfold dropInvoker
  split
  · simp
  · simp only
    split
    · simp
    · split <;> simp

theorem plain_pumpNamed (name : String) (goal : PumpGoal) : (s.pumpNamed name goal).Plain s := by
  refine plain_withInvoker name fun i inv => ?_
  split
  · simp
  · split <;> simp

theorem plain_holdThread (t : ThreadId) (name : String) : (s.holdThread t name).Plain s := by
  unfold holdThread
  split
  · simp
  · split
    all_goals
      next h =>
        have hs : Unconcerned _ _ := .of_offer h (by simp [Task.topic?])
        simpa using hs

theorem plain_unholdThread (name : String) : (s.unholdThread name).Plain s := by
  unfold unholdThread
  split <;> simp

theorem plain_shutdownThread (t : ThreadId) (name : String) :
    (s.shutdownThread t name).Plain s := by
  refine plain_withThread name fun i r => ?_
  split <;> simp [follows_modifyInterpreter]

theorem plain_describeInvoker (name : String) : (s.describeInvoker name).Plain s := by
  unfold describeInvoker
  split <;> simp

theorem plain_createFunctionNamed (a : FunctionArgs) : (s.createFunctionNamed a).Plain s := by
  unfold createFunctionNamed
  simp only
  split
  · simp
  · exact plain_withInvoker _ (by simp)

theorem plain_nameFunction (name : String) (keep : Bool) (id : HandleId) :
    (s.nameFunction name keep id).Plain s := by
  unfold nameFunction
  simp only
  split <;> simp

theorem plain_createHost (name : String) (slot : Nat) (entries : List Entry)
    (overlays : List String) : (s.createHost name slot entries overlays).Plain s := by
  unfold createHost
  split
  · simp
  · simp only
    split <;> simp

theorem plain_dropHost (name : String) : (s.dropHost name).Plain s := by
  unfold dropHost
  split <;> simp

theorem plain_inject (name : Option String) : (s.inject name).Plain s := by
  unfold inject
  split
  · simp
  · exact plain_withTable _ (by simp)

theorem plain_install (name : String) : (s.install name).Plain s := by
  refine plain_withTable name fun table => ?_
  simp only
  split <;> simp

theorem plain_callEntry (name : String) (e : Entry) (a : EntryArgs) :
    (s.callEntry name e a).Plain s := by
  refine plain_withTable name fun table => ?_
  split
  · simp
  · split
    · simp
    · split
      · simp
      · next p _ =>
        split
        · split <;> simp
        · split
          · simp
          · have h : (s.fatalEntry p a.location a.message).Plain s :=
              (plain_fatalEntry _ _ _).2 (.refl s)
            exact ⟨h.session, h.control, by simp [h.frames]⟩

theorem plain_registryInsert (name value out : String) (withId : Bool) :
    (s.registryInsert name value out withId).Plain s := by
  refine plain_withRegistry name fun r => ?_
  simpa using (Unconcerned.refl s).freshId

theorem plain_registryRemove (name : String) (id : Ref) : (s.registryRemove name id).Plain s :=
  plain_withRegistry name (by simp)

theorem plain_takeIds (name : String) (count : Nat) : (s.takeIds name count).Plain s := by
  unfold takeIds
  split <;> simp

theorem plain_configureAction (c : RuntimeConfig) : (s.configureAction c).Plain s := by
  unfold configureAction configure
  split
  · simp
  · next h =>
    split at h
    · simp at h
    · split at h
      · simp at h
      · obtain rfl := Except.ok.inj h
        simp

theorem plain_addScript (target : ScriptTarget) (actions : List Action) :
    (s.addScript target actions).Plain s := by
  simpa [addScript] using (Unconcerned.refl s).insertScripts _ _

/-- An action that neither starts a thread, nor runs a task, nor changes a topic, nor fails starts
with a plain move. -/
theorem plain_perform (t : ThreadId) {a : Action} (ha : a.isPlain = true) :
    (s.perform t a).Plain s := by
  cases a with
  | createInvoker | submit | spawnSubmit | fail | spawnCall | acquire | setReferenced | createJob
  | queueJob | cancelJob | deleteJob | createMultiplexer | dropMultiplexer | wrap =>
    simp [Action.isPlain] at ha
  | dropInvoker name => exact plain_dropInvoker name
  | bind env invoker => exact plain_withInvoker invoker (by simp)
  | attach env invoker => exact plain_withInvoker invoker (by simp)
  | pump invoker goal => exact plain_pumpNamed invoker goal
  | hold invoker => exact plain_holdThread t invoker
  | unhold invoker => exact plain_unholdThread invoker
  | requestShutdown invoker => exact plain_withThread invoker (by simp)
  | shutdown invoker => exact plain_shutdownThread t invoker
  | describeInvoker invoker => exact plain_describeInvoker invoker
  | createFunction args => exact plain_createFunctionNamed args
  | call func data mode =>
    refine plain_withFound func fun f fn => ?_
    split <;> simp
  | release func mode => exact plain_withFound func (by simp)
  | functionContext func => exact plain_withFound func (by simp)
  | describeFunction func => exact plain_withFound func (by simp)
  | functionState func => exact plain_withFound func (by simp)
  | describeJob job =>
    simp only [perform]
    split <;> simp
  | script target actions => exact plain_addScript target actions
  | createHost name slot entries overlays => exact plain_createHost name slot entries overlays
  | dropHost name => exact plain_dropHost name
  | describeTable name => exact plain_withTable name (by simp)
  | install name => exact plain_install name
  | inject name => exact plain_inject name
  | describeMultiplexer name =>
    simp only [perform]
    split <;> simp
  | entry table e args => exact plain_callEntry table e args
  | registryInsert registry value out withId => exact plain_registryInsert registry value out withId
  | registryGet registry id => exact plain_withRegistry registry (by simp)
  | registryRemove registry id => exact plain_registryRemove registry id
  | registryContains registry id => exact plain_withRegistry registry (by simp)
  | describeRegistry registry => exact plain_withRegistry registry (by simp)
  | nextId => simpa [perform] using (Unconcerned.refl s).freshId
  | takeIds name count => exact plain_takeIds name count
  | configure config => exact plain_configureAction config
  | _ => simp [perform, unbind, logState]

/-! ### Replies -/

theorem plain_answerResponse (out : Option String) (r : Response) :
    (s.answerResponse out r).Plain s := by
  unfold answerResponse
  split <;> simp

/-- A frame that is in the middle of nothing hands a reply on by a plain move, unless it creates a
function or changes wrapped handles. -/
theorem plain_resume (t : ThreadId) {fr : Frame} (hfr : fr.isPlain = true)
    (htouch : fr.touchesTopic = false) (r : Reply) : (fr.resume t s r).Plain s := by
  cases fr with
  | gotFunction | gotReceiver | drained | finalized | unreferenced | executed | completed =>
    simp at hfr
  | referenced | unwrapped | forwardedCreate | forwardedHook | forwardedUnhook =>
    simp [Frame.touchesTopic] at htouch
  | performed owner a rest =>
    cases owner with
    | callback => simp [Frame.resume, follows_emit, Event.topic?]
    | clientTask => simp at hfr
  | responseAnswer out => exact plain_answerResponse out _
  | createdAnswer name keep => exact plain_nameFunction name keep _
  | gotResult f =>
    simp only [Frame.resume, afterResult]
    split <;> simp
  | ranInline i => simp [Frame.resume, follows_emit, Event.topic?]
  | taskEnded i sub => simp [Frame.resume, follows_endTask (e := .ended i sub) rfl]
  | pumped i goal => exact plain_afterPumped i goal
  | looped i => exact plain_afterLooped i
  | joined i => exact plain_afterJoined i
  | engineScripted slot request => exact plain_engineAnswer slot request
  | _ => simp [Frame.resume]

end Session

end AddonHost
