import AddonHost.Proofs.Session.Asking

/-!
What is on stage.

Two sessions may differ in what stands behind their invokers and in their threads, and still show an
addon the same.  `Session.onstage` is what is left of a session without that and without the log.
`Action.isOperation` lists the operations on threadsafe functions and on async work, which
callbacks may perform as well; `Code.isLight` and `Frame.isLight` list the code and the frames that
these lead to, and a session is `InOrder` if its callbacks perform nothing else.
-/

namespace AddonHost

/-! ### Operations -/

/-- Whether what a target stands for is a callback of the addon. -/
def ScriptTarget.isCallback : ScriptTarget → Bool
  | .engine .. => false
  | _ => true

/-- Whether an entry of the runtime has an out-pointer. -/
def Entry.writes : Entry → Bool
  | .createAsyncWork | .createThreadsafeFunction | .getThreadsafeFunctionContext => true
  | _ => false

/-- Whether a call of an entry waits for space in a queue. -/
def Request.isBlocking : Request → Bool
  | .callThreadsafeFunction _ _ mode => CallMode.ofRaw? mode = some .blocking
  | _ => false

mutual

/-- Whether an action is an operation on threadsafe functions or on async work.  Callbacks are set
up to perform such operations; one that is nested in a callback does not wait for space. -/
def Action.isOperation (nested : Bool) : Action → Bool
  | .createFunction _ | .acquire _ | .release .. | .setReferenced .. | .functionContext _
  | .describeFunction _ | .functionState _ | .forgetFunction _ | .createJob .. | .queueJob ..
  | .cancelJob .. | .deleteJob _ | .describeJob _ | .bind .. | .attach .. | .unbind _
  | .detach _ => true
  | .call _ _ mode => !nested || mode = .nonBlocking
  | .entry table e a =>
    table = "abi" && e.ofRuntime && (e.writes || a.out.isNone) &&
      (!nested || e ≠ .callThreadsafeFunction || CallMode.ofRaw? a.mode ≠ some .blocking)
  | .script target actions => target.isCallback && Action.areNested actions
  | _ => false

/-- Whether actions are operations that a callback may perform. -/
def Action.areNested : List Action → Bool
  | [] => true
  | a :: rest => a.isOperation true && Action.areNested rest

end

/-- A callback may perform less than the thread that it interrupts. -/
theorem Action.isOperation_of_nested {a : Action} (ha : a.isOperation true = true)
    {nested : Bool} : a.isOperation nested = true := by
  cases nested <;> cases a <;> simp_all [Action.isOperation]

/-- Whether a task is one that operations submit. -/
def Task.isLight : Task → Bool
  | .drain _ | .teardown _ | .work .. => true
  | .client _ | .occupy => false

/-- Whether a piece of code is one that operations lead to. -/
def Code.isLight (nested : Bool) : Code → Bool
  | .perform a => a.isOperation nested
  | .script _ actions => Action.areNested actions
  | .entry _ r => !nested || !r.isBlocking
  | .call _ _ mode => !nested || mode = .nonBlocking
  | .task _ work => work.isLight
  | .createFunction .. | .deliver .. | .teardown _ | .finalizer .. | .release .. => true
  | _ => false

/-- Whether a frame is one that operations put on a stack, apart from those that wait for a task. -/
def Frame.isLight : Frame → Bool
  | .performed _ _ rest => Action.areNested rest
  | .called _ | .ranInline _ | .taskEnded .. | .pumped .. | .looped _ | .submitted _
  | .ranRejected _ | .spawned _ | .joined _ => false
  | _ => true

/-- Whether a thread goes on with code that operations lead to. -/
def Control.isLight (nested : Bool) : Control → Bool
  | .run c => c.isLight nested
  | .give _ => true
  | .fail => false

/-! ### The stage -/

/-- Whether an event is seen on stage: it is neither a log record nor about an invoker's tasks. -/
def Event.isShown : Event → Bool
  | log .. | queued .. | started .. | ended .. | failed .. | ranInline _ | discarded .. => false
  | _ => true

namespace Session

/-- What is left of a session without the log, the threads, and what stands behind its invokers. -/
def onstage (s : Session) : Session :=
  { s with
    logger := {}
    invokers := s.invokers.map fun p => (p.1, default)
    completions := 0
    signalled := []
    threads := []
    written := []
    journal := s.journal.filter Event.isShown }

/-- The callbacks of a session perform operations and its engines are silent, its only invoker `i`
has its name, and no producer was spawned. -/
def InOrder (i : InvokerId) (name : String) (s : Session) : Prop :=
  (∀ key scripts, s.scripts.get? key = some scripts →
    (∀ actions ∈ scripts, Action.areNested actions = true) ∧ ∀ slot e, key ≠ .engine slot e) ∧
  s.names.invokers.get? name = some i ∧ s.producers = [] ∧
  ∀ j, (s.invokers.get? j).isSome = true → j = i

end Session

namespace Session

variable {i : InvokerId} {name : String} {s d : Session}

/-! ### What two sessions share -/

section Fields

variable (h : s.onstage = d.onstage)

include h

/-- What can be read off the stage. -/
theorem shared {β : Type*} (read : Session → β) (hread : ∀ u : Session, read u.onstage = read u) :
    read s = read d := by
  rw [← hread s, h, hread]

theorem environment_eq : s.environment = d.environment := shared h environment fun _ => rfl

theorem config_eq : s.config = d.config := shared h config fun _ => rfl

theorem ids_eq : s.ids = d.ids := shared h ids fun _ => rfl

theorem functions_eq : s.functions = d.functions := shared h functions fun _ => rfl

theorem jobs_eq : s.jobs = d.jobs := shared h jobs fun _ => rfl

theorem bindings_eq : s.bindings = d.bindings := shared h bindings fun _ => rfl

theorem injected_eq : s.injected = d.injected := shared h injected fun _ => rfl

theorem wrapped_eq : s.wrapped = d.wrapped := shared h wrapped fun _ => rfl

theorem hosts_eq : s.hosts = d.hosts := shared h hosts fun _ => rfl

theorem engines_eq : s.engines = d.engines := shared h engines fun _ => rfl

theorem names_eq : s.names = d.names := shared h names fun _ => rfl

theorem scripts_eq : s.scripts = d.scripts := shared h scripts fun _ => rfl

theorem producers_eq : s.producers = d.producers := shared h producers fun _ => rfl

theorem halted_eq : s.halted = d.halted := shared h halted fun _ => rfl

theorem value_eq (r : Ref) : s.value r = d.value r := by
  cases r <;> simp [value, names_eq h]

theorem findFunction?_eq (r : Ref) : s.findFunction? r = d.findFunction? r := by
  simp [findFunction?, keptFunction?, names_eq h, functions_eq h, value_eq h]

theorem keptJob?_eq (r : Ref) : s.keptJob? r = d.keptJob? r := by
  simp [keptJob?, names_eq h]

theorem holdsJob_eq (j : HandleId) : s.holdsJob j = d.holdsJob j := by
  simp [holdsJob, jobs_eq h, names_eq h]

theorem isSome_invoker_eq (j : InvokerId) :
    (s.invokers.get? j).isSome = (d.invokers.get? j).isSome :=
  shared h (fun u => (u.invokers.get? j).isSome) fun u => by
    simp only [onstage]
    induction u.invokers with
    | nil => rfl
    | cons p rest ih =>
      simp only [List.map_cons, Assoc.get?]
      split
      · rfl
      · exact ih

theorem callWouldWait_eq (f : HandleId) : s.callWouldWait f = d.callWouldWait f := by
  simp [callWouldWait, functions_eq h]

theorem buildRequest_eq (e : Entry) (a : EntryArgs) : s.buildRequest e a = d.buildRequest e a := by
  have hvalue : s.value = d.value := funext (value_eq h)
  unfold buildRequest
  rw [hvalue]

theorem viewFunction_eq (f : HandleId) (fn : ThreadsafeFunction) :
    s.viewFunction f fn = d.viewFunction f fn := by
  simp [viewFunction, functions_eq h]

theorem liveHost?_eq (host : HostId) : s.liveHost? host = d.liveHost? host := by
  simp [liveHost?, hosts_eq h]

theorem route_eq (r : Request) : s.route r = d.route r := by
  simp [route, findEnv, findWrappedFunction, findHook, wrapped_eq h, liveHost?_eq h]

theorem freshId_eq : s.freshId.1 = d.freshId.1 := by
  simp [freshId, ids_eq h]

theorem readConfig_eq : s.readConfig.1 = d.readConfig.1 := by
  unfold readConfig
  rw [config_eq h, environment_eq h]
  split <;> rfl

theorem fire_eq (key : ScriptKey) : (s.fire key).1 = (d.fire key).1 := by
  unfold fire
  rw [scripts_eq h]
  split <;> rfl

theorem inOrder_iff : s.InOrder i name ↔ d.InOrder i name := by
  simp [InOrder, scripts_eq h, names_eq h, producers_eq h, isSome_invoker_eq h]

end Fields

/-! ### Operations on stage -/

@[simp] theorem onstage_config (s : Session) (config : Option RuntimeConfig) :
    ({ s with config } : Session).onstage = { s.onstage with config } := rfl

@[simp] theorem onstage_functions (s : Session) (functions : Registry ThreadsafeFunction) :
    ({ s with functions } : Session).onstage = { s.onstage with functions } := rfl

@[simp] theorem onstage_jobs (s : Session) (jobs : Registry AsyncJob) :
    ({ s with jobs } : Session).onstage = { s.onstage with jobs } := rfl

@[simp] theorem onstage_bindings (s : Session) (bindings : Assoc Word InvokerId) :
    ({ s with bindings } : Session).onstage = { s.onstage with bindings } := rfl

@[simp] theorem onstage_wrapped (s : Session) (wrapped : Wrapped) :
    ({ s with wrapped } : Session).onstage = { s.onstage with wrapped } := rfl

@[simp] theorem onstage_engines (s : Session) (engines : Engines) :
    ({ s with engines } : Session).onstage = { s.onstage with engines } := rfl

@[simp] theorem onstage_names (s : Session) (names : Names) :
    ({ s with names } : Session).onstage = { s.onstage with names } := rfl

@[simp] theorem onstage_scripts (s : Session) (scripts : Assoc ScriptKey (List (List Action))) :
    ({ s with scripts } : Session).onstage = { s.onstage with scripts } := rfl

@[simp] theorem onstage_onstage (s : Session) : s.onstage.onstage = s.onstage := by
  simp [onstage, Function.comp_def]

theorem onstage_emit (s : Session) (e : Event) :
    (s.emit e).onstage = if e.isShown then s.onstage.emit e else s.onstage := by
  cases he : e.isShown <;> simp [emit, onstage, he]

@[simp] theorem onstage_log (s : Session) (level : Log.Level) (text : String) :
    (s.log level text).onstage = s.onstage := by
  simp only [log]
  split_ifs <;> simp [onstage, emit, Event.isShown]

@[simp] theorem onstage_modifyFunction (s : Session) (f : HandleId)
    (g : ThreadsafeFunction → ThreadsafeFunction) :
    (s.modifyFunction f g).onstage = s.onstage.modifyFunction f g := rfl

@[simp] theorem onstage_modifyJob (s : Session) (j : HandleId) (g : AsyncJob → AsyncJob) :
    (s.modifyJob j g).onstage = s.onstage.modifyJob j g := rfl

@[simp] theorem onstage_complain (s : Session) (line : String) :
    (s.complain line).onstage = s.onstage.complain line := rfl

@[simp] theorem onstage_halt (s : Session) : s.halt.onstage = s.onstage.halt := rfl

@[simp] theorem onstage_setVariable (s : Session) (key : String) (w : Word) :
    (s.setVariable key w).onstage = s.onstage.setVariable key w := rfl

@[simp] theorem onstage_freshId (s : Session) : s.freshId.2.onstage = s.onstage.freshId.2 := rfl

@[simp] theorem onstage_keepHost (s : Session) (host : HostId) :
    (s.keepHost host).onstage = s.onstage.keepHost host := rfl

@[simp] theorem onstage_releaseHost (s : Session) (host : HostId) :
    (s.releaseHost host).onstage = s.onstage.releaseHost host := rfl

@[simp] theorem onstage_setReferenced (s : Session) (f : HandleId) (on : Bool) :
    (s.setReferenced f on).onstage = s.onstage.setReferenced f on := rfl

@[simp] theorem onstage_readConfig (s : Session) :
    s.readConfig.2.onstage = s.onstage.readConfig.2 := by
  simp only [readConfig, onstage]
  split <;> rfl

@[simp] theorem onstage_fire (s : Session) (key : ScriptKey) :
    (s.fire key).2.onstage = (s.onstage.fire key).2 := by
  simp only [fire, onstage]
  split <;> rfl

/-! ### Sessions in order -/

@[simp] theorem inOrder_update (environment : Log.Variables) (logger : Log.Logger)
    (config : Option RuntimeConfig) (ids : IdSource) (functions : Registry ThreadsafeFunction)
    (jobs : Registry AsyncJob) (bindings : Assoc Word InvokerId) (injected : HostTable)
    (wrapped : Wrapped) (hosts : Assoc HostId Host) (engines : Engines) (completions : ℕ)
    (signalled : List ℕ)
    (occupations : Assoc InvokerId Occupation) (threads : Assoc ThreadId Thread)
    (written complaints : List String) (halted : Bool) (journal : List Event) :
    ({ s with
      environment, logger, config, ids, functions, jobs, bindings, injected, wrapped, hosts,
      engines, completions, signalled, occupations, threads, written, complaints, halted,
      journal } : Session).InOrder i name ↔ s.InOrder i name := Iff.rfl

theorem inOrder_names {names : Names} (hnames : names.invokers = s.names.invokers) :
    ({ s with names } : Session).InOrder i name ↔ s.InOrder i name := by
  simp [InOrder, hnames]

@[simp] theorem inOrder_emit (e : Event) : (s.emit e).InOrder i name ↔ s.InOrder i name := Iff.rfl

@[simp] theorem inOrder_log (level : Log.Level) (text : String) :
    (s.log level text).InOrder i name ↔ s.InOrder i name := by
  simp only [log]
  split_ifs <;> rfl

@[simp] theorem inOrder_modifyFunction (f : HandleId)
    (g : ThreadsafeFunction → ThreadsafeFunction) :
    (s.modifyFunction f g).InOrder i name ↔ s.InOrder i name := Iff.rfl

@[simp] theorem inOrder_modifyJob (j : HandleId) (g : AsyncJob → AsyncJob) :
    (s.modifyJob j g).InOrder i name ↔ s.InOrder i name := Iff.rfl

@[simp] theorem inOrder_complain (line : String) :
    (s.complain line).InOrder i name ↔ s.InOrder i name := Iff.rfl

@[simp] theorem inOrder_halt : s.halt.InOrder i name ↔ s.InOrder i name := Iff.rfl

@[simp] theorem inOrder_setVariable (key : String) (w : Word) :
    (s.setVariable key w).InOrder i name ↔ s.InOrder i name := Iff.rfl

@[simp] theorem inOrder_freshId : s.freshId.2.InOrder i name ↔ s.InOrder i name := Iff.rfl

@[simp] theorem inOrder_keepHost (host : HostId) :
    (s.keepHost host).InOrder i name ↔ s.InOrder i name := Iff.rfl

@[simp] theorem inOrder_releaseHost (host : HostId) :
    (s.releaseHost host).InOrder i name ↔ s.InOrder i name := Iff.rfl

@[simp] theorem inOrder_setReferenced (f : HandleId) (on : Bool) :
    (s.setReferenced f on).InOrder i name ↔ s.InOrder i name := Iff.rfl

@[simp] theorem inOrder_readConfig :
    s.readConfig.2.InOrder i name ↔ s.InOrder i name := by
  unfold readConfig
  split <;> rfl

theorem InOrder.enginesSilent (h : s.InOrder i name) : s.EnginesSilent := by
  intro slot e
  cases hget : s.scripts.get? (.engine slot e) with
  | none => rfl
  | some scripts => exact absurd rfl ((h.1 _ _ hget).2 slot e)

/-- What a callback performs are operations. -/
theorem InOrder.areNested_fire (h : s.InOrder i name) (key : ScriptKey) :
    Action.areNested (s.fire key).1 = true := by
  unfold fire
  split
  · next actions rest hget => exact (h.1 key _ hget).1 actions (by simp)
  · rfl

theorem InOrder.fire (h : s.InOrder i name) (key : ScriptKey) :
    (s.fire key).2.InOrder i name := by
  unfold Session.fire
  split
  · next actions rest hget =>
    refine ⟨fun key' scripts hscripts => ?_, h.2⟩
    rw [Assoc.get?_insert] at hscripts
    split at hscripts
    · next hkey =>
      subst hkey
      obtain rfl := Option.some.inj hscripts
      exact ⟨fun actions' hmem => (h.1 key _ hget).1 actions' (by simp [hmem]), (h.1 key _ hget).2⟩
    · exact h.1 key' scripts hscripts
  · exact h

end Session

end AddonHost
