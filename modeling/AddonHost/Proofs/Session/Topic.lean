import AddonHost.Proofs.Function.View
import AddonHost.Proofs.Job.View

/-!
What operations concern.

An operation may concern a threadsafe function, a job, or the multiplexers with the handles that
they have wrapped: its `Topic`s.  Every task and every event has at most one topic.  `Session.view`
is what a session shows of a topic, apart from the threads; what has another topic leaves it alone.
-/

namespace AddonHost

/-- What an operation may concern. -/
inductive Topic where
  | function (f : HandleId)
  | job (j : HandleId)
  | multiplexers
  deriving DecidableEq

/-- The number of a topic that has a handle. -/
def Topic.number : Topic → ℕ
  | function f => f.number
  | job j => j.number
  | multiplexers => 0

/-- What a task is about. -/
def Task.topic? : Task → Option Topic
  | .drain f | .teardown f => some (.function f)
  | .work j _ => some (.job j)
  | .client _ | .occupy => none

/-- What an event is about. -/
def Event.topic? : Event → Option Topic
  | callJs f .. | functionCalled f | appended f _ | taken f _ | drainOffered f _ | drainStarted f
  | acquired f _ | released f _ | aborted f | closed f | teardownOffered f _ | teardownStarted f
  | finalizerCalled f | teardownEnded f => some (.function f)
  | execute j .. | complete j .. | jobCancelled j | jobDeleted j | workStarted j => some (.job j)
  | queued _ sub =>
    match sub.task with
    | .work j _ => some (.job j)
    | _ => none
  | discarded _ sub => sub.task.topic?
  | log .. | finalize .. | engine .. | engineRegister .. | engineFatal .. | clientTask | did ..
  | started .. | ended .. | failed .. | ranInline _ => none

/-- Whether a task is about a topic. -/
@[simp] def Task.isAbout (x : Topic) (task : Task) : Bool := task.topic? = some x

/-- Whether an event is about a topic. -/
@[simp] def Event.isAbout (x : Topic) (e : Event) : Bool := e.topic? = some x

theorem Task.part?_eq_none {f : HandleId} {task : Task} (h : task.topic? ≠ some (.function f)) :
    task.part? f = none := by
  cases task <;> simp_all [topic?, part?]

theorem Task.workOf?_eq_none {j : HandleId} {task : Task} (h : task.topic? ≠ some (.job j)) :
    task.workOf? j = none := by
  cases task <;> simp_all [topic?, workOf?]

theorem Event.concerns_eq_false {f : HandleId} {e : Event} (h : e.topic? ≠ some (.function f)) :
    e.concerns f = false := by
  cases e with
  | discarded i sub => simp [concerns, Task.part?_eq_none h]
  | _ => simp_all [topic?, concerns]

theorem Event.concernsJob_eq_false {j : HandleId} {e : Event} (h : e.topic? ≠ some (.job j)) :
    e.concernsJob j = false := by
  cases e with
  | discarded i sub => simp [concernsJob, Task.workOf?_eq_none h]
  | queued i sub =>
    have hnone : sub.task.workOf? j = none := by
      cases hsub : sub.task <;> simp_all [topic?, Task.workOf?]
    simp [concernsJob, hnone]
  | _ => simp_all [topic?, concernsJob]

/-- The tasks of a topic that an invoker has queued. -/
def Invoker.about (inv : Invoker) (x : Topic) : List Task :=
  (inv.queue.pending.map Submission.task).filter (Task.isAbout x)

/-- No task is about multiplexers. -/
@[simp] theorem Invoker.about_multiplexers (inv : Invoker) : inv.about .multiplexers = [] := by
  rw [about, List.filter_eq_nil_iff]
  intro task _
  cases task <;> simp [Task.topic?]

theorem Invoker.tasksOf_eq_about (inv : Invoker) (f : HandleId) :
    inv.tasksOf f = (inv.about (.function f)).filterMap (Task.part? f) := by
  rw [tasksOf, about]
  induction inv.queue.pending with
  | nil => rfl
  | cons sub subs ih =>
    by_cases h : sub.task.topic? = some (.function f)
    · simp [List.filterMap_cons, h, ih]
    · simp [h, ih, Task.part?_eq_none h]

theorem Invoker.workOf_eq_about (inv : Invoker) (j : HandleId) :
    inv.workOf j = (inv.about (.job j)).filterMap (Task.workOf? j) := by
  rw [workOf, about]
  induction inv.queue.pending with
  | nil => rfl
  | cons sub subs ih =>
    by_cases h : sub.task.topic? = some (.job j)
    · simp [List.filterMap_cons, h, ih]
    · simp [h, ih, Task.workOf?_eq_none h]

/-- What a session shows of a topic. -/
inductive View where
  | function (object : Option ThreadsafeFunction) (registered : Bool)
      (queued : InvokerId → List FunctionTask) (told : List Event)
  | job (object : Option AsyncJob) (registered : Bool) (queued : InvokerId → List Word)
      (told : List Event)
  | multiplexers (wrapped : Wrapped) (owners : Assoc String MultiplexerHandle)

namespace Session

/-- What a session shows of a topic, apart from the threads. -/
def view (s : Session) : Topic → View
  | .function f => .function (s.functions.object? f) (s.functions.owns f) (s.tasksOf f) (s.told f)
  | .job j => .job (s.jobs.object? j) (s.jobs.owns j) (s.workOf j) (s.toldOfJob j)
  | .multiplexers => .multiplexers s.wrapped s.names.multiplexers

/-- Whether there is, or was, an object of a topic, or something is registered in its place. -/
def Knows (s : Session) : Topic → Prop
  | .function f => (s.functions.object? f).isSome ∨ s.functions.owns f = true
  | .job j => (s.jobs.object? j).isSome ∨ s.jobs.owns j = true
  | .multiplexers => False

variable {s s' : Session} {x : Topic} {f j : HandleId}

/-- A session knows what it shows. -/
theorem knows_of_view (h : s'.view x = s.view x) (hx : s'.Knows x) : s.Knows x := by
  cases x <;> simp_all [view, Knows]

theorem told_emit (s : Session) (e : Event) (f : HandleId) :
    (s.emit e).told f = s.told f ++ [e].filter (Event.concerns f) := by
  simp [told]

theorem toldOfJob_emit (s : Session) (e : Event) (j : HandleId) :
    (s.emit e).toldOfJob j = s.toldOfJob j ++ [e].filter (Event.concernsJob j) := by
  simp [toldOfJob]

theorem view_emit {e : Event} (he : ¬e.isAbout x) : (s.emit e).view x = s.view x := by
  simp only [Event.isAbout, decide_eq_true_eq] at he
  cases x with
  | function f =>
    have htold : (s.emit e).told f = s.told f := by
      simp [told_emit, Event.concerns_eq_false he]
    simp only [view, htold]
    rfl
  | job j =>
    have htold : (s.emit e).toldOfJob j = s.toldOfJob j := by
      simp [toldOfJob_emit, Event.concernsJob_eq_false he]
    simp only [view, htold]
    rfl
  | multiplexers => rfl

theorem get?_modifyInvoker {i : InvokerId} {inv : Invoker} (hi : s.invokers.get? i = some inv)
    (g : Invoker → Invoker) : (s.modifyInvoker i g).invokers.get? i = some (g inv) := by
  simp [modifyInvoker, Assoc.get?_modify, hi]

theorem tasksOf_modifyInvoker (s : Session) (i : InvokerId) (g : Invoker → Invoker)
    (f : HandleId) (k : InvokerId) :
    (s.modifyInvoker i g).tasksOf f k
      = if i = k then ((s.invokers.get? k).map fun inv => (g inv).tasksOf f).getD []
        else s.tasksOf f k := by
  simp only [tasksOf, modifyInvoker, Assoc.get?_modify]
  split
  · rw [Option.map_map]
    rfl
  · rfl

theorem workOf_modifyInvoker (s : Session) (i : InvokerId) (g : Invoker → Invoker)
    (j : HandleId) (k : InvokerId) :
    (s.modifyInvoker i g).workOf j k
      = if i = k then ((s.invokers.get? k).map fun inv => (g inv).workOf j).getD []
        else s.workOf j k := by
  simp only [workOf, modifyInvoker, Assoc.get?_modify]
  split
  · rw [Option.map_map]
    rfl
  · rfl

/-- A change of an invoker that leaves the tasks of a topic in its queue alone. -/
theorem view_modifyInvoker {i : InvokerId} {g : Invoker → Invoker}
    (hg : ∀ inv, (g inv).about x = inv.about x) : (s.modifyInvoker i g).view x = s.view x := by
  cases x with
  | function f =>
    have htasks : (s.modifyInvoker i g).tasksOf f = s.tasksOf f := by
      funext k
      rw [tasksOf_modifyInvoker]
      split
      · simp only [tasksOf, Invoker.tasksOf_eq_about, hg]
      · rfl
    simp only [view, htasks]
    rfl
  | job j =>
    have hwork : (s.modifyInvoker i g).workOf j = s.workOf j := by
      funext k
      rw [workOf_modifyInvoker]
      split
      · simp only [workOf, Invoker.workOf_eq_about, hg]
      · rfl
    simp only [view, hwork]
    rfl
  | multiplexers => rfl

end Session

end AddonHost
