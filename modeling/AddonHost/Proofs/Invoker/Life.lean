import Mathlib
import AddonHost.Machine.Move

/-!
The service of the invokers.

A session shows of its invokers what stands behind each of them, which completions are signalled,
and what was told of the tasks that they queued (`Service`).  Beside it stands what each thread is
in the middle of doing for an invoker, what came last first (`Duty`).  `Service.Step` says what a
thread can do to both; one step of a thread is a few of these, one after the other.  `Service.Run`
says what a run can do in which no invoker loses a task; nothing is said about who steps, and in a
run that is `unfailing` no task fails.
-/

namespace AddonHost

/-- Whether an event tells what becomes of a task of an invoker. -/
def Event.isService : Event → Bool
  | queued .. | started .. | ended .. | failed .. | ranInline _ | discarded .. => true
  | _ => false

/-- What a thread is in the middle of doing for an invoker. -/
inductive Duty where
  /-- In the loop of an interpreter thread, about to ask for a task. -/
  | loop (i : InvokerId)
  /-- In the loop of an interpreter thread, in a task or right after it. -/
  | looped (i : InvokerId)
  /-- In a task that was taken off the queue. -/
  | running (i : InvokerId) (sub : Submission)
  /-- In a synchronous task of the invoker's own thread. -/
  | inline (i : InvokerId)
  /-- Pumping. -/
  | pumping (i : InvokerId)
  /-- Waiting for a task. -/
  | awaiting (i : InvokerId) (completion : ℕ)
  /-- Waiting until an interpreter thread has ended. -/
  | ending (i : InvokerId)
  /-- About to report on an interpreter thread that has ended. -/
  | joined (i : InvokerId)

namespace InvokerCore

/-- The queue of an invoker. -/
def queue : InvokerCore → TaskQueue
  | manual m => m.queue
  | thread r => r.queue

/-- An invoker with another queue. -/
def withQueue (q : TaskQueue) : InvokerCore → InvokerCore
  | manual m => manual { m with queue := q }
  | thread r => thread { r with queue := q }

/-- Change a manual invoker. -/
def mapManual (f : ManualInvoker → ManualInvoker) : InvokerCore → InvokerCore
  | manual m => manual (f m)
  | thread r => thread r

/-- Change an interpreter thread. -/
def mapThread (f : InterpreterThread → InterpreterThread) : InvokerCore → InvokerCore
  | manual m => manual m
  | thread r => thread (f r)

/-- Count a synchronous submission; manual invokers do not. -/
def countSync : InvokerCore → InvokerCore :=
  mapThread fun r => { r with syncTasks := r.syncTasks + 1 }

/-- Whether an invoker takes tasks: an interpreter thread does until it is told to stop. -/
def IsOpen : InvokerCore → Prop
  | manual _ => True
  | thread r => r.shutdown = false

@[simp] theorem queue_withQueue (core : InvokerCore) (q : TaskQueue) :
    (core.withQueue q).queue = q := by
  cases core <;> rfl

theorem queue_mapManual (core : InvokerCore) {f : ManualInvoker → ManualInvoker}
    (hf : ∀ m, (f m).queue = m.queue) : (core.mapManual f).queue = core.queue := by
  cases core
  · exact hf _
  · rfl

theorem queue_mapThread (core : InvokerCore) {f : InterpreterThread → InterpreterThread}
    (hf : ∀ r, (f r).queue = r.queue) : (core.mapThread f).queue = core.queue := by
  cases core
  · rfl
  · exact hf _

@[simp] theorem queue_countSync (core : InvokerCore) : core.countSync.queue = core.queue := by
  cases core <;> rfl

end InvokerCore

/-- What a session shows of its invokers. -/
@[ext]
structure Service where
  cores : InvokerId → Option InvokerCore
  /-- How many completions were made, and which of them are signalled. -/
  completions : ℕ
  signalled : Set ℕ
  /-- What was told of tasks, in the order of time. -/
  told : List Event

namespace Service

/-- There are no invokers yet. -/
def initial : Service where
  cores _ := none
  completions := 0
  signalled := ∅
  told := []

/-- Something else stands behind an invoker. -/
def set (l : Service) (i : InvokerId) (core : InvokerCore) : Service :=
  { l with cores := Function.update l.cores i (some core) }

/-- What stands behind an invoker changes, if there is such an invoker. -/
def modify (l : Service) (i : InvokerId) (f : InvokerCore → InvokerCore) : Service :=
  { l with cores := Function.update l.cores i ((l.cores i).map f) }

/-- Events are told. -/
def tell (l : Service) (es : List Event) : Service := { l with told := l.told ++ es }

/-- A completion is signalled. -/
def signal (l : Service) (completion : Option ℕ) : Service :=
  { l with signalled := l.signalled ∪ { c | completion = some c } }

/-- A task is queued behind an invoker. -/
def enqueue (l : Service) (i : InvokerId) (core : InvokerCore) (task : Task)
    (completion : Option ℕ) : Service :=
  (l.set i (core.withQueue (core.queue.push task completion))).tell
    [.queued i (core.queue.submission task completion)]

/-- The oldest task is taken off the queue of an invoker. -/
def dequeue (l : Service) (i : InvokerId) (core : InvokerCore) (rest : List Submission) : Service :=
  l.set i (core.withQueue { core.queue with pending := rest })

/-- Whether no interpreter thread runs the tasks of an invoker any more. -/
def HasEnded (l : Service) (i : InvokerId) : Prop :=
  ∀ r, l.cores i = some (.thread r) → r.phase ≠ .running

/-- Whether whoever waits for a task may go on. -/
def MayGoOn (l : Service) (i : InvokerId) (completion : ℕ) : Prop :=
  completion ∈ l.signalled ∨ ∃ r, l.cores i = some (.thread r) ∧ r.isFinished = true

/-- What a thread can do to an invoker and to its own duties. -/
inductive Step (unfailing : Prop) (t : ThreadId) (i : InvokerId) :
    Service × List Duty → Service × List Duty → Prop where
  /-- An invoker is created that its owner pumps. -/
  | create {l : Service} {ds : List Duty} {m : ManualInvoker} (hi : l.cores i = none)
      (hm : m.queue.pending = []) : Step unfailing t i (l, ds) (l.set i (.manual m), ds)
  /-- A manual invoker counts. -/
  | count {l : Service} {ds : List Duty} {f : ManualInvoker → ManualInvoker}
      (hf : ∀ m, (f m).queue = m.queue) :
    Step unfailing t i (l, ds) (l.modify i (.mapManual f), ds)
  /-- A task is queued. -/
  | accept {l : Service} {ds : List Duty} {core : InvokerCore} (task : Task)
      (hi : l.cores i = some core) (hopen : core.IsOpen) :
    Step unfailing t i (l, ds) (l.enqueue i core task none, ds)
  /-- A task is queued, and the submitter waits for it. -/
  | await {l : Service} {ds : List Duty} {core : InvokerCore} (task : Task)
      (hi : l.cores i = some core) (hopen : core.IsOpen) :
    Step unfailing t i (l, ds)
      ({ l with completions := l.completions + 1 }.enqueue i core.countSync task
        (some l.completions), .awaiting i l.completions :: ds)
  /-- The own thread of an invoker begins a synchronous task; an interpreter thread does so in its
  loop. -/
  | inline {l : Service} {ds : List Duty} {core : InvokerCore} (hi : l.cores i = some core)
      (hown : ∀ r, core = .thread r → t = .interpreter i ∧ .looped i ∈ ds) :
    Step unfailing t i (l, ds) (l.set i core.countSync, .inline i :: ds)
  /-- A synchronous task of the own thread has returned. -/
  | ranInline {l : Service} {ds : List Duty} :
    Step unfailing t i (l, .inline i :: ds) (l.tell [.ranInline i], ds)
  /-- A synchronous task of the own thread has failed. -/
  | failedInline {l : Service} {ds : List Duty} (hfails : ¬unfailing) :
    Step unfailing t i (l, .inline i :: ds) (l, ds)
  /-- Whoever waits for a task goes on. -/
  | goOn {l : Service} {ds : List Duty} {c : ℕ} (hc : l.MayGoOn i c) :
    Step unfailing t i (l, .awaiting i c :: ds) (l, ds)
  /-- The loop of an interpreter thread takes the next task. -/
  | start {l : Service} {ds : List Duty} {r : InterpreterThread} {sub : Submission}
      {rest : List Submission} (hi : l.cores i = some (.thread r)) (hopen : r.shutdown = false)
      (hq : r.queue.pending = sub :: rest) :
    Step unfailing t i (l, .loop i :: ds)
      ((l.dequeue i (.thread r) rest).tell [.started i sub], .running i sub :: .looped i :: ds)
  /-- A pump takes the next task. -/
  | pump {l : Service} {ds : List Duty} {core : InvokerCore} {sub : Submission}
      {rest : List Submission} (hi : l.cores i = some core) (hq : core.queue.pending = sub :: rest) :
    Step unfailing t i (l, .pumping i :: ds)
      ((l.dequeue i core rest).tell [.started i sub], .running i sub :: .pumping i :: ds)
  /-- A task has returned. -/
  | ended {l : Service} {ds : List Duty} (sub : Submission) :
    Step unfailing t i (l, .running i sub :: ds)
      ((l.tell [.ended i sub]).signal sub.completion, ds)
  /-- A task has failed. -/
  | failed {l : Service} {ds : List Duty} (sub : Submission) (hfails : ¬unfailing) :
    Step unfailing t i (l, .running i sub :: ds)
      ((l.tell [.failed i sub]).signal sub.completion, ds)
  /-- The loop of an interpreter thread goes on after a task. -/
  | looped {l : Service} {ds : List Duty} :
    Step unfailing t i (l, .looped i :: ds)
      (l.modify i (.mapThread fun r => { r with tasksRun := r.tasksRun + 1 }), .loop i :: ds)
  /-- An interpreter thread ends after a task that failed. -/
  | loopFailed {l : Service} {ds : List Duty} (hfails : ¬unfailing) :
    Step unfailing t i (l, .looped i :: ds)
      (l.modify i (.mapThread fun r => { r with phase := .failed }), ds)
  /-- The loop of an interpreter thread that was told to stop drops the oldest task. -/
  | drop {l : Service} {ds : List Duty} {r : InterpreterThread} {sub : Submission}
      {rest : List Submission} (hi : l.cores i = some (.thread r)) (hstop : r.shutdown = true)
      (hq : r.queue.pending = sub :: rest) :
    Step unfailing t i (l, .loop i :: ds)
      (((l.dequeue i (.thread { r with dropped := r.dropped + 1 }) rest).tell
        [.discarded i sub]).signal sub.completion, .loop i :: ds)
  /-- A manual invoker that nobody keeps drops the oldest task. -/
  | discard {l : Service} {ds : List Duty} {m : ManualInvoker} {sub : Submission}
      {rest : List Submission} (hi : l.cores i = some (.manual m))
      (hq : m.queue.pending = sub :: rest) :
    Step unfailing t i (l, ds)
      (((l.dequeue i (.manual m) rest).tell [.discarded i sub]).signal sub.completion, ds)
  /-- An interpreter thread that was told to stop leaves its loop, with nothing queued. -/
  | exit {l : Service} {ds : List Duty} {r : InterpreterThread}
      (hi : l.cores i = some (.thread r)) (hstop : r.shutdown = true) (hq : r.queue.pending = []) :
    Step unfailing t i (l, .loop i :: ds) (l.set i (.thread { r with phase := .exited }), ds)
  /-- An interpreter thread is told to stop. -/
  | stop {l : Service} {ds : List Duty} :
    Step unfailing t i (l, ds) (l.modify i (.mapThread fun r => { r with shutdown := true }), ds)
  /-- Someone waits until an interpreter thread has ended, and asks for its report if `asks`. -/
  | join {l : Service} {ds : List Duty} {r : InterpreterThread} (asks : Bool)
      (hi : l.cores i = some (.thread r)) (hstop : r.shutdown = true) (hr : r.joined = false) :
    Step unfailing t i (l, ds)
      (l.set i (.thread { r with joined := true }),
        .ending i :: if asks then .joined i :: ds else ds)
  /-- The interpreter thread that someone waited for has ended. -/
  | awaitedEnd {l : Service} {ds : List Duty} (hi : l.HasEnded i) :
    Step unfailing t i (l, .ending i :: ds) (l, ds)
  /-- An interpreter thread that has ended is reported on. -/
  | report {l : Service} {ds : List Duty} :
    Step unfailing t i (l, .joined i :: ds) (l, ds)
  /-- A pump begins. -/
  | beginPump {l : Service} {ds : List Duty} {m : ManualInvoker}
      (hi : l.cores i = some (.manual m)) :
    Step unfailing t i (l, ds) (l, .pumping i :: ds)
  /-- A pump ends. -/
  | endPump {l : Service} {ds : List Duty} :
    Step unfailing t i (l, .pumping i :: ds) (l, ds)

/-- What happens next to the invokers and to the duties of all threads. -/
inductive Next (unfailing : Prop) :
    Service × (ThreadId → List Duty) → Service × (ThreadId → List Duty) → Prop where
  | step {l l' : Service} {duties : ThreadId → List Duty} {t : ThreadId} {i : InvokerId}
      {ds : List Duty} (hs : Step unfailing t i (l, duties t) (l', ds)) :
    Next unfailing (l, duties) (l', Function.update duties t ds)
  /-- An interpreter thread is created with its invoker. -/
  | spawn {l : Service} {duties : ThreadId → List Duty} {i : InvokerId} (name : String)
      (hi : l.cores i = none) (hnil : duties (.interpreter i) = []) :
    Next unfailing (l, duties)
      (l.set i (.thread { name := name }), Function.update duties (.interpreter i) [.loop i])

/-- What a run makes of the invokers and of the duties of all threads when it goes on. -/
inductive Onward (unfailing : Prop) (l : Service) (duties : ThreadId → List Duty) :
    Service → (ThreadId → List Duty) → Prop where
  | refl : Onward unfailing l duties l duties
  | next {l' l'' : Service} {duties' duties'' : ThreadId → List Duty} :
    Onward unfailing l duties l' duties' → Next unfailing (l', duties') (l'', duties'') →
      Onward unfailing l duties l'' duties''

/-- What a run makes of the invokers and of the duties of all threads. -/
abbrev Run (unfailing : Prop) : Service → (ThreadId → List Duty) → Prop :=
  Onward unfailing .initial fun _ => []

theorem Onward.trans {unfailing : Prop} {l l' l'' : Service}
    {duties duties' duties'' : ThreadId → List Duty} (h : Onward unfailing l duties l' duties')
    (h' : Onward unfailing l' duties' l'' duties'') : Onward unfailing l duties l'' duties'' := by
  induction h' with
  | refl => exact h
  | next _ hn ih => exact ih.next hn

end Service

end AddonHost
