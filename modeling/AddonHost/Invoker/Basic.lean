import AddonHost.Answer
import AddonHost.Invoker.TaskQueue

/-!
Call invokers.

An invoker runs tasks on one interpreter thread, first in first out.  A `ManualInvoker` is a queue
that its owner pumps; an `InterpreterThread` runs its queue by itself until it is told to stop.  An
invoker that cannot run a task hands it back (`ManualInvoker.takes`,
`InterpreterThread.shutdown`).
-/

namespace AddonHost

/-- An invoker that its owner pumps. -/
structure ManualInvoker where
  owner : ThreadId
  /-- Whether the submission of a given number is taken; the others are handed back. -/
  takes : Nat → Bool := fun _ => true
  /-- The number of submissions so far. -/
  offered : Nat := 0
  queue : TaskQueue := {}
  /-- The number of tasks that have returned. -/
  executed : Nat := 0

instance : Inhabited ManualInvoker := ⟨{ owner := .main }⟩

/-- The description of a manual invoker. -/
def ManualInvoker.debugText (m : ManualInvoker) : String :=
  "ManualInvoker \x7b pending: " ++ Nat.repr m.queue.size ++ ", executed: " ++
    Nat.repr m.executed ++ " \x7d"

/-- Where an interpreter thread is in its life. -/
inductive Phase where
  | running
  /-- It left its loop and dropped what was queued. -/
  | exited
  /-- A task failed, and the thread with it; what was queued stays. -/
  | failed
  deriving DecidableEq, Repr, Inhabited

/-- An invoker with a thread of its own. -/
structure InterpreterThread where
  name : String
  queue : TaskQueue := {}
  shutdown : Bool := false
  phase : Phase := .running
  /-- Whether someone has waited, or waits, for the thread to end. -/
  joined : Bool := false
  tasksRun : Nat := 0
  syncTasks : Nat := 0
  dropped : Nat := 0
  deriving Inhabited

namespace InterpreterThread

/-- Whether the thread has ended, or is being waited for. -/
def isFinished (r : InterpreterThread) : Bool := r.joined || r.phase != .running

/-- What the thread reports when it has ended. -/
def report (r : InterpreterThread) : ThreadReport where
  tasksRun := r.tasksRun
  syncTasks := r.syncTasks
  dropped := r.dropped

end InterpreterThread

/-- What stands behind an invoker. -/
inductive InvokerCore where
  | manual (m : ManualInvoker)
  | thread (r : InterpreterThread)
  deriving Inhabited

/-- An invoker with the number of those who keep it alive. -/
structure Invoker where
  holders : Nat := 1
  core : InvokerCore
  deriving Inhabited

namespace Invoker

/-- The queue of an invoker. -/
def queue (i : Invoker) : TaskQueue :=
  match i.core with
  | .manual m => m.queue
  | .thread r => r.queue

/-- An invoker with another queue. -/
def withQueue (i : Invoker) (q : TaskQueue) : Invoker :=
  match i.core with
  | .manual m => { i with core := .manual { m with queue := q } }
  | .thread r => { i with core := .thread { r with queue := q } }

/-- Change a manual invoker. -/
def mapManual (i : Invoker) (f : ManualInvoker → ManualInvoker) : Invoker :=
  match i.core with
  | .manual m => { i with core := .manual (f m) }
  | .thread _ => i

/-- Change an interpreter thread. -/
def mapThread (i : Invoker) (f : InterpreterThread → InterpreterThread) : Invoker :=
  match i.core with
  | .manual _ => i
  | .thread r => { i with core := .thread (f r) }

/-- What can be seen of an invoker. -/
def view (i : Invoker) : InvokerView :=
  match i.core with
  | .manual m => .manual m.queue.size m.executed
  | .thread r => .thread r.queue.size r.shutdown r.isFinished

/-- Whether a thread is the one that runs this invoker's tasks. -/
def isOwn (i : Invoker) (id : InvokerId) (t : ThreadId) : Bool :=
  match i.core with
  | .manual m => t = m.owner
  | .thread _ => t = .interpreter id

@[simp] theorem queue_withQueue (i : Invoker) (q : TaskQueue) : (i.withQueue q).queue = q := by
  unfold withQueue queue
  cases i.core <;> rfl

theorem queue_mapManual (i : Invoker) {f : ManualInvoker → ManualInvoker}
    (hf : ∀ m, (f m).queue = m.queue) : (i.mapManual f).queue = i.queue := by
  obtain ⟨holders, core⟩ := i
  cases core
  · exact hf _
  · rfl

theorem queue_mapThread (i : Invoker) {f : InterpreterThread → InterpreterThread}
    (hf : ∀ r, (f r).queue = r.queue) : (i.mapThread f).queue = i.queue := by
  obtain ⟨holders, core⟩ := i
  cases core
  · rfl
  · exact hf _

end Invoker

end AddonHost
