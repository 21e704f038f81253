import AddonHost.Action

/-!
Queues of tasks.

Tasks are taken from the front of a `TaskQueue` and appended at its end.  Each task is queued under
a ticket, numbered in the order of submission, and a task that someone waits for names the
completion to signal when it has run or is dropped.
-/

namespace AddonHost

/-- Work for an interpreter thread. -/
inductive Task where
  /-- Deliver one item of a threadsafe function. -/
  | drain (f : HandleId)
  /-- Tear a threadsafe function down. -/
  | teardown (f : HandleId)
  /-- Run a job that was queued with an env. -/
  | work (job : HandleId) (env : Word)
  /-- What an embedder submitted. -/
  | client (actions : List Action)
  /-- Occupy the thread until it is let go. -/
  | occupy
  deriving Inhabited

/-- A task in a queue. -/
structure Submission where
  /-- Its number in the order in which the invoker queued tasks. -/
  ticket : Nat
  task : Task
  /-- What to signal to whoever waits for it. -/
  completion : Option Nat := none
  deriving Inhabited

/-- A queue of tasks with a counter for tickets. -/
structure TaskQueue where
  pending : List Submission := []
  nextTicket : Nat := 0
  deriving Inhabited

namespace TaskQueue

/-- A task under the next ticket. -/
def submission (q : TaskQueue) (task : Task) (completion : Option Nat) : Submission :=
  ⟨q.nextTicket, task, completion⟩

/-- Append a task. -/
def push (q : TaskQueue) (task : Task) (completion : Option Nat) : TaskQueue where
  pending := q.pending ++ [q.submission task completion]
  nextTicket := q.nextTicket + 1

/-- Take the oldest task. -/
def pop (q : TaskQueue) : Option (Submission × TaskQueue) :=
  match q.pending with
  | [] => none
  | s :: rest => some (s, { q with pending := rest })

/-- Drop every task. -/
def clear (q : TaskQueue) : TaskQueue := { q with pending := [] }

/-- The number of tasks. -/
def size (q : TaskQueue) : Nat := q.pending.length

@[simp] theorem pending_push (q : TaskQueue) (task : Task) (completion : Option Nat) :
    (q.push task completion).pending = q.pending ++ [q.submission task completion] := rfl

theorem pop_eq_some_iff (q q' : TaskQueue) (s : Submission) :
    q.pop = some (s, q') ↔ q.pending = s :: q'.pending ∧ q'.nextTicket = q.nextTicket := by
  obtain ⟨pending, next⟩ := q
  obtain ⟨pending', next'⟩ := q'
  cases pending with
  | nil => simp [pop]
  | cons a rest => simp [pop]; grind

end TaskQueue

end AddonHost
