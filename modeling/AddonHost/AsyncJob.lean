import AddonHost.Error
import AddonHost.Handle

/-!
Async work.

A job pairs an execute step with a complete step.  It is queued on an invoker at most once, may be
cancelled until the execute step starts, and may be deleted at any time; a job that was cancelled
still completes, with the status that says so.

    created  --queue-->  queued     --task runs-->  completed
    created  --cancel--> cancelled  --task runs-->  completed   (execute is skipped)
    queued   --cancel--> cancelled
    any state --delete--> deleted
-/

namespace AddonHost

/-- Where a job stands. -/
inductive JobState where
  | created
  | queued
  | completed
  | cancelled
  | deleted
  deriving DecidableEq, Repr, Inhabited

namespace JobState

/-- The state of a number; every number above the last is the last. -/
def ofCode : Nat → JobState
  | 0 => created
  | 1 => queued
  | 2 => completed
  | 3 => cancelled
  | _ => deleted

/-- The name of a state. -/
def name : JobState → String
  | created => "created"
  | queued => "queued"
  | completed => "completed"
  | cancelled => "cancelled"
  | deleted => "deleted"

/-- The name of a state in the description of a record. -/
def debugText : JobState → String
  | created => "Created"
  | queued => "Queued"
  | completed => "Completed"
  | cancelled => "Cancelled"
  | deleted => "Deleted"

end JobState

/-- An async job. -/
structure AsyncJob where
  env : Word
  data : Word
  state : JobState := .created
  /-- Whether its task was handed to an invoker. -/
  dispatched : Bool := false
  deriving DecidableEq, Repr, Inhabited

namespace AsyncJob

/-- Whether the job can be queued now, and the job with its task on the way.  A cancelled job keeps
its state, so its task reports the cancellation. -/
def dispatch (j : AsyncJob) : Except HostError AsyncJob :=
  match j.state with
  | .created =>
    if j.dispatched then .error (.notQueueable JobState.queued.name)
    else .ok { j with dispatched := true, state := .queued }
  | .cancelled =>
    if j.dispatched then .error (.notQueueable JobState.queued.name)
    else .ok { j with dispatched := true }
  | state => .error (.notQueueable state.name)

/-- The task was handed back. -/
def retract (j : AsyncJob) : AsyncJob :=
  { j with
    dispatched := false
    state := if j.state = .queued then .created else j.state }

/-- Cancel: the job afterwards, and whether that changed it. -/
def cancel (j : AsyncJob) : Except HostError (AsyncJob × Bool) :=
  match j.state with
  | .completed => .error .alreadyCompleted
  | .deleted => .error .alreadyDeleted
  | .cancelled => .ok (j, false)
  | .created | .queued => .ok ({ j with state := .cancelled }, true)

/-- The complete step is over; a deleted job stays deleted. -/
def finish (j : AsyncJob) : AsyncJob :=
  { j with state := if j.state = .deleted then .deleted else .completed }

/-- Delete. -/
def delete (j : AsyncJob) : AsyncJob := { j with state := .deleted }

/-- The description of a job registered under an id. -/
def debugText (j : AsyncJob) (id : HandleId) : String :=
  "AsyncJob \x7b id: " ++ id.debugText ++ ", state: " ++ j.state.debugText ++ " \x7d"

end AsyncJob

end AddonHost
