import AddonHost.Status

/-!
Errors of host operations.

An operation of the library fails with a `HostError`, which tells the cause; an entry point
returns only the `Status` that the cause collapses to (`HostError.status`, `Status.ofOutcome`).
Distinct causes may share a status: `Status.ofOutcome` is `ok` exactly on success
(`Status.ofOutcome_eq_ok_iff`).
-/

namespace AddonHost

/-- Why a host operation failed. -/
inductive HostError where
  /-- A handle does not resolve or a required pointer is null. -/
  | invalidArg
  /-- An allocation or a registry failed. -/
  | genericFailure
  /-- The threadsafe function is closing or was aborted. -/
  | closing
  /-- The bounded queue is full and the caller does not wait. -/
  | queueFull
  /-- The async work was cancelled before it executed. -/
  | cancelled
  /-- No call invoker is bound to the env, or it is gone. -/
  | noInvoker
  /-- The async work has already completed. -/
  | alreadyCompleted
  /-- The async work was deleted. -/
  | alreadyDeleted
  /-- The async work cannot be queued in the state it is in. -/
  | notQueueable (state : String)
  /-- The host behind a wrapped handle is gone. -/
  | hostGone
  /-- The host lacks an entry. -/
  | unimplemented (entry : String)
  deriving DecidableEq, Repr, Inhabited

/-- The result of an operation that returns nothing. -/
abbrev Outcome := Except HostError Unit

namespace HostError

/-- The status that an entry point returns for an error. -/
def status : HostError → Status
  | invalidArg | noInvoker => .invalidArg
  | closing => .closing
  | queueFull => .queueFull
  | cancelled => .cancelled
  | genericFailure | alreadyCompleted | alreadyDeleted | notQueueable _ | hostGone
  | unimplemented _ => .genericFailure

/-- The name of the cause. -/
def name : HostError → String
  | invalidArg => "InvalidArg"
  | genericFailure => "GenericFailure"
  | closing => "Closing"
  | queueFull => "QueueFull"
  | cancelled => "Cancelled"
  | noInvoker => "NoInvoker"
  | alreadyCompleted => "AlreadyCompleted"
  | alreadyDeleted => "AlreadyDeleted"
  | notQueueable _ => "NotQueueable"
  | hostGone => "HostGone"
  | unimplemented _ => "Unimplemented"

/-- What the error says. -/
def message : HostError → String
  | invalidArg => "invalid argument"
  | genericFailure => "generic failure"
  | closing => "threadsafe function is closing"
  | queueFull => "threadsafe function queue is full"
  | cancelled => "async work cancelled"
  | noInvoker => "no call invoker bound to environment"
  | alreadyCompleted => "async work already completed"
  | alreadyDeleted => "async work already deleted"
  | notQueueable state => "async work cannot be queued while " ++ state
  | hostGone => "host was destroyed"
  | unimplemented entry => "host does not implement " ++ entry

/-- What the cause carries besides its name. -/
def payload? : HostError → Option String
  | notQueueable state => some state
  | unimplemented entry => some entry
  | _ => none

theorem status_ne_ok (e : HostError) : e.status ≠ .ok := by
  cases e <;> simp [status]

end HostError

/-- The status of an outcome: `ok`, or the status of the error. -/
def Status.ofOutcome : Outcome → Status
  | .ok () => .ok
  | .error e => e.status

theorem Status.ofOutcome_eq_ok_iff (r : Outcome) : Status.ofOutcome r = .ok ↔ r = .ok () := by
  cases r with
  | ok u => simp [Status.ofOutcome]
  | error e => simp [Status.ofOutcome, HostError.status_ne_ok]

end AddonHost
