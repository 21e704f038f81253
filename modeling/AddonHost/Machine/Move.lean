import AddonHost.Session.State

/-!
Moves.

A `Move` is what one step of a thread does: the session afterwards, the thread's control, and the
frames that it puts on its stack.  Here are also the two ways in which a step touches an invoker:
`Session.offer` submits a task, and `Session.startTask` takes the next one off a queue.
-/

namespace AddonHost

/-- What one step of a thread does. -/
structure Move where
  session : Session
  control : Control
  frames : List Frame := []
  deriving Inhabited

/-- How a submission went. -/
inductive Offer where
  /-- The task is queued. -/
  | accepted
  /-- The invoker cannot run it. -/
  | handedBack
  /-- The submitter is the invoker's own thread and runs the task at once. -/
  | inline
  /-- The task is queued and the submitter waits for it. -/
  | awaited (completion : Nat)
  deriving DecidableEq, Repr, Inhabited

namespace Session

/-- Give a reply. -/
def give (s : Session) (r : Reply) : Move := { session := s, control := .give r }

/-- Go on with a piece of code. -/
def run (s : Session) (c : Code) (frames : List Frame := []) : Move :=
  { session := s, control := .run c, frames := frames }

/-- Give an answer. -/
def reply (s : Session) (a : Answer) : Move := s.give (.answer a)

/-- Give a status and no value. -/
def respond (s : Session) (status : Status) : Move := s.give (.response { status := status })

/-- Abort the process. -/
def abort (s : Session) : Move := s.halt.give .unit

/-- Queue a task. -/
def enqueue (s : Session) (i : InvokerId) (inv : Invoker) (task : Task)
    (completion : Option Nat) : Session :=
  (s.modifyInvoker i fun inv => inv.withQueue (inv.queue.push task completion)).emit
    (.queued i (inv.queue.submission task completion))

/-- Queue a task for which the submitter waits. -/
def enqueueAwaited (s : Session) (i : InvokerId) (inv : Invoker) (task : Task) :
    Offer × Session :=
  let c := s.completions
  (.awaited c, ({ s with completions := c + 1 }).enqueue i inv task (some c))

/-- Submit a task from a thread. -/
def offer (s : Session) (t : ThreadId) (i : InvokerId) (sync : Bool) (task : Task) :
    Offer × Session :=
  match s.invokers.get? i with
  | none => (.handedBack, s)
  | some inv =>
    match inv.core with
    | .manual m =>
      let s := s.modifyInvoker i (·.mapManual fun m => { m with offered := m.offered + 1 })
      if !m.takes m.offered then (.handedBack, s)
      else if !sync then (.accepted, s.enqueue i inv task none)
      else if t = m.owner then (.inline, s)
      else s.enqueueAwaited i inv task
    | .thread r =>
      let counted := s.modifyInvoker i (·.mapThread fun r => { r with syncTasks := r.syncTasks + 1 })
      if !sync then
        if r.shutdown then
          (.handedBack, s.log .warn "task submitted after interpreter thread shutdown; rejected")
        else (.accepted, s.enqueue i inv task none)
      else if t = .interpreter i then (.inline, counted)
      else if r.shutdown then
        (.handedBack,
          s.log .warn "sync task submitted after interpreter thread shutdown; rejected")
      else counted.enqueueAwaited i inv task

/-- Take the next task off an invoker's queue. -/
def startTask (s : Session) (i : InvokerId) (inv : Invoker) : Option (Submission × Session) :=
  inv.queue.pop.map fun (sub, q) =>
    (sub, (s.modifyInvoker i (·.withQueue q)).emit (.started i sub))

/-- Drop what an invoker has queued; whoever waits for a dropped task goes on. -/
def discardQueue (s : Session) (i : InvokerId) (inv : Invoker) : Session :=
  let s := inv.queue.pending.foldl
    (fun s sub => (s.emit (.discarded i sub)).signal sub.completion) s
  s.modifyInvoker i fun inv => inv.withQueue inv.queue.clear

end Session

end AddonHost
