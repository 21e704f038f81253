import AddonHost.Machine.Function
import AddonHost.Machine.Job

/-!
Steps of invokers.

A queue is run by its owner (`Session.pump`) or by its interpreter thread (`Session.loop`), one
task after the other.  An interpreter thread that is told to stop finishes the task that it runs
and drops what is queued.  An invoker lives as long as someone keeps it; when the last one lets go,
a manual queue is dropped, and an interpreter thread is told to stop and waited for
(`Session.letGo`).
-/

namespace AddonHost

namespace Session

/-- Run a task of an invoker. -/
def task (s : Session) (i : InvokerId) (task : Task) : Move :=
  match task with
  | .drain f => s.drain f
  | .teardown f => s.run (.teardown f)
  | .work j env => s.work j env
  | .client actions => (s.emit .clientTask).run (.script .clientTask actions)
  | .occupy => { s with occupations := s.occupations.insert i .occupied }.run (.occupied i)

/-- A task off the queue has returned, or failed, as the event tells. -/
def endTask (s : Session) (e : Event) (sub : Submission) : Session :=
  (s.emit e).signal sub.completion

/-- Take the next task off a queue and run it, with a frame that waits for its end. -/
def runNext (s : Session) (i : InvokerId) (inv : Invoker) (after : Frame) : Option Move :=
  (s.startTask i inv).map fun (sub, s) =>
    s.run (.task i sub.task) [.taskEnded i sub, after]

/-- Run queued tasks; with none left, the pump asks whether its goal is reached. -/
def pump (s : Session) (i : InvokerId) (goal : PumpGoal) : Move :=
  match s.invokers.get? i with
  | none => s.reply (.flag false)
  | some inv =>
    match s.runNext i inv (.pumped i goal) with
    | some m => m
    | none =>
      match goal with
      | .one => s.run (.letGo i (.answer (.flag false)))
      | .drained n => s.run (.letGo i (.answer (.count n)))
      | .executed n =>
        let reached := match inv.core with
          | .manual m => n ≤ m.executed
          | .thread _ => false
        s.run (.letGo i (.answer (.flag reached)))
      | .polls n =>
        if n ≤ 1 then s.run (.letGo i (.answer (.flag true)))
        else s.run (.pump i (.polls (n - 1)))

/-- Count a task that a manual invoker has run. -/
def countExecuted (s : Session) (i : InvokerId) : Session :=
  s.modifyInvoker i (·.mapManual fun m => { m with executed := m.executed + 1 })

/-- A pumped task has returned. -/
def afterPumped (s : Session) (i : InvokerId) (goal : PumpGoal) : Move :=
  let s := s.countExecuted i
  match goal with
  | .one => s.run (.letGo i (.answer (.flag true)))
  | .drained n => s.run (.pump i (.drained (n + 1)))
  | goal => s.run (.pump i goal)

/-- Change the interpreter thread behind an invoker. -/
def modifyInterpreter (s : Session) (i : InvokerId)
    (g : InterpreterThread → InterpreterThread) : Session :=
  s.modifyInvoker i (·.mapThread g)

/-- The loop of an interpreter thread: leave it when told to stop, else run the next task. -/
def loop (s : Session) (i : InvokerId) : Option Move :=
  match s.invokers.get? i with
  | none => none
  | some inv =>
    match inv.core with
    | .manual _ => none
    | .thread r =>
      if r.shutdown then
        some
          (((s.discardQueue i inv).modifyInterpreter i fun r =>
            { r with phase := .exited, dropped := r.dropped + inv.queue.size }).give .unit)
      else s.runNext i inv (.looped i)

/-- A task of the loop has returned. -/
def afterLooped (s : Session) (i : InvokerId) : Move :=
  (s.modifyInterpreter i fun r => { r with tasksRun := r.tasksRun + 1 }).run (.loop i)

/-- A task of the loop has failed, and the thread with it. -/
def loopFailed (s : Session) (i : InvokerId) : Move :=
  (s.modifyInterpreter i fun r => { r with phase := .failed }).give .unit

/-- Whether the interpreter thread of an invoker has ended. -/
def hasEnded (s : Session) (i : InvokerId) : Bool :=
  match s.invokers.get? i with
  | none => true
  | some inv =>
    match inv.core with
    | .manual _ => true
    | .thread r => r.phase ≠ .running

/-- Wait for a task: until it was run or dropped, or until its thread cannot run it any more. -/
def awaitTask (s : Session) (i : InvokerId) (completion : Nat) : Option Move :=
  if s.signalled.contains completion then some (s.give .unit)
  else
    match (s.invokers.get? i).map Invoker.core with
    | some (.thread r) =>
      if r.isFinished then
        some ((s.log .warn "interpreter thread exited before running a sync task").give .unit)
      else none
    | _ => none

/-- Wait until an interpreter thread is occupied. -/
def awaitOccupied (s : Session) (i : InvokerId) : Option Move :=
  match s.occupations.get? i with
  | some .requested => none
  | _ => some (s.reply (.flag true))

/-- Occupy the thread until it is let go. -/
def occupied (s : Session) (i : InvokerId) : Option Move :=
  match s.occupations.get? i with
  | some .occupied => none
  | _ => some ({ s with occupations := s.occupations.erase i }.give .unit)

/-- Let an occupied thread go. -/
def releaseOccupation (s : Session) (i : InvokerId) : Session :=
  match s.occupations.get? i with
  | some .occupied => { s with occupations := s.occupations.insert i .released }
  | _ => s

/-- Tell an interpreter thread to stop. -/
def requestShutdown (s : Session) (i : InvokerId) : Session :=
  s.modifyInterpreter i fun r => { r with shutdown := true }

/-- Wait until an interpreter thread has ended. -/
def awaitEnd (s : Session) (i : InvokerId) (r : Reply) : Option Move :=
  if s.hasEnded i then some (s.give r) else none

/-- Stop keeping an invoker alive; the last one to do so takes it down. -/
def letGo (s : Session) (t : ThreadId) (i : InvokerId) (r : Reply) : Move :=
  match s.invokers.get? i with
  | none => s.give r
  | some inv =>
    let s := s.modifyInvoker i fun inv => { inv with holders := inv.holders - 1 }
    if inv.holders ≠ 1 then s.give r
    else
      match inv.core with
      | .manual _ => (s.discardQueue i inv).give r
      | .thread r' =>
        let s := s.requestShutdown i
        if t = .interpreter i || r'.joined then s.give r
        else
          (s.modifyInterpreter i fun r => { r with joined := true }).run (.awaitEnd i r)

/-- What a thread that was waited for reports. -/
def afterJoined (s : Session) (i : InvokerId) : Move :=
  match (s.invokers.get? i).map Invoker.core with
  | some (.thread r) =>
    if r.phase = .failed then (s.log .warn "interpreter thread panicked").reply .nothing
    else s.reply (.report r.report)
  | _ => s.reply .nothing

/-- Submit an embedder's task to an invoker that is kept alive meanwhile. -/
def submit (s : Session) (t : ThreadId) (i : InvokerId) (sync : Bool) (actions : List Action)
    (rejected : Rejected) : Move :=
  match s.offer t i sync (.client actions) with
  | (.accepted, s) => s.run (.letGo i (.answer .done))
  | (.awaited c, s) => s.run (.awaitTask i c) [.submitted i]
  | (.inline, s) => s.run (.task i (.client actions)) [.ranInline i, .submitted i]
  | (.handedBack, s) =>
    match rejected with
    | .dropped => s.run (.letGo i (.answer .handedBack))
    | .run => s.run (.task i (.client actions)) [.ranRejected i]

end Session

end AddonHost
