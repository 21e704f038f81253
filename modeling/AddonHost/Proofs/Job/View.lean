import AddonHost.Machine.Step
import AddonHost.Proofs.Job.Life

/-!
The life of a job in a session.

`Session.jobLife` is what a session shows of one job, and `Thread.works` is what a thread is in the
middle of doing for it: it is about to run the job's task, or waits for one of the two callbacks.
-/

namespace AddonHost

/-- The envs of a job's tasks that an invoker has queued. -/
def Invoker.workOf (inv : Invoker) (j : HandleId) : List Word :=
  inv.queue.pending.filterMap fun sub => sub.task.workOf? j

namespace Session

/-- The envs of a job's tasks that an invoker has queued, if there is such an invoker. -/
def workOf (s : Session) (j : HandleId) (i : InvokerId) : List Word :=
  ((s.invokers.get? i).map fun inv => inv.workOf j).getD []

/-- The events about a job, in the order of time. -/
def toldOfJob (s : Session) (j : HandleId) : List Event := s.history.filter (Event.concernsJob j)

/-- What a session shows of a job. -/
def jobLife (s : Session) (j : HandleId) : JobLife where
  job := s.jobs.object? j
  registered := s.jobs.owns j
  queued := s.workOf j
  told := s.toldOfJob j
  nextId := s.ids.next

end Session

/-- What a piece of code is about to do for a job. -/
def Code.works (j : HandleId) : Code → List Work
  | .task _ (.work k env) => if k = j then [.starting env] else []
  | _ => []

/-- What a frame is in the middle of doing for a job. -/
def Frame.works (j : HandleId) : Frame → List Work
  | .executed k env => if k = j then [.executing env] else []
  | .completed k => if k = j then [.completing] else []
  | _ => []

/-- What the control of a thread is about to do for a job. -/
def Control.works (j : HandleId) : Control → List Work
  | .run c => c.works j
  | _ => []

/-- What a thread is in the middle of doing for a job. -/
def Thread.works (j : HandleId) (th : Thread) : List Work :=
  th.control.works j ++ th.stack.flatMap (Frame.works j)

/-- What a thread is in the middle of doing for a job after a move, apart from the frames that were
left below. -/
def Move.works (j : HandleId) (m : Move) : List Work :=
  m.control.works j ++ m.frames.flatMap (Frame.works j)

/-- What the threads of a session are in the middle of doing for a job. -/
def Session.worksFor (s : Session) (j : HandleId) : Multiset Work :=
  (s.threads.map fun p => (p.2.works j : Multiset Work)).sum

/-- A thread after a move. -/
theorem Move.works_eq (j : HandleId) (m : Move) (below : List Frame) :
    Thread.works j { control := m.control, stack := m.frames ++ below }
      = m.works j ++ below.flatMap (Frame.works j) := by
  simp [Thread.works, Move.works]

end AddonHost
