import AddonHost.Machine.Step
import AddonHost.Proofs.Function.Life

/-!
The life of a function in a session.

`Session.life` is what a session shows of one threadsafe function, and `Session.doing` is what its
threads are in the middle of doing for it.  An activity is read off a piece of code or a frame and
the frames below it: the frames below tell which invoker's task is being run (`runner?`), and
whether a teardown is part of the operation that closed the function (`runsAtOnce`).
-/

namespace AddonHost

/-- The tasks of a function that an invoker has queued. -/
def Invoker.tasksOf (inv : Invoker) (f : HandleId) : List FunctionTask :=
  inv.queue.pending.filterMap fun sub => sub.task.part? f

namespace Session

/-- The tasks of a function that an invoker has queued, if there is such an invoker. -/
def tasksOf (s : Session) (f : HandleId) (i : InvokerId) : List FunctionTask :=
  ((s.invokers.get? i).map fun inv => inv.tasksOf f).getD []

/-- The events about a function, in the order of time. -/
def told (s : Session) (f : HandleId) : List Event := s.history.filter (Event.concerns f)

/-- What a session shows of a function. -/
def life (s : Session) (f : HandleId) : Life where
  function := s.functions.object? f
  registered := s.functions.owns f
  queued := s.tasksOf f
  told := s.told f
  nextId := s.ids.next

end Session

/-- The invoker whose task is run by the code above some frames. -/
def runner? : List Frame → Option InvokerId
  | [] => none
  | .taskEnded i _ :: _ | .ranInline i :: _ => some i
  | _ :: below => runner? below

/-- Whether a teardown above some frames runs inside the operation that closed the function. -/
def runsAtOnce : List Frame → Bool
  | .thenReply _ :: _ => true
  | _ => false

/-- What a piece of code on a thread is about to do for a function. -/
def Code.activities (f : HandleId) (t : ThreadId) (below : List Frame) : Code → List Activity
  | .awaitSpace g _ => if g = f then [.waiting t] else []
  | .deliver g data => if g = f then [.delivering (runner? below) data] else []
  | .teardown g => if g = f then [.ending (runsAtOnce below)] else []
  | .finalizer (some g) fin .. => if g = f then [.finalizerDue fin.data?.isSome] else []
  | .task _ (.drain g) => if g = f then [.starting (runner? below)] else []
  | .task _ (.teardown g) => if g = f then [.ending (runsAtOnce below)] else []
  | _ => []

/-- What a frame above others is in the middle of doing for a function. -/
def Frame.activities (f : HandleId) (below : List Frame) : Frame → List Activity
  | .gotFunction g data => if g = f then [.delivering (runner? below) data] else []
  | .gotReceiver g _ => if g = f then [.calling (runner? below)] else []
  | .drained g wasEmpty => if g = f then [.draining (runner? below) wasEmpty] else []
  | .finalized g => if g = f then [.finalizing (runsAtOnce below)] else []
  | .unreferenced g => if g = f then [.unregistering (runsAtOnce below)] else []
  | _ => []

/-- What the control of a thread is about to do for a function. -/
def Control.activities (f : HandleId) (t : ThreadId) (below : List Frame) : Control → List Activity
  | .run c => c.activities f t below
  | _ => []

/-- What frames that are put above others are in the middle of doing for a function. -/
def framesOver (f : HandleId) : List Frame → List Frame → List Activity
  | [], _ => []
  | fr :: above, below => fr.activities f (above ++ below) ++ framesOver f above below

/-- What a thread is in the middle of doing for a function. -/
def Thread.activities (f : HandleId) (t : ThreadId) (th : Thread) : List Activity :=
  th.control.activities f t th.stack ++ framesOver f th.stack []

/-- What a thread is in the middle of doing for a function after a move, apart from the frames that
were left below. -/
def Move.activities (f : HandleId) (t : ThreadId) (below : List Frame) (m : Move) :
    List Activity :=
  m.control.activities f t (m.frames ++ below) ++ framesOver f m.frames below

/-- What the threads of a session are in the middle of doing for a function. -/
def Session.doing (s : Session) (f : HandleId) : Multiset Activity :=
  (s.threads.map fun p => (p.2.activities f p.1 : Multiset Activity)).sum

theorem framesOver_append (f : HandleId) (above below : List Frame) :
    framesOver f (above ++ below) [] = framesOver f above below ++ framesOver f below [] := by
  induction above with
  | nil => rfl
  | cons fr above ih => simp [framesOver, ih]

/-- A thread after a move. -/
theorem Move.activities_eq (f : HandleId) (t : ThreadId) (below : List Frame) (m : Move) :
    Thread.activities f t { control := m.control, stack := m.frames ++ below }
      = m.activities f t below ++ framesOver f below [] := by
  simp [Thread.activities, Move.activities, framesOver_append]

end AddonHost
