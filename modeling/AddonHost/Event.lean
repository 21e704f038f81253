import AddonHost.Answer
import AddonHost.Invoker.TaskQueue

/-!
The journal of a session.

Events tell what the addon and the engine see, and beside that the steps of the queues that no one
outside sees: an item that is appended or taken, a task that is queued, started, ended or
discarded.  `Event.isPublic` tells the two kinds apart.
-/

namespace AddonHost

/-- Something that happened. -/
inductive Event where
  /-- A record reached the capture sink. -/
  | log (level : Log.Level) (text : String)
  /-- The addon was handed an item of the function `f`. -/
  | callJs (f : HandleId) (env func context data : Word)
  /-- The addon's finalizer was called. -/
  | finalize (env data hint : Word)
  /-- The execute step of a job was called. -/
  | execute (job : HandleId) (env data : Word)
  /-- The complete step of a job was called. -/
  | complete (job : HandleId) (env : Word) (status : Status) (data : Word)
  /-- An engine was called. -/
  | engine (slot : Nat) (request : Request)
  /-- An engine was given a module. -/
  | engineRegister (slot : Nat) (moduleHandle : Word)
  /-- An engine was told of a fatal error. -/
  | engineFatal (slot : Nat) (location message : RawText)
  /-- A submitted task started. -/
  | clientTask
  /-- An action of a callback or of a submitted task was answered. -/
  | did (a : Action) (r : Answer)
  /-- The function behind the reference of `f` was called. -/
  | functionCalled (f : HandleId)
  /-- An item was appended to the queue of `f`. -/
  | appended (f : HandleId) (data : Word)
  /-- An item was taken off the queue of `f`. -/
  | taken (f : HandleId) (data : Word)
  /-- The dispatch task of an item of `f` was offered; whether it was accepted. -/
  | drainOffered (f : HandleId) (accepted : Bool)
  /-- A dispatch task of `f` started. -/
  | drainStarted (f : HandleId)
  /-- A holder of `f` was added; how many there are then. -/
  | acquired (f : HandleId) (count : Word)
  /-- A holder of `f` was dropped; how many are left. -/
  | released (f : HandleId) (count : Word)
  /-- `f` was aborted. -/
  | aborted (f : HandleId)
  /-- The teardown of `f` was scheduled. -/
  | closed (f : HandleId)
  /-- The teardown task of `f` was offered; whether it was accepted. -/
  | teardownOffered (f : HandleId) (accepted : Bool)
  /-- The teardown of `f` started. -/
  | teardownStarted (f : HandleId)
  /-- The addon's finalizer was called for `f`. -/
  | finalizerCalled (f : HandleId)
  /-- The teardown of `f` is over. -/
  | teardownEnded (f : HandleId)
  /-- A cancellation of a job has succeeded. -/
  | jobCancelled (job : HandleId)
  /-- A job was deleted. -/
  | jobDeleted (job : HandleId)
  /-- The task of a job started. -/
  | workStarted (job : HandleId)
  /-- An invoker queued a task. -/
  | queued (i : InvokerId) (sub : Submission)
  /-- An invoker's queued task started. -/
  | started (i : InvokerId) (sub : Submission)
  /-- An invoker's queued task returned. -/
  | ended (i : InvokerId) (sub : Submission)
  /-- An invoker's queued task failed. -/
  | failed (i : InvokerId) (sub : Submission)
  /-- A synchronous task of an invoker's own thread returned. -/
  | ranInline (i : InvokerId)
  /-- A queued task was discarded without running. -/
  | discarded (i : InvokerId) (sub : Submission)
  deriving Inhabited

/-- Whether an event is seen by the sink, the addon or the engine. -/
def Event.isPublic : Event → Bool
  | log .. | callJs .. | finalize .. | execute .. | complete .. | engine .. | engineRegister ..
  | engineFatal .. | clientTask | did .. => true
  | _ => false

end AddonHost
