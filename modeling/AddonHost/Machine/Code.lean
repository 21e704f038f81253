import AddonHost.Event
import AddonHost.Invoker.Basic

/-!
What a thread is doing.

A thread either runs a piece of `Code`, or gives a `Reply` to the `Frame` on top of its stack, or
fails and unwinds its stack.  Each piece of code and each frame takes one step, which ends where
control passes to the addon, to an engine, to a task, or to another thread.  So what may happen in
between is exactly what these may do, and a run of a session is a choice of threads, one after the
other.
-/

namespace AddonHost

/-- What a piece of code returns to the frame below it. -/
inductive Reply where
  | unit
  | outcome (r : Outcome)
  | response (r : Response)
  | handle (id : HandleId)
  | answer (a : Answer)
  deriving Inhabited

/-- Whose actions are being performed: a callback's, across which a failure cannot pass, or a
submitted task's. -/
inductive ScriptOwner where
  | callback
  | clientTask
  deriving DecidableEq, Repr, Inhabited

/-- What a thread does next. -/
inductive Code where
  /-- Perform an action and give its answer. -/
  | perform (a : Action)
  /-- Perform actions, one after the other. -/
  | script (owner : ScriptOwner) (actions : List Action)
  /-- Call an entry of a host. -/
  | entry (p : Provider) (r : Request)
  /-- Hand a module to a host. -/
  | register (p : Provider) (moduleHandle : Word)
  /-- Create a threadsafe function. -/
  | createFunction (env : Word) (spec : FunctionSpec) (delivery : Delivery)
      (invoker : Option InvokerId)
  /-- Call a threadsafe function. -/
  | call (f : HandleId) (data : Word) (mode : CallMode)
  /-- Wait for space in a queue, then append. -/
  | awaitSpace (f : HandleId) (data : Word)
  /-- Give up a threadsafe function. -/
  | release (f : HandleId) (mode : ReleaseMode)
  /-- Hand an item to the addon or to the function behind the reference. -/
  | deliver (f : HandleId) (data : Word)
  /-- Tear a threadsafe function down. -/
  | teardown (f : HandleId)
  /-- Call a finalizer, which may be that of a threadsafe function. -/
  | finalizer (owner : Option HandleId) (call : Finalizer) (env hint : Word)
  /-- Submit an embedder's task. -/
  | submit (i : InvokerId) (sync : Bool) (actions : List Action) (rejected : Rejected)
  /-- Run a task of an invoker. -/
  | task (i : InvokerId) (task : Task)
  /-- Wait until a task was run or discarded. -/
  | awaitTask (i : InvokerId) (completion : Nat)
  /-- Run queued tasks. -/
  | pump (i : InvokerId) (goal : PumpGoal)
  /-- The loop of an interpreter thread. -/
  | loop (i : InvokerId)
  /-- Wait until an interpreter thread is occupied. -/
  | awaitOccupied (i : InvokerId)
  /-- Occupy an interpreter thread until it is let go. -/
  | occupied (i : InvokerId)
  /-- Wait until an interpreter thread has ended, then reply. -/
  | awaitEnd (i : InvokerId) (r : Reply)
  /-- Stop keeping an invoker alive, then reply. -/
  | letGo (i : InvokerId) (r : Reply)
  deriving Inhabited

/-- What waits for a reply. -/
inductive Frame where
  /-- Reply with this instead. -/
  | thenReply (r : Reply)
  /-- The rest of a script, after the answer of an action. -/
  | performed (owner : ScriptOwner) (a : Action) (rest : List Action)
  /-- An action that answers with an outcome. -/
  | outcomeAnswer
  /-- An action that answers with the response of an entry. -/
  | responseAnswer (out : Option String)
  /-- An action that has created a threadsafe function. -/
  | createdAnswer (name : String) (keep : Bool)
  /-- An entry that returns the status of an outcome. -/
  | outcomeResponse
  /-- An entry that has created a threadsafe function. -/
  | createdResponse
  /-- A creation, after the reference was asked for. -/
  | referenced (env : Word) (spec : FunctionSpec) (delivery : Delivery)
      (invoker : Option InvokerId)
  /-- A call that waits for its task. -/
  | called (i : InvokerId)
  /-- A synchronous task that ran on the invoker's own thread. -/
  | ranInline (i : InvokerId)
  /-- A delivery, after the function behind the reference was asked for. -/
  | gotFunction (f : HandleId) (data : Word)
  /-- A delivery, after the receiver was asked for. -/
  | gotReceiver (f : HandleId) (func : Word)
  /-- A delivery, after the function was called. -/
  | gotResult (f : HandleId)
  /-- A dispatch task, after its delivery; whether the queue was empty when the item was taken. -/
  | drained (f : HandleId) (wasEmpty : Bool)
  /-- A teardown, after the finalizer. -/
  | finalized (f : HandleId)
  /-- A teardown, after the reference was deleted. -/
  | unreferenced (f : HandleId)
  /-- A multiplexer's finalizer, after the one inside it. -/
  | unwrapped (handle : HandleId)
  /-- A job, after its execute step. -/
  | executed (job : HandleId) (env : Word)
  /-- A job, after its complete step. -/
  | completed (job : HandleId)
  /-- A task taken off a queue. -/
  | taskEnded (i : InvokerId) (sub : Submission)
  /-- A pump, after a task. -/
  | pumped (i : InvokerId) (goal : PumpGoal)
  /-- The loop of an interpreter thread, after a task. -/
  | looped (i : InvokerId)
  /-- An embedder that waits for its task. -/
  | submitted (i : InvokerId)
  /-- An embedder that runs a task that was handed back. -/
  | ranRejected (i : InvokerId)
  /-- A spawned thread, at its end. -/
  | spawned (number : Nat)
  /-- An embedder that waits for an interpreter thread to end. -/
  | joined (i : InvokerId)
  /-- An engine's entry, after its script. -/
  | engineScripted (slot : Nat) (r : Request)
  /-- A forwarded call, which keeps its host alive. -/
  | forwarded (host : HostId)
  /-- A forwarded creation of the threadsafe function reserved under an id. -/
  | forwardedCreate (host : HostId) (id : HandleId)
  /-- A forwarded registration of a cleanup hook through an env. -/
  | forwardedHook (host : HostId) (env : Word) (out : Bool)
  /-- A forwarded removal of a cleanup hook. -/
  | forwardedUnhook (host : HostId) (handle : Word)
  deriving Inhabited

/-- The control of a thread. -/
inductive Control where
  | run (c : Code)
  | give (r : Reply)
  /-- A task failed: unwind to whoever runs tasks. -/
  | fail
  deriving Inhabited

/-- A thread: its control, and the frames that wait, innermost first. -/
structure Thread where
  control : Control
  stack : List Frame := []
  deriving Inhabited

/-- Whether a thread is between two operations: it has ended, waits, is about to begin an action or
a task, or is inside a callback.  An engine that has nothing to do is no such callback: its call is
a part of the operation that makes it. -/
def Thread.atRest (th : Thread) : Bool :=
  match th.control, th.stack with
  | .give _, [] => true
  | .run (.script _ []), .engineScripted .. :: _ => false
  | .run (.perform _), _ | .run (.script ..), _ | .run (.loop _), _ | .run (.pump ..), _
  | .run (.awaitSpace ..), _ | .run (.awaitTask ..), _ | .run (.awaitOccupied _), _
  | .run (.occupied _), _ | .run (.awaitEnd ..), _ => true
  | .run (.call ..), [.spawned _] | .run (.submit ..), [.spawned _] => true
  | _, _ => false

end AddonHost
