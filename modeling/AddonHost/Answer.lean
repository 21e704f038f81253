import AddonHost.Action
import AddonHost.Registry

/-!
What an action answers.
-/

namespace AddonHost

/-- What can be seen of a threadsafe function. -/
structure FunctionState where
  threadCount : Word
  queueLength : Nat
  closing : Bool
  aborted : Bool
  finalizeScheduled : Bool
  referenced : Bool
  registered : Bool
  deriving DecidableEq, Repr, Inhabited

/-- What can be seen of a job. -/
structure JobView where
  state : JobState
  registered : Bool
  deriving DecidableEq, Repr, Inhabited

/-- What can be seen of an invoker. -/
inductive InvokerView where
  | manual (pending executed : Nat)
  | thread (pending : Nat) (shutdownRequested finished : Bool)
  deriving DecidableEq, Repr, Inhabited

/-- The sizes of the five registries of the host. -/
structure LiveCounts where
  functions : Nat
  jobs : Nat
  envs : Nat
  wrappedFunctions : Nat
  wrappedHooks : Nat
  deriving DecidableEq, Repr, Inhabited

/-- What a thread that has ended reports. -/
structure ThreadReport where
  tasksRun : Nat
  syncTasks : Nat
  dropped : Nat
  deriving DecidableEq, Repr, Inhabited

/-- What an action answers. -/
inductive Answer where
  | done
  | outcome (r : Outcome)
  | refused (r : Refusal)
  | configProblem (p : RuntimeConfig.Problem)
  | invokerProblem (p : InvokerConfig.Problem)
  | spawnProblem (p : InvokerConfig.SpawnProblem)
  | flag (b : Bool)
  | count (n : Nat)
  | word (w : Word)
  | text (s : String)
  | nothing
  /-- A task that was handed back. -/
  | handedBack
  /-- A task that failed inside. -/
  | failed
  /-- The response of an entry; the value behind the out-pointer, if one was passed. -/
  | response (status : Status) (out : Option Word)
  /-- The table lacks the entry. -/
  | noEntry
  | table (t : HostTable)
  | entryCount
  | bound (alive upgrades : Bool)
  /-- Whether this is the invoker's own thread, and the name of this thread. -/
  | place (own : Option Bool) (threadName : Option String)
  | report (r : ThreadReport)
  | functionState (v : FunctionState)
  | multiplexer (envs : Nat) (description : String)
  | live (l : LiveCounts)
  | registered (id : HandleId) (value : String)
  /-- An object of a registry, and whether it is one that an insertion handed out. -/
  | found (value : String) (same : Bool)
  | registry (size : Nat) (ids : List HandleId) (description : String)
  | ids (ids : List HandleId) (description : String)
  | logger (level : Log.Level) (flush : Bool) (enabled : List Log.Level)
  | config (c : RuntimeConfig)
  | query (q : Query)
  deriving Inhabited

end AddonHost
