import AddonHost.Fatal
import AddonHost.AsyncJob
import AddonHost.Invoker.Config
import AddonHost.Table.HostTable
import AddonHost.ThreadsafeFunction

/-!
What an embedder or an addon can do.

An `Action` is one operation of the program around the host: the embedder sets up invokers, hosts
and multiplexers and pumps, the addon creates and calls threadsafe functions and async work, from
the main thread, from producer threads, and from inside its own callbacks.  What a callback does is
a list of actions, so the nested actions of a task (`submit`) and of a callback (`script`) are part
of the type.

Actions name what they use.  A `Ref` is a word, or the name of a variable that an earlier action
has set.  A word may be given in writing, and the same text may be the name of something.
-/

namespace AddonHost

/-- A word, or the name of a variable that holds one. -/
inductive Ref where
  | word (w : Word)
  /-- A word in writing. -/
  | written (text : String) (w : Word)
  | named (name : String)
  deriving DecidableEq, Repr, Inhabited

/-- What an embedder asks about values alone. -/
inductive Query where
  | status (s : Status)
  | hostError (e : HostError)
  | outcomeStatus (r : Outcome)
  | modes (n : Int)
  | jobState (s : JobState)
  | level (l : Log.Level)
  | levelOf (text : String)
  | standardLevel
  | config (c : RuntimeConfig)
  | configCheck (c : RuntimeConfig)
  | invokerConfig (c : InvokerConfig)
  | handle (id other : HandleId)
  | pointer (a b : Word)
  | fatalLine (location message : String)
  | text (t : RawText)
  deriving Inhabited

/-- What stands behind an invoker. -/
inductive InvokerSpec where
  /-- A queue that its owner pumps; `takes` tells by their number which submissions are taken, and
  the others are handed back. -/
  | manual (takes : Nat → Bool)
  /-- A thread of its own. -/
  | thread (config : InvokerConfig)
  deriving Inhabited

namespace InvokerSpec

/-- A queue that takes every submission. -/
def unlimited : InvokerSpec := manual fun _ => true

/-- A queue that takes so many submissions and hands every later one back. -/
def limited (limit : Nat) : InvokerSpec := manual fun n => n < limit

end InvokerSpec

/-- How long a pump goes on. -/
inductive PumpGoal where
  /-- One task. -/
  | one
  /-- Until nothing is queued; the number of tasks run so far. -/
  | drained (ran : Nat)
  /-- Until nothing is queued, asking then whether so many tasks have been run in all. -/
  | executed (n : Nat)
  /-- Until nothing is queued, so many times. -/
  | polls (n : Nat)
  deriving DecidableEq, Repr, Inhabited

/-- What becomes of a task that an invoker hands back. -/
inductive Rejected where
  | dropped
  | run
  deriving DecidableEq, Repr, Inhabited

/-- How a call of an entry is put together, with the arguments of all entries by name. -/
structure EntryArgs where
  env : Ref := .word 0
  func : Ref := .word 0
  recv : Ref := .word 0
  argc : Ref := .word 0
  value : Ref := .word 0
  count : Ref := .word 0
  reference : Ref := .word 0
  handle : Ref := .word 0
  work : Ref := .word 0
  resource : Ref := .word 0
  resourceName : Ref := .word 0
  data : Ref := .word 0
  max : Ref := .word 0
  threads : Ref := .word 0
  context : Ref := .word 0
  moduleHandle : Ref := .word 0
  mode : Int := 0
  hook : Bool := false
  execute : Bool := false
  complete : Bool := false
  finalize : Bool := false
  callJs : Bool := false
  /-- The variable behind the out-pointer, if one is passed. -/
  out : Option String := none
  location : RawText := .null
  message : RawText := .null
  deriving Inhabited

/-- How a threadsafe function is created. -/
structure FunctionArgs where
  name : String
  env : Ref := .word 0
  func : Ref := .word 0
  context : Ref := .word 0
  max : Word := 0
  threads : Word := 1
  callJs : Bool := false
  /-- The data of the finalizer, if there is one. -/
  finalize : Option Ref := none
  delivery : Option Delivery := none
  /-- The invoker; without a name, the one bound to the env. -/
  invoker : Option String := none
  /-- Whether the creator keeps a reference to the function. -/
  keep : Bool := true
  deriving Inhabited

/-- How an engine's entry behaves besides returning a status. -/
inductive EngineMode where
  | normal
  /-- The value that is handed out is null. -/
  | null
  /-- The finalizer of a new function runs before its creation returns. -/
  | finalize
  /-- A released function is kept. -/
  | keep
  deriving DecidableEq, Repr, Inhabited

/-- A callback, as far as it tells which actions to perform. -/
inductive ScriptKey where
  | callJs (data : Word)
  | finalize (data : Word)
  | execute (data : Word)
  | complete (data : Word)
  | engine (slot : Nat) (entry : Entry)
  deriving DecidableEq, Repr, Inhabited

/-- A callback that is to perform actions, with its data as a `Ref`. -/
inductive ScriptTarget where
  | callJs (data : Ref)
  | finalize (data : Ref)
  | execute (data : Ref)
  | complete (data : Ref)
  | engine (slot : Nat) (entry : Entry)
  deriving Repr, Inhabited

/-- Why an action is refused before it touches the host. -/
inductive Refusal where
  | gone
  | unknownInvoker
  | notPumped
  | notAThread
  | producersBlocked
  | wouldBlock
  | unknownTable
  | unknownEntry
  | unknownMultiplexerOrHost
  | unknownRegistry
  | unknownIdSource
  | unknownLevel
  | forwardsToItself
  | unknownAction
  deriving DecidableEq, Repr, Inhabited

/-- What a refusal says. -/
def Refusal.message : Refusal → String
  | gone => "gone"
  | unknownInvoker => "unknown invoker"
  | notPumped => "not pumped"
  | notAThread => "not a thread"
  | producersBlocked => "producers blocked"
  | wouldBlock => "would block"
  | unknownTable => "unknown table"
  | unknownEntry => "unknown entry"
  | unknownMultiplexerOrHost => "unknown multi or host"
  | unknownRegistry => "unknown registry"
  | unknownIdSource => "unknown allocator"
  | unknownLevel => "unknown level"
  | forwardsToItself => "forwards to itself"
  | unknownAction => "unknown op"

/-- Something that an embedder or an addon does. -/
inductive Action where
  | query (q : Query)
  -- invokers and envs
  | createInvoker (name : String) (spec : InvokerSpec)
  | dropInvoker (name : String)
  | bind (env : Ref) (invoker : String)
  | attach (env : Ref) (invoker : String)
  | unbind (env : Ref)
  | detach (env : Ref)
  | bound (env : Ref)
  | submit (invoker : String) (sync : Bool) (script : List Action) (rejected : Rejected)
  | spawnSubmit (name invoker : String) (script : List Action)
  | pump (invoker : String) (goal : PumpGoal)
  | hold (invoker : String)
  | unhold (invoker : String)
  | requestShutdown (invoker : String)
  | shutdown (invoker : String)
  | whereAmI (invoker : String)
  | describeInvoker (invoker : String)
  /-- Leave the task that is being run by an unwinding failure. -/
  | fail
  -- threadsafe functions
  | createFunction (args : FunctionArgs)
  | call (func data : Ref) (mode : CallMode)
  | spawnCall (name : String) (func data : Ref) (mode : CallMode)
  | acquire (func : Ref)
  | release (func : Ref) (mode : ReleaseMode)
  | setReferenced (func : Ref) (on : Bool)
  | functionContext (func : Ref)
  | describeFunction (func : Ref)
  | functionState (func : Ref)
  | forgetFunction (func : Ref)
  -- async work
  | createJob (name : String) (env data : Ref) (keep : Bool)
  | queueJob (job env : Ref) (direct : Bool)
  | cancelJob (job : Ref) (direct : Bool)
  | deleteJob (job : Ref)
  | describeJob (job : Ref)
  -- callbacks
  | script (target : ScriptTarget) (actions : List Action)
  -- host tables
  | createHost (name : String) (slot : Nat) (entries : List Entry) (overlays : List String)
  | dropHost (name : String)
  | describeTable (table : String)
  | install (table : String)
  | countEntries
  | inject (table : Option String)
  | setEngine (slot : Nat) (entry : Entry) (status : Status) (mode : EngineMode)
  | createMultiplexer (name : String) (register fatal : Bool)
  | dropMultiplexer (name : String)
  | wrap (multiplexer host : String) (env : Ref) (out : String)
  | describeMultiplexer (name : String)
  | countLive
  | fatal (location message : String)
  | entry (table : String) (entry : Entry) (args : EntryArgs)
  -- registries and ids
  | createRegistry (name : String)
  | registryInsert (registry value : String) (out : String) (withId : Bool)
  | registryGet (registry : String) (id : Ref)
  | registryRemove (registry : String) (id : Ref)
  | registryContains (registry : String) (id : Ref)
  | describeRegistry (registry : String)
  | nextId
  | createIdSource (name : String)
  | takeIds (name : String) (count : Nat)
  -- logging and configuration
  | log (level : Log.Level) (message : String)
  | initLog
  | setLogLevel (level : Log.Level)
  | setFlush (on : Bool)
  | dropSink
  | flushState
  | logState
  | configure (config : RuntimeConfig)
  | readConfig
  /-- An action of the given name that is refused in every state. -/
  | refused (name : String) (reason : Refusal)
  deriving Inhabited

end AddonHost
