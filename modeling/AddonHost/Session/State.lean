import AddonHost.Engine
import AddonHost.Machine.Code
import AddonHost.Multiplexer

/-!
Sessions.

A `Session` is the state of a host in use: the registries, the bindings of envs to invokers, the
injected table, the logger and the configuration, the invokers, hosts and engines around the host,
the names that the embedder has given, the scripts of callbacks, and the threads.  The journal
holds what happened, latest first.
-/

namespace AddonHost

/-- A host table with the number of those who keep it alive. -/
structure Host where
  holders : Nat := 1
  table : HostTable
  deriving Inhabited

/-- A multiplexer: its table, and the envs that it has wrapped. -/
structure MultiplexerHandle where
  table : HostTable
  envs : List HandleId := []
  deriving Inhabited

/-- The description of a multiplexer. -/
def MultiplexerHandle.debugText (m : MultiplexerHandle) : String :=
  "MultiHost \x7b envs: " ++ Nat.repr m.envs.length ++ " \x7d"

/-- The names that the embedder has given. -/
structure Names where
  values : Assoc String Word := []
  /-- References to threadsafe functions that are kept. -/
  functions : Assoc String HandleId := []
  /-- References to jobs that are kept. -/
  jobs : Assoc String HandleId := []
  invokers : Assoc String InvokerId := []
  hosts : Assoc String HostId := []
  multiplexers : Assoc String MultiplexerHandle := []
  registries : Assoc String (Registry String) := []
  /-- Objects that insertions into registries have handed out. -/
  stored : Assoc String HandleId := []
  idSources : Assoc String IdSource := []
  deriving Inhabited

/-- How far the occupation of an interpreter thread has come. -/
inductive Occupation where
  | requested
  | occupied
  | released
  deriving DecidableEq, Repr, Inhabited

/-- A spawned producer, and what it returned. -/
structure Producer where
  name : String
  result : Option Answer := none
  deriving Inhabited

/-- The state of a host in use. -/
structure Session where
  /-- The environment variables. -/
  environment : Log.Variables := []
  logger : Log.Logger := {}
  config : Option RuntimeConfig := none
  ids : IdSource := {}
  functions : Registry ThreadsafeFunction := {}
  jobs : Registry AsyncJob := {}
  /-- The invoker bound to each env. -/
  bindings : Assoc Word InvokerId := []
  injected : HostTable := {}
  wrapped : Wrapped := {}
  invokers : Assoc InvokerId Invoker := []
  hosts : Assoc HostId Host := []
  engines : Engines := {}
  names : Names := {}
  scripts : Assoc ScriptKey (List (List Action)) := []
  /-- How many completions were made, and which of them are signalled. -/
  completions : Nat := 0
  signalled : List Nat := []
  occupations : Assoc InvokerId Occupation := []
  producers : List Producer := []
  threads : Assoc ThreadId Thread := []
  /-- Lines on standard output and on standard error, latest first. -/
  written : List String := []
  complaints : List String := []
  /-- Whether the process was aborted. -/
  halted : Bool := false
  journal : List Event := []
  deriving Inhabited

namespace Session

/-- Add an event to the journal. -/
def emit (s : Session) (e : Event) : Session := { s with journal := e :: s.journal }

/-- Offer a record to the log. -/
def log (s : Session) (level : Log.Level) (text : String) : Session :=
  let logger := s.logger.afterRecord s.environment level
  let s := { s with logger := logger }
  if logger.passes level then
    let s := if logger.capturing then s.emit (.log level text) else s
    { s with written := Log.writtenLine level text :: s.written }
  else s

/-- Replace the logger. -/
def setLogger (s : Session) (g : Log.Logger) : Session := { s with logger := g }

/-- Write a line to standard error. -/
def complain (s : Session) (line : String) : Session :=
  { s with complaints := line :: s.complaints }

/-- Abort the process. -/
def halt (s : Session) : Session := { s with halted := true }

/-- A fresh handle id. -/
def freshId (s : Session) : HandleId × Session :=
  let (id, ids) := s.ids.take
  (id, { s with ids := ids })

/-- The configuration in force: the installed one, or from now on the one that the environment
gives. -/
def readConfig (s : Session) : RuntimeConfig × Session :=
  match s.config with
  | some c => (c, s)
  | none =>
    let c := RuntimeConfig.ofVariables s.environment
    (c, { s with config := some c })

/-- Install a configuration, once. -/
def configure (s : Session) (c : RuntimeConfig) : Except RuntimeConfig.Problem Session :=
  match c.check with
  | .error p => .error p
  | .ok () =>
    match s.config with
    | some _ => .error .alreadyConfigured
    | none =>
      .ok
        { s with
          config := some c
          logger := (s.logger.setLevel s.environment c.logLevel).setFlush s.environment c.flushLogs }

/-- The value of a reference; a variable that was never set is null. -/
def value (s : Session) : Ref → Word
  | .word w | .written _ w => w
  | .named name => (s.names.values.get? name).getD 0

/-- Set a variable. -/
def setVariable (s : Session) (name : String) (w : Word) : Session :=
  { s with names := { s.names with values := s.names.values.insert name w } }

/-- The script that a callback performs next; it is used up. -/
def fire (s : Session) (key : ScriptKey) : List Action × Session :=
  match s.scripts.get? key with
  | some (actions :: rest) => (actions, { s with scripts := s.scripts.insert key rest })
  | _ => ([], s)

/-- Change a threadsafe function. -/
def modifyFunction (s : Session) (f : HandleId) (g : ThreadsafeFunction → ThreadsafeFunction) :
    Session :=
  { s with functions := s.functions.modify f g }

/-- Change a job. -/
def modifyJob (s : Session) (j : HandleId) (g : AsyncJob → AsyncJob) : Session :=
  { s with jobs := s.jobs.modify j g }

/-- Change an invoker. -/
def modifyInvoker (s : Session) (i : InvokerId) (g : Invoker → Invoker) : Session :=
  { s with invokers := s.invokers.modify i g }

/-- Change a thread. -/
def setThread (s : Session) (t : ThreadId) (th : Thread) : Session :=
  { s with threads := s.threads.insert t th }

/-- Signal a completion. -/
def signal (s : Session) (completion : Option Nat) : Session :=
  match completion with
  | none => s
  | some c => { s with signalled := c :: s.signalled }

/-- The invoker with an id, if someone keeps it alive. -/
def liveInvoker? (s : Session) (i : Option InvokerId) : Option (InvokerId × Invoker) := do
  let id ← i
  let inv ← s.invokers.get? id
  if inv.holders = 0 then none else some (id, inv)

/-- The table of a host, if someone keeps it alive. -/
def liveHost? (s : Session) (h : HostId) : Option HostTable := do
  let host ← s.hosts.get? h
  if host.holders = 0 then none else some host.table

/-- Keep an invoker alive. -/
def keepInvoker (s : Session) (i : InvokerId) : Session :=
  s.modifyInvoker i fun inv => { inv with holders := inv.holders + 1 }

/-- Keep a host alive. -/
def keepHost (s : Session) (h : HostId) : Session :=
  { s with hosts := s.hosts.modify h fun host => { host with holders := host.holders + 1 } }

/-- Stop keeping a host alive. -/
def releaseHost (s : Session) (h : HostId) : Session :=
  { s with hosts := s.hosts.modify h fun host => { host with holders := host.holders - 1 } }

/-- The sizes of the registries. -/
def liveCounts (s : Session) : LiveCounts where
  functions := s.functions.size
  jobs := s.jobs.size
  envs := s.wrapped.envs.size
  wrappedFunctions := s.wrapped.functions.size
  wrappedHooks := s.wrapped.hooks.size

end Session

end AddonHost
