import AddonHost.Session.State

/-!
Looking things up by the names that the embedder has given, and looking at them.
-/

namespace AddonHost

/-- The name under which a reference may be kept, if a `Ref` is given as a text. -/
def Ref.name? : Ref → Option String
  | .word _ => none
  | .written text _ => some text
  | .named name => some name

namespace Session

/-- The kept reference to a threadsafe function under a name. -/
def keptFunction? (s : Session) (r : Ref) : Option HandleId :=
  r.name?.bind s.names.functions.get?

/-- A threadsafe function: the kept reference, or else what the handle resolves to. -/
def findFunction? (s : Session) (r : Ref) : Option (HandleId × ThreadsafeFunction) :=
  match s.keptFunction? r with
  | some f => (s.functions.object? f).map (f, ·)
  | none => s.functions.entry? ⟨s.value r⟩

/-- The kept reference to a job under a name. -/
def keptJob? (s : Session) (r : Ref) : Option HandleId :=
  r.name?.bind s.names.jobs.get?

/-- A job: the kept reference, or else what the handle resolves to. -/
def findJob? (s : Session) (r : Ref) : Option (HandleId × AsyncJob) :=
  match s.keptJob? r with
  | some j => (s.jobs.object? j).map (j, ·)
  | none => s.jobs.entry? ⟨s.value r⟩

/-- An invoker by its name. -/
def findInvoker? (s : Session) (name : String) : Option (InvokerId × Invoker) := do
  let i ← s.names.invokers.get? name
  let inv ← s.invokers.get? i
  return (i, inv)

/-- An invoker with a thread of its own by its name. -/
def findThread? (s : Session) (name : String) : Option (InvokerId × InterpreterThread) := do
  let (i, inv) ← s.findInvoker? name
  match inv.core with
  | .manual _ => none
  | .thread r => some (i, r)

/-- A table by its name: the runtime's, the forwarders, the injected one, a multiplexer's or a
host's. -/
def findTable? (s : Session) (name : String) : Option HostTable :=
  if name = "abi" then some HostTable.runtime
  else if name = "weak" then some HostTable.forwarders
  else if name = "injected" then some s.injected
  else
    match s.names.multiplexers.get? name with
    | some m => some m.table
    | none => (s.names.hosts.get? name).bind s.hosts.get? |>.map Host.table

/-- What can be seen of a threadsafe function. -/
def viewFunction (s : Session) (f : HandleId) (fn : ThreadsafeFunction) : FunctionState where
  threadCount := fn.threadCount
  queueLength := fn.queue.length
  closing := fn.closing
  aborted := fn.aborted
  finalizeScheduled := fn.finalizeScheduled
  referenced := fn.referenced
  registered := s.functions.owns f

/-- What can be seen of a job. -/
def viewJob (s : Session) (j : HandleId) (job : AsyncJob) : JobView where
  state := job.state
  registered := s.jobs.owns j

/-- Whether some producer has not returned yet. -/
def producersInside (s : Session) : Bool := s.producers.any fun p => p.result.isNone

/-- Whether a blocking call through a handle would have to wait now. -/
def callWouldWait (s : Session) (f : HandleId) : Bool :=
  match s.functions.get? f with
  | none => false
  | some fn => fn.isFull && !fn.closing

end Session

end AddonHost
