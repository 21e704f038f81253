import AddonHost.Handle
import AddonHost.Status
import AddonHost.Table.Entry

/-!
Calls of entry points.

A `Request` is a call of one of the 22 entries that return a status, with its arguments.  An
out-pointer is represented by whether it is passed (`out`); what the entry writes through it comes
back in the `Response` beside the status.  A callback is represented by whether it is given, except
for the finalizer of a threadsafe function, which a multiplexer replaces by its own
(`Finalizer.wrapped`).
-/

namespace AddonHost

/-- What runs when a threadsafe function is torn down. -/
inductive Finalizer where
  /-- The addon's callback, with the data given for it. -/
  | extension (data : Word)
  /-- A multiplexer's: it runs the finalizer given at creation, if any, and then forgets the
  wrapped handle. -/
  | wrapped (handle : HandleId) (inner : Option Finalizer)
  deriving Repr, Inhabited

/-- The data of the addon's callback inside a finalizer, if there is one. -/
def Finalizer.data? : Finalizer → Option Word
  | extension data => some data
  | wrapped _ none => none
  | wrapped _ (some inner) => inner.data?

@[simp] theorem Finalizer.data?_extension (data : Word) : (extension data).data? = some data := rfl

@[simp] theorem Finalizer.data?_wrapped_none (handle : HandleId) :
    (wrapped handle none).data? = none := rfl

@[simp] theorem Finalizer.data?_wrapped_some (handle : HandleId) (inner : Finalizer) :
    (wrapped handle (some inner)).data? = inner.data? := rfl

/-- The arguments from which a threadsafe function is created. -/
structure FunctionSpec where
  /-- The function to call for each item; null for none. -/
  func : Word := 0
  /-- The bound of the queue; zero for none. -/
  maxQueueSize : Word := 0
  threadCount : Word := 1
  finalizer : Option Finalizer := none
  context : Word := 0
  /-- Whether the addon delivers items itself. -/
  callJs : Bool := false
  deriving Repr, Inhabited

/-- A call of an entry that returns a status. -/
inductive Request where
  | createObject (env : Word) (out : Bool)
  | getUndefined (env : Word) (out : Bool)
  | getGlobal (env : Word) (out : Bool)
  | callFunction (env recv func argc : Word) (argv out : Bool)
  | createReference (env value : Word) (count : Word) (out : Bool)
  | deleteReference (env reference : Word)
  | getReferenceValue (env reference : Word) (out : Bool)
  | addEnvCleanupHook (env : Word) (hook : Bool) (arg : Word)
  | removeEnvCleanupHook (env : Word) (hook : Bool) (arg : Word)
  | addAsyncCleanupHook (env : Word) (hook : Bool) (arg : Word) (out : Bool)
  | removeAsyncCleanupHook (handle : Word)
  | createAsyncWork (env resource resourceName : Word) (execute complete : Bool) (data : Word)
      (out : Bool)
  | deleteAsyncWork (env work : Word)
  | queueAsyncWork (env work : Word)
  | cancelAsyncWork (env work : Word)
  | createThreadsafeFunction (env : Word) (spec : FunctionSpec) (out : Bool)
  | getThreadsafeFunctionContext (func : Word) (out : Bool)
  | callThreadsafeFunction (func data : Word) (mode : Int)
  | acquireThreadsafeFunction (func : Word)
  | releaseThreadsafeFunction (func : Word) (mode : Int)
  | refThreadsafeFunction (env func : Word)
  | unrefThreadsafeFunction (env func : Word)
  deriving Repr, Inhabited

/-- The status of a call, and what was written through its out-pointer, if anything was. -/
structure Response where
  status : Status
  out : Option Word := none
  deriving DecidableEq, Repr, Inhabited

namespace Request

/-- The entry that is called. -/
def entry : Request → Entry
  | createObject .. => .createObject
  | getUndefined .. => .getUndefined
  | getGlobal .. => .getGlobal
  | callFunction .. => .callFunction
  | createReference .. => .createReference
  | deleteReference .. => .deleteReference
  | getReferenceValue .. => .getReferenceValue
  | addEnvCleanupHook .. => .addEnvCleanupHook
  | removeEnvCleanupHook .. => .removeEnvCleanupHook
  | addAsyncCleanupHook .. => .addAsyncCleanupHook
  | removeAsyncCleanupHook .. => .removeAsyncCleanupHook
  | createAsyncWork .. => .createAsyncWork
  | deleteAsyncWork .. => .deleteAsyncWork
  | queueAsyncWork .. => .queueAsyncWork
  | cancelAsyncWork .. => .cancelAsyncWork
  | createThreadsafeFunction .. => .createThreadsafeFunction
  | getThreadsafeFunctionContext .. => .getThreadsafeFunctionContext
  | callThreadsafeFunction .. => .callThreadsafeFunction
  | acquireThreadsafeFunction .. => .acquireThreadsafeFunction
  | releaseThreadsafeFunction .. => .releaseThreadsafeFunction
  | refThreadsafeFunction .. => .refThreadsafeFunction
  | unrefThreadsafeFunction .. => .unrefThreadsafeFunction

/-- How a multiplexer finds the host of a call: by the env, by the threadsafe function, by both, or
by the handle of a cleanup hook. -/
inductive Route where
  | env (env : Word)
  | function (func : Word)
  | envAndFunction (env func : Word)
  | hook (handle : Word)
  deriving DecidableEq, Repr

/-- How a multiplexer finds the host of a call. -/
def route : Request → Route
  | createObject env _ | getUndefined env _ | getGlobal env _ | callFunction env ..
  | createReference env .. | deleteReference env _ | getReferenceValue env ..
  | addEnvCleanupHook env .. | removeEnvCleanupHook env .. | addAsyncCleanupHook env ..
  | createAsyncWork env .. | deleteAsyncWork env _ | queueAsyncWork env _ | cancelAsyncWork env _
  | createThreadsafeFunction env .. => .env env
  | getThreadsafeFunctionContext func _ | callThreadsafeFunction func ..
  | acquireThreadsafeFunction func | releaseThreadsafeFunction func _ => .function func
  | refThreadsafeFunction env func | unrefThreadsafeFunction env func => .envAndFunction env func
  | removeAsyncCleanupHook handle => .hook handle

/-- The same call with another env; a call without one stays as it is. -/
def withEnv (r : Request) (env : Word) : Request :=
  match r with
  | createObject _ out => createObject env out
  | getUndefined _ out => getUndefined env out
  | getGlobal _ out => getGlobal env out
  | callFunction _ recv func argc argv out => callFunction env recv func argc argv out
  | createReference _ value count out => createReference env value count out
  | deleteReference _ reference => deleteReference env reference
  | getReferenceValue _ reference out => getReferenceValue env reference out
  | addEnvCleanupHook _ hook arg => addEnvCleanupHook env hook arg
  | removeEnvCleanupHook _ hook arg => removeEnvCleanupHook env hook arg
  | addAsyncCleanupHook _ hook arg out => addAsyncCleanupHook env hook arg out
  | createAsyncWork _ resource resourceName execute complete data out =>
    createAsyncWork env resource resourceName execute complete data out
  | deleteAsyncWork _ work => deleteAsyncWork env work
  | queueAsyncWork _ work => queueAsyncWork env work
  | cancelAsyncWork _ work => cancelAsyncWork env work
  | createThreadsafeFunction _ spec out => createThreadsafeFunction env spec out
  | refThreadsafeFunction _ func => refThreadsafeFunction env func
  | unrefThreadsafeFunction _ func => unrefThreadsafeFunction env func
  | r => r

/-- The same call with another threadsafe function; a call without one stays as it is. -/
def withFunction (r : Request) (func : Word) : Request :=
  match r with
  | getThreadsafeFunctionContext _ out => getThreadsafeFunctionContext func out
  | callThreadsafeFunction _ data mode => callThreadsafeFunction func data mode
  | acquireThreadsafeFunction _ => acquireThreadsafeFunction func
  | releaseThreadsafeFunction _ mode => releaseThreadsafeFunction func mode
  | refThreadsafeFunction env _ => refThreadsafeFunction env func
  | unrefThreadsafeFunction env _ => unrefThreadsafeFunction env func
  | r => r

@[simp] theorem entry_withEnv (r : Request) (env : Word) : (r.withEnv env).entry = r.entry := by
  cases r <;> rfl

@[simp] theorem entry_withFunction (r : Request) (func : Word) :
    (r.withFunction func).entry = r.entry := by
  cases r <;> rfl

end Request

/-- How a producer calls a threadsafe function. -/
inductive CallMode where
  /-- Fail when the queue is full. -/
  | nonBlocking
  /-- Wait for space. -/
  | blocking
  deriving DecidableEq, Repr, Inhabited

namespace CallMode

/-- The mode of a raw number; other numbers mean none. -/
def ofRaw? (n : Int) : Option CallMode :=
  if n = 0 then some nonBlocking else if n = 1 then some blocking else none

/-- The raw number of a mode. -/
def raw : CallMode → Int
  | nonBlocking => 0
  | blocking => 1

/-- The name of a mode. -/
def name : CallMode → String
  | nonBlocking => "NonBlocking"
  | blocking => "Blocking"

theorem ofRaw?_raw (m : CallMode) : ofRaw? m.raw = some m := by
  cases m <;> rfl

end CallMode

/-- How a holder gives up a threadsafe function. -/
inductive ReleaseMode where
  /-- One holder less. -/
  | release
  /-- Close at once. -/
  | abort
  deriving DecidableEq, Repr, Inhabited

namespace ReleaseMode

/-- The mode of a raw number; other numbers mean none. -/
def ofRaw? (n : Int) : Option ReleaseMode :=
  if n = 0 then some release else if n = 1 then some abort else none

/-- The raw number of a mode. -/
def raw : ReleaseMode → Int
  | release => 0
  | abort => 1

/-- The name of a mode. -/
def name : ReleaseMode → String
  | release => "Release"
  | abort => "Abort"

theorem ofRaw?_raw (m : ReleaseMode) : ofRaw? m.raw = some m := by
  cases m <;> rfl

end ReleaseMode

end AddonHost
