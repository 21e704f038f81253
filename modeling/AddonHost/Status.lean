/-!
Status codes returned by the entry points of a host.

The codes are numbered 0 to 23; `Status.code` and `Status.ofCode?` are inverse
(`Status.ofCode?_code`).  Each status has a name and a sentence, and the sentence is what appears
in diagnostics.
-/

namespace AddonHost

/-- The result code of an entry point. -/
inductive Status where
  | ok
  | invalidArg
  | objectExpected
  | stringExpected
  | nameExpected
  | functionExpected
  | numberExpected
  | booleanExpected
  | arrayExpected
  | genericFailure
  | pendingException
  | cancelled
  | escapeCalledTwice
  | handleScopeMismatch
  | callbackScopeMismatch
  | queueFull
  | closing
  | bigintExpected
  | dateExpected
  | arraybufferExpected
  | detachableArraybufferExpected
  | wouldDeadlock
  | noExternalBuffersAllowed
  | cannotRunJs
  deriving DecidableEq, Repr, Inhabited

namespace Status

/-- Every status, in the order of the codes. -/
def all : List Status :=
  [ok, invalidArg, objectExpected, stringExpected, nameExpected, functionExpected, numberExpected,
    booleanExpected, arrayExpected, genericFailure, pendingException, cancelled, escapeCalledTwice,
    handleScopeMismatch, callbackScopeMismatch, queueFull, closing, bigintExpected, dateExpected,
    arraybufferExpected, detachableArraybufferExpected, wouldDeadlock, noExternalBuffersAllowed,
    cannotRunJs]

/-- The number of a status. -/
def code : Status → Nat
  | ok => 0
  | invalidArg => 1
  | objectExpected => 2
  | stringExpected => 3
  | nameExpected => 4
  | functionExpected => 5
  | numberExpected => 6
  | booleanExpected => 7
  | arrayExpected => 8
  | genericFailure => 9
  | pendingException => 10
  | cancelled => 11
  | escapeCalledTwice => 12
  | handleScopeMismatch => 13
  | callbackScopeMismatch => 14
  | queueFull => 15
  | closing => 16
  | bigintExpected => 17
  | dateExpected => 18
  | arraybufferExpected => 19
  | detachableArraybufferExpected => 20
  | wouldDeadlock => 21
  | noExternalBuffersAllowed => 22
  | cannotRunJs => 23

/-- The status with a given number, if there is one. -/
def ofCode? (n : Nat) : Option Status := all[n]?

/-- The name of a status. -/
def name : Status → String
  | ok => "Ok"
  | invalidArg => "InvalidArg"
  | objectExpected => "ObjectExpected"
  | stringExpected => "StringExpected"
  | nameExpected => "NameExpected"
  | functionExpected => "FunctionExpected"
  | numberExpected => "NumberExpected"
  | booleanExpected => "BooleanExpected"
  | arrayExpected => "ArrayExpected"
  | genericFailure => "GenericFailure"
  | pendingException => "PendingException"
  | cancelled => "Cancelled"
  | escapeCalledTwice => "EscapeCalledTwice"
  | handleScopeMismatch => "HandleScopeMismatch"
  | callbackScopeMismatch => "CallbackScopeMismatch"
  | queueFull => "QueueFull"
  | closing => "Closing"
  | bigintExpected => "BigintExpected"
  | dateExpected => "DateExpected"
  | arraybufferExpected => "ArraybufferExpected"
  | detachableArraybufferExpected => "DetachableArraybufferExpected"
  | wouldDeadlock => "WouldDeadlock"
  | noExternalBuffersAllowed => "NoExternalBuffersAllowed"
  | cannotRunJs => "CannotRunJs"

/-- What a status means, as diagnostics say it. -/
def text : Status → String
  | ok => "ok"
  | invalidArg => "Invalid argument"
  | objectExpected => "An object was expected"
  | stringExpected => "A string was expected"
  | nameExpected => "A string or symbol was expected"
  | functionExpected => "A function was expected"
  | numberExpected => "A number was expected"
  | booleanExpected => "A boolean was expected"
  | arrayExpected => "An array was expected"
  | genericFailure => "Unknown failure"
  | pendingException => "An exception is pending"
  | cancelled => "The async work item was cancelled"
  | escapeCalledTwice => "napi_escape_handle already called on scope"
  | handleScopeMismatch => "Invalid handle scope usage"
  | callbackScopeMismatch => "Invalid callback scope usage"
  | queueFull => "Thread-safe function queue is full"
  | closing => "Thread-safe function handle is closing"
  | bigintExpected => "A bigint was expected"
  | dateExpected => "A date was expected"
  | arraybufferExpected => "An arraybuffer was expected"
  | detachableArraybufferExpected => "A detachable arraybuffer was expected"
  | wouldDeadlock => "Main thread would deadlock"
  | noExternalBuffersAllowed => "External buffers are not allowed"
  | cannotRunJs => "Cannot run JavaScript"

/-- Only the first status is a success. -/
def isOk : Status → Bool
  | ok => true
  | _ => false

@[simp] theorem isOk_iff (s : Status) : s.isOk = true ↔ s = ok := by
  cases s <;> simp [isOk]

theorem ofCode?_code (s : Status) : ofCode? s.code = some s := by
  cases s <;> rfl

end Status

end AddonHost
