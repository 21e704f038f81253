import AddonHost.Text.Duration
import AddonHost.Text.Quoted
import AddonHost.Word

/-!
Configuration of an interpreter thread.
-/

namespace AddonHost

/-- How an interpreter thread is set up. -/
structure InvokerConfig where
  threadName : String := "napi-js"
  stackSize : Option Word := none
  /-- How long the idle thread parks, in nanoseconds. -/
  parkNanos : Nat := 10000000
  deriving DecidableEq, Repr, Inhabited

namespace InvokerConfig

/-- Why an interpreter thread cannot be set up. -/
inductive Problem where
  | emptyName
  | nulInName
  | smallStack
  | zeroPark
  deriving DecidableEq, Repr

/-- What a problem says. -/
def Problem.message : Problem → String
  | emptyName => "thread_name must not be empty"
  | nulInName => "thread_name must not contain NUL"
  | smallStack => "stack_size must be at least 64KiB"
  | zeroPark => "park_timeout must be non-zero"

/-- The smallest stack that is accepted. -/
def leastStack : Word := 65536

/-- The first thing that is wrong with a configuration, if anything is. -/
def check (c : InvokerConfig) : Except Problem Unit :=
  if c.threadName.isEmpty then .error .emptyName
  else if c.threadName.toList.any (·.toNat = 0) then .error .nulInName
  else if c.stackSize.any (· < leastStack) then .error .smallStack
  else if c.parkNanos = 0 then .error .zeroPark
  else .ok ()

/-- Why the system does not start a thread with a configuration that is sound. -/
inductive SpawnProblem where
  /-- The stack is larger than the memory. -/
  | noRoom
  /-- The stack and the page that guards it do not fit a word. -/
  | unboundedStack
  deriving DecidableEq, Repr

/-- What the system calls the kind of a problem. -/
def SpawnProblem.kind : SpawnProblem → String
  | noRoom => "WouldBlock"
  | unboundedStack => "InvalidInput"

/-- What a problem says. -/
def SpawnProblem.message : SpawnProblem → String
  | noRoom => "Resource temporarily unavailable (os error 11)"
  | unboundedStack => "Invalid argument (os error 22)"

/-- The memory of the system, in bytes. -/
def systemMemory : Word := 0x800000000

/-- The size of the page that guards a stack. -/
def guardPage : Word := 0x1000

/-- What keeps the system from starting a thread, if anything does. -/
def spawnCheck (c : InvokerConfig) : Except SpawnProblem Unit :=
  match c.stackSize with
  | none => .ok ()
  | some size =>
    if size < systemMemory then .ok ()
    else if size + guardPage < guardPage then .error .unboundedStack
    else .error .noRoom

/-- The description of a configuration. -/
def debugText (c : InvokerConfig) : String :=
  let stack := match c.stackSize with
    | none => "None"
    | some n => "Some(" ++ n.decimal ++ ")"
  "InvokerConfig \x7b thread_name: " ++ Text.quote c.threadName ++ ", stack_size: " ++ stack ++
    ", park_timeout: " ++ Text.durationText c.parkNanos ++ " \x7d"

end InvokerConfig

end AddonHost
