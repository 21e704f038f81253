/-!
Threads of a process.

The main thread, one interpreter thread for each invoker that has one, and the threads that were
spawned to produce.
-/

namespace AddonHost

/-- A call invoker, by its number in the order of creation. -/
abbrev InvokerId := Nat

/-- A host table that is kept alive by those who hold it, by its number in the order of creation. -/
abbrev HostId := Nat

/-- A thread of the process. -/
inductive ThreadId where
  | main
  | interpreter (invoker : InvokerId)
  | spawned (number : Nat)
  deriving DecidableEq, Repr, Inhabited

end AddonHost
