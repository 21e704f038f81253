import AddonHost.Invoker.Config
import AddonHost.Stress.State
import AddonHost.Text.Count

/-!
The report of the stress run.

The plan comes from up to three arguments: producers, items for each, and the bound of the queue.
An argument that is no count means its default.  The report gives the lines of a run and how it
exits.  A total that does not fit a word ends the run before the plan is told, and a plan with more
producers than the system has room for ends it before the first result (`Plan.failure?`).
-/

namespace AddonHost.Stress

/-- How a run exits. -/
inductive Exit where
  | code (n : Nat)
  /-- The system ends the run, which has no exit code. -/
  | aborted
  deriving DecidableEq, Repr, Inhabited

/-- The exit code, if there is one. -/
def Exit.code? : Exit → Option Nat
  | code n => some n
  | aborted => none

/-- What a run prints, and how it exits. -/
structure Report where
  lines : List String
  exit : Exit
  deriving DecidableEq, Repr, Inhabited

/-- The plan that arguments ask for. -/
def planOf (args : List String) : Plan :=
  let argument (n default : Nat) : Nat := ((args[n]?).bind Text.count?).getD default
  { producers := max 1 (argument 0 8)
    items := argument 1 100000
    maxQueue := (argument 2 1024).toUInt64 }

/-- The first line. -/
def banner : String := "=== Threadsafe Function Stress Test ==="

/-- The lines that tell the plan. -/
def planLines (plan : Plan) : List String :=
  let queue := if plan.maxQueue = 0 then "unbounded" else plan.maxQueue.decimal
  [ "Producers: " ++ Nat.repr plan.producers,
    "Items:     " ++ Nat.repr plan.items ++ " per producer",
    "Queue:     " ++ queue ]

/-- Whether everything arrived, in order, and the finalizer ran once. -/
def State.succeeded (s : State) (total : Nat) : Bool :=
  s.delivered == total && s.failedCalls == 0 && s.outOfOrder == 0 && s.finalizerRuns == 1

/-- The lines that tell the results; the last task is the barrier behind which all is done. -/
def resultLines (s : State) (total : Nat) : List String :=
  [ "=== Results ===",
    "Total items:     " ++ Nat.repr total,
    "Delivered:       " ++ Nat.repr s.delivered,
    "Failed calls:    " ++ Nat.repr s.failedCalls,
    "Out of order:    " ++ Nat.repr s.outOfOrder,
    "Finalizer runs:  " ++ Nat.repr s.finalizerRuns,
    "Tasks run:       " ++ Nat.repr (s.tasksRun + 1),
    "=== Stress Test " ++ (if s.succeeded total then "Complete" else "FAILED") ++ " ===" ]

/-- The exit of a run that fails inside. -/
def failed : Exit := .code 101

/-- The most producers that the system starts; the tag of an item has no room for more. -/
def mostProducers : Nat := 0x1000000

/-- How a plan fails for the number of its producers, if it does.  The sink keeps a word for each,
and a size of more than half of all words cannot be asked for; the run keeps three words for each
thread that it starts, and what the memory cannot grant ends the process. -/
def Plan.failure? (plan : Plan) : Option Exit :=
  if UInt64.size / 2 ≤ 8 * plan.producers then some failed
  else if InvokerConfig.systemMemory.toNat ≤ 24 * plan.producers then some .aborted
  else if mostProducers < plan.producers then some failed
  else none

/-- Run what arguments ask for. -/
def report (args : List String) : Report :=
  let plan := planOf args
  let total := plan.producers * plan.items
  if UInt64.size ≤ total then { lines := [banner], exit := failed }
  else
    match plan.failure? with
    | some exit => { lines := banner :: planLines plan, exit := exit }
    | none =>
      let s := State.run plan
      { lines := banner :: planLines plan ++ resultLines s total
        exit := .code (if s.succeeded total then 0 else 1) }

end AddonHost.Stress
