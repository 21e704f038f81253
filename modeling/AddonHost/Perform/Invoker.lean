import AddonHost.Machine.Invoker
import AddonHost.Perform.Basic

/-!
Performing actions on invokers and on the bindings of envs.

An action is answered at once, or carried on by a piece of code with a frame that makes its answer.
-/

namespace AddonHost

namespace Session

/-- Give an invoker a name; the invoker that had it is let go. -/
def nameInvoker (s : Session) (name : String) (i : InvokerId) : Move :=
  let old := s.names.invokers.get? name
  let s := { s with names := { s.names with invokers := s.names.invokers.insert name i } }
  match old with
  | none => s.reply .done
  | some j => s.run (.letGo j (.answer .done))

/-- Create an invoker. -/
def createInvoker (s : Session) (t : ThreadId) (name : String) (spec : InvokerSpec) : Move :=
  let i := s.invokers.length
  match spec with
  | .manual takes =>
    let inv : Invoker := { core := .manual { owner := t, takes := takes } }
    { s with invokers := s.invokers.insert i inv }.nameInvoker name i
  | .thread config =>
    match config.check, config.spawnCheck with
    | .error p, _ => s.reply (.invokerProblem p)
    | .ok (), .error p => s.reply (.spawnProblem p)
    | .ok (), .ok () =>
      let inv : Invoker := { core := .thread { name := config.threadName } }
      let s := { s with invokers := s.invokers.insert i inv }
      let s := s.setThread (.interpreter i) { control := .run (.loop i) }
      (s.log .debug ("interpreter thread '" ++ config.threadName ++ "' started")).nameInvoker
        name i

/-- Let go of an invoker by its name; an occupied thread is told to stop first. -/
def dropInvoker (s : Session) (name : String) : Move :=
  match s.findInvoker? name with
  | none => s.reply (.flag false)
  | some (i, inv) =>
    let s := { s with names := { s.names with invokers := s.names.invokers.erase name } }
    let s := match inv.core with
      | .manual _ => s
      | .thread _ =>
        if s.occupations.contains i then (s.requestShutdown i).releaseOccupation i else s
    s.run (.letGo i (.answer (.flag true)))

/-- Bind an invoker to an env. -/
def bind (s : Session) (env : Ref) (invoker : String) : Move :=
  s.withInvoker invoker fun i _ =>
    let e := s.value env
    ({ s with bindings := s.bindings.insert e i }.log .debug
      ("call invoker bound to env " ++ Word.pointer e)).reply .done

/-- Remove the binding of an env. -/
def unbind (s : Session) (env : Ref) : Move :=
  let e := s.value env
  { s with bindings := s.bindings.erase e }.reply (.flag (s.bindings.contains e))

/-- A thread of a producer that is about to run a piece of code. -/
def startProducer (s : Session) (name : String) (c : Code) : Move :=
  let n := s.producers.length
  let s := { s with producers := s.producers ++ [Producer.mk name none] }
  (s.setThread (.spawned n) { control := .run c, stack := [.spawned n] }).reply .done

/-- Pump an invoker by its name. -/
def pumpNamed (s : Session) (name : String) (goal : PumpGoal) : Move :=
  s.withInvoker name fun i inv =>
    match inv.core with
    | .thread _ => s.refuse .notPumped
    | .manual _ =>
      if goal ≠ .one && s.producersInside then s.refuse .producersBlocked
      else (s.keepInvoker i).run (.pump i goal)

/-- Occupy an interpreter thread; nothing else can be occupied. -/
def holdThread (s : Session) (t : ThreadId) (name : String) : Move :=
  match s.findThread? name with
  | none => s.reply (.flag false)
  | some (i, _) =>
    match s.offer t i false .occupy with
    | (.accepted, s) =>
      { s with occupations := s.occupations.insert i .requested }.run (.awaitOccupied i)
    | (_, s) => s.reply (.flag false)

/-- Let an occupied interpreter thread go; nothing else is occupied. -/
def unholdThread (s : Session) (name : String) : Move :=
  match s.findThread? name with
  | none => s.reply (.flag false)
  | some (i, _) =>
    (s.releaseOccupation i).reply (.flag (s.occupations.get? i == some .occupied))

/-- Stop an interpreter thread and wait for it. -/
def shutdownThread (s : Session) (t : ThreadId) (name : String) : Move :=
  s.withThread name fun i r =>
    let s := (s.requestShutdown i).releaseOccupation i
    if t = .interpreter i || r.joined then s.reply .nothing
    else
      (s.modifyInterpreter i fun r => { r with joined := true }).run (.awaitEnd i .unit)
        [.joined i]

/-- The name of a thread; producers have none. -/
def threadName? (s : Session) (t : ThreadId) : Option String :=
  match t with
  | .main => some "main"
  | .spawned _ => none
  | .interpreter i =>
    match (s.invokers.get? i).map Invoker.core with
    | some (.thread r) => some r.name
    | _ => none

/-- The description of an invoker that its owner pumps. -/
def describeInvoker (s : Session) (name : String) : Move :=
  match s.findInvoker? name with
  | some (_, { core := .manual m, .. }) => s.reply (.text m.debugText)
  | _ => s.refuse .notPumped

end Session

end AddonHost
