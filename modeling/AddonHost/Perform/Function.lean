import AddonHost.Machine.Entry
import AddonHost.Perform.Basic

/-!
Performing actions on threadsafe functions and async work, and setting up what callbacks perform.
-/

namespace AddonHost

namespace Session

/-- Create a threadsafe function by the library's own interface. -/
def createFunctionNamed (s : Session) (a : FunctionArgs) : Move :=
  let start (invoker : Option InvokerId) : Move :=
    let (config, s) := s.readConfig
    let spec : FunctionSpec :=
      { func := s.value a.func
        maxQueueSize := a.max
        threadCount := a.threads
        finalizer := a.finalize.map fun data => .extension (s.value data)
        context := s.value a.context
        callJs := a.callJs }
    s.run (.createFunction (s.value a.env) spec (a.delivery.getD config.delivery) invoker)
      [.createdAnswer a.name a.keep]
  match a.invoker with
  | none => start (s.bindings.get? (s.value a.env))
  | some name => s.withInvoker name fun i _ => start (some i)

/-- A function was created: name it, and keep a reference if asked to. -/
def nameFunction (s : Session) (name : String) (keep : Bool) (id : HandleId) : Move :=
  let s := s.setVariable name id.value
  let s :=
    if keep then { s with names := { s.names with functions := s.names.functions.insert name id } }
    else s
  s.reply (.word id.value)

/-- Create a job by the library's own interface. -/
def createJobNamed (s : Session) (name : String) (env data : Ref) (keep : Bool) : Move :=
  let (id, s) := s.createJob (s.value env) (s.value data)
  let s := s.setVariable name id.value
  let s :=
    if keep then { s with names := { s.names with jobs := s.names.jobs.insert name id } } else s
  s.reply (.word id.value)

/-- Act on the kept job if asked to and there is one, else on what the handle resolves to. -/
def onJob (s : Session) (job : Ref) (direct : Bool) (kept byId : HandleId → Outcome × Session) :
    Move :=
  match if direct then s.keptJob? job else none with
  | some j => answerOutcome (kept j)
  | none => answerOutcome (byId ⟨s.value job⟩)

/-- Add a script to those of a callback. -/
def addScript (s : Session) (target : ScriptTarget) (actions : List Action) : Move :=
  let key : ScriptKey := match target with
    | .callJs data => .callJs (s.value data)
    | .finalize data => .finalize (s.value data)
    | .execute data => .execute (s.value data)
    | .complete data => .complete (s.value data)
    | .engine slot entry => .engine slot entry
  let scripts := (s.scripts.get? key).getD [] ++ [actions]
  { s with scripts := s.scripts.insert key scripts }.reply .done

end Session

end AddonHost
