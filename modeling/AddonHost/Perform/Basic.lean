import AddonHost.Machine.Move
import AddonHost.Session.Lookup

/-!
What actions have in common.

An action looks up what it names and is refused if that is not there.
-/

namespace AddonHost

namespace Session

/-- Refuse an action. -/
def refuse (s : Session) (r : Refusal) : Move := s.reply (.refused r)

/-- Answer with an outcome. -/
def answerOutcome (p : Outcome × Session) : Move := p.2.reply (.outcome p.1)

/-- Do something with an invoker. -/
def withInvoker (s : Session) (name : String) (act : InvokerId → Invoker → Move) : Move :=
  match s.findInvoker? name with
  | none => s.refuse .unknownInvoker
  | some (i, inv) => act i inv

/-- Do something with an invoker that has a thread of its own. -/
def withThread (s : Session) (name : String) (act : InvokerId → InterpreterThread → Move) :
    Move :=
  match s.findThread? name with
  | none => s.refuse .notAThread
  | some (i, r) => act i r

/-- Do something with a threadsafe function. -/
def withFound (s : Session) (r : Ref) (act : HandleId → ThreadsafeFunction → Move) : Move :=
  match s.findFunction? r with
  | none => s.refuse .gone
  | some (f, fn) => act f fn

/-- Do something with a table. -/
def withTable (s : Session) (name : String) (act : HostTable → Move) : Move :=
  match s.findTable? name with
  | none => s.refuse .unknownTable
  | some t => act t

end Session

end AddonHost
