import AddonHost.Machine.Step
import AddonHost.Text.Lines

/-!
Running a session.

`Session.settle` lets threads step until none can: the main thread first, then the interpreter
threads, then the producers, each in the order of creation; a thread that has begun an operation
finishes it before another steps.  `Session.play` performs actions on the main thread, one after
the other, and settles after each; a transcript tells what each of them answered, what it made of
the object that is watched with it, which producers returned meanwhile, and what happened.
-/

namespace AddonHost

namespace Session

/-- The threads in the order in which they are asked to step. -/
def precedence (s : Session) : List ThreadId :=
  .main :: ((List.range s.invokers.length).map ThreadId.interpreter ++
    (List.range s.producers.length).map ThreadId.spawned)

/-- Whether a thread is in the middle of an operation. -/
def isBusy (s : Session) (t : ThreadId) : Bool :=
  match s.threads.get? t with
  | none => false
  | some th => !th.atRest

/-- One step of the thread that is in the middle of an operation, if there is one, else of the first
thread that can take a step.  No two threads are in the middle of operations at once. -/
def next? (s : Session) : Option Session :=
  match s.precedence.filter s.isBusy with
  | [] => s.precedence.findSome? s.step
  | [t] => s.step t
  | _ => none

/-- At most `limit` steps, until no thread can take one. -/
def settle (s : Session) : (limit : Nat) → Session
  | 0 => s
  | limit + 1 =>
    match s.next? with
    | none => s
    | some s' => s'.settle limit

/-- More steps than an action takes. -/
def stepLimit : Nat := 100000000

/-- A session before its first action: an idle main thread, and the log level if one is set. -/
def start (vars : Log.Variables) (level : Option Log.Level) : Session :=
  let s : Session := { environment := vars }
  let s := match level with
    | none => s
    | some l => s.setLogger (s.logger.setLevel vars l)
  s.setThread .main { control := .give .unit }

/-- Begin an action on the main thread. -/
def beginAction (s : Session) (a : Action) : Session :=
  s.setThread .main { control := .run (.perform a) }

/-- Perform an action on the main thread and settle. -/
def performOnMain (s : Session) (a : Action) : Session := (s.beginAction a).settle stepLimit

/-- The answer of the main thread, if it has one. -/
def mainAnswer? (s : Session) : Option Answer :=
  match s.threads.get? .main with
  | some { control := .give (.answer a), stack := [] } => some a
  | _ => none

end Session

/-- An object that is looked at after an action. -/
inductive Subject where
  | function (r : Ref)
  | job (r : Ref)
  | invoker (name : String)
  deriving Repr

/-- An action, and the object that is looked at after it, if there is one. -/
structure Turn where
  action : Action
  watched : Option Subject := none
  deriving Inhabited

/-- What can be seen of an object. -/
inductive SubjectView where
  | function (v : FunctionState)
  | job (v : JobView)
  | invoker (v : InvokerView)
  | gone
  deriving DecidableEq, Repr, Inhabited

/-- What can be seen of an object. -/
def Session.viewSubject (s : Session) : Subject → SubjectView
  | .function r =>
    match s.findFunction? r with
    | none => .gone
    | some (f, fn) => .function (s.viewFunction f fn)
  | .job r =>
    match s.findJob? r with
    | none => .gone
    | some (j, job) => .job (s.viewJob j job)
  | .invoker name =>
    match s.findInvoker? name with
    | none => .gone
    | some (_, inv) => .invoker inv.view

/-- What an action has done. -/
structure StepRecord where
  answer : Answer
  subject : Option SubjectView
  /-- Producers that have returned, in the order in which they were spawned. -/
  returned : List (String × Answer)
  events : List Event
  deriving Inhabited

/-- What is left at the end of a session. -/
structure Remains where
  functions : List (String × FunctionState)
  jobs : List (String × JobView)
  invokers : List (String × InvokerView)
  live : LiveCounts
  deriving Inhabited

/-- How a session ended: with what is left, or by an abort after some events of the last action. -/
inductive Ending where
  | finished (r : Remains)
  | aborted (events : List Event)
  deriving Inhabited

/-- What a session has shown. -/
structure Transcript where
  steps : List StepRecord
  ending : Ending
  /-- Lines on standard output and on standard error. -/
  output : List String
  complaints : List String
  deriving Inhabited

namespace Session

/-- The public events since an earlier state, in order. -/
def eventsSince (s old : Session) : List Event :=
  ((s.journal.take (s.journal.length - old.journal.length)).filter Event.isPublic).reverse

/-- The producers that have returned since an earlier state. -/
def returnedSince (s old : Session) : List (String × Answer) :=
  (List.range s.producers.length).filterMap fun n =>
    match s.producers[n]?, old.producers[n]? with
    | some p, before =>
      if (before.bind Producer.result).isSome then none else p.result.map (p.name, ·)
    | none, _ => none

/-- What is left. -/
def remains (s : Session) : Remains where
  functions := s.names.functions.filterMap fun (name, f) =>
    (s.functions.object? f).map fun fn => (name, s.viewFunction f fn)
  jobs := s.names.jobs.filterMap fun (name, j) =>
    (s.jobs.object? j).map fun job => (name, s.viewJob j job)
  invokers := s.names.invokers.filterMap fun (name, i) =>
    (s.invokers.get? i).map fun inv => (name, inv.view)
  live := s.liveCounts

/-- Lines that were written one by one, as a reader of the stream sees them. -/
def streamLines (latestFirst : List String) : List String :=
  latestFirst.reverse.flatMap Text.splitLines

/-- Take turns in order; `done` are the records so far, latest first. -/
def playFrom (s : Session) (done : List StepRecord) : List Turn → Transcript
  | [] =>
    { steps := done.reverse
      ending := .finished s.remains
      output := streamLines s.written
      complaints := streamLines s.complaints }
  | turn :: rest =>
    let s' := s.performOnMain turn.action
    let events := s'.eventsSince s
    if s'.halted then
      { steps := done.reverse
        ending := .aborted events
        output := streamLines s'.written
        complaints := streamLines s'.complaints }
    else
      let record : StepRecord :=
        { answer := s'.mainAnswer?.getD .nothing
          subject := turn.watched.map s'.viewSubject
          returned := s'.returnedSince s
          events := events }
      s'.playFrom (record :: done) rest

/-- Take turns in order on a new session. -/
def play (vars : Log.Variables) (level : Option Log.Level) (turns : List Turn) : Transcript :=
  (start vars level).playFrom [] turns

end Session

end AddonHost
