import AddonHost.ThreadsafeFunction

/-!
The stress run.

Several producers push tagged items through one threadsafe function with blocking calls, each a
fixed number, and then release it; an interpreter thread runs the dispatch tasks and the teardown.
The sink checks for each producer that its items arrive in order.  `State.act` is one whole
operation of a producer or of the interpreter thread, and an interleaving is a sequence of actors;
`State.run` follows the one in which the interpreter thread acts whenever it can.
-/

namespace AddonHost.Stress

/-- What is run: the number of producers, of items for each of them, and the bound of the queue. -/
structure Plan where
  producers : Nat
  items : Nat
  maxQueue : Word
  deriving DecidableEq, Repr, Inhabited

/-- A task of the interpreter thread. -/
inductive Work where
  | drain
  | teardown
  deriving DecidableEq, Repr, Inhabited

/-- Who acts. -/
inductive Actor where
  | producer (p : Nat)
  | interpreter
  deriving DecidableEq, Repr, Inhabited

/-- How far a producer has come. -/
structure Progress where
  /-- The number of calls made. -/
  called : Nat := 0
  released : Bool := false
  deriving DecidableEq, Repr, Inhabited

/-- A stress run under way. -/
structure State where
  function : ThreadsafeFunction
  /-- What the interpreter thread has yet to run, in order. -/
  tasks : List Work := []
  progress : Array Progress
  /-- For each producer, the sequence number that the sink expects next. -/
  expected : Array Word
  failedCalls : Nat := 0
  delivered : Nat := 0
  outOfOrder : Nat := 0
  finalizerRuns : Nat := 0
  tasksRun : Nat := 0

/-- Where an item's tag holds the producer. -/
def tagShift : Word := 40

/-- The item with a sequence number of a producer. -/
def tag (p seq : Nat) : Word := (p.toUInt64 <<< tagShift) ||| seq.toUInt64

/-- The producer of an item. -/
def tagProducer (item : Word) : Nat := (item >>> tagShift).toNat

/-- The sequence number of an item. -/
def tagSequence (item : Word) : Word := item &&& ((1 <<< tagShift) - 1)

namespace State

/-- A run before anything has happened. -/
def start (plan : Plan) : State where
  function :=
    .create 1 0
      { maxQueueSize := plan.maxQueue
        threadCount := plan.producers.toUInt64
        finalizer := some (.extension 0)
        callJs := true }
      .async (some 0)
  progress := Array.replicate plan.producers {}
  expected := Array.replicate plan.producers 0

/-- Submit a task to the interpreter thread. -/
def submit (s : State) (w : Work) : State := { s with tasks := s.tasks ++ [w] }

/-- Close the function and submit its teardown, once. -/
def close (s : State) : State :=
  if s.function.finalizeScheduled then s
  else { s with function := s.function.close }.submit .teardown

/-- Note that a producer has made a call. -/
def countCall (s : State) (p : Nat) : State :=
  { s with progress := s.progress.modify p fun g => { g with called := g.called + 1 } }

/-- A producer makes its next call; while it waits for space nothing changes. -/
def call (s : State) (p seq : Nat) : State :=
  match s.function.admission .blocking with
  | .wait => s
  | .refuse _ => { s with failedCalls := s.failedCalls + 1 }.countCall p
  | .append =>
    ({ s with function := s.function.push (tag p seq) }.submit .drain).countCall p

/-- A producer releases the function. -/
def release (s : State) (p : Nat) : State :=
  let s := { s with progress := s.progress.modify p fun g => { g with released := true } }
  if s.function.closing then s
  else
    let s := { s with function := s.function.dropHolder }
    if s.function.isSpent then s.close else s

/-- The sink receives an item. -/
def deliver (s : State) (item : Word) : State :=
  let p := tagProducer item
  let seq := tagSequence item
  let s := if s.expected[p]?.getD 0 = seq then s else { s with outOfOrder := s.outOfOrder + 1 }
  { s with
    expected := s.expected.modify p fun _ => seq + 1
    delivered := s.delivered + 1 }

/-- The interpreter thread delivers one item, and closes the function if that was the last one and
no holder is left. -/
def drain (s : State) : State :=
  let (item, function) := s.function.pop
  let wasEmpty := function.queue.isEmpty
  let s := { s with function := function }
  let s := match item with
    | some item => if function.aborted then s else s.deliver item
    | none => s
  if wasEmpty && s.function.threadCount == 0 && !s.function.closing then s.close else s

/-- The interpreter thread runs a task. -/
def work (s : State) (w : Work) : State :=
  let s := match w with
    | .drain => s.drain
    | .teardown => { s with finalizerRuns := s.finalizerRuns + 1 }
  { s with tasksRun := s.tasksRun + 1 }

/-- The number of calls that a producer has made. -/
def called (s : State) (p : Nat) : Nat := (s.progress[p]?.map Progress.called).getD 0

/-- Whether an actor can act: the interpreter thread while it has tasks, and a producer until it has
released the function, unless its next call has to wait for space. -/
def enabled (plan : Plan) (s : State) : Actor → Bool
  | .interpreter => !s.tasks.isEmpty
  | .producer p =>
    match s.progress[p]? with
    | none => false
    | some g => !g.released && !(g.called < plan.items && s.function.admission .blocking = .wait)

/-- What one operation of an actor makes of the run. -/
def perform (plan : Plan) (s : State) : Actor → State
  | .interpreter =>
    match s.tasks with
    | [] => s
    | w :: rest => { s with tasks := rest }.work w
  | .producer p =>
    let n := s.called p
    if n < plan.items then s.call p n else s.release p

/-- One operation of an actor, if it can act. -/
def act (plan : Plan) (s : State) (a : Actor) : Option State :=
  if s.enabled plan a then some (s.perform plan a) else none

/-- Who acts after a producer: the interpreter thread if it can, else the producer itself, else the
next one; and the producer that has come so far. -/
def turn? (plan : Plan) (s : State) (p : Nat) : Option (Actor × Nat) :=
  if s.enabled plan .interpreter then some (.interpreter, p)
  else if s.enabled plan (.producer p) then some (.producer p, p)
  else if s.enabled plan (.producer (p + 1)) then some (.producer (p + 1), p + 1)
  else none

/-- At most so many operations. -/
def advance (plan : Plan) (s : State) (p : Nat) : Nat → State
  | 0 => s
  | n + 1 =>
    match s.turn? plan p with
    | none => s
    | some (a, p') => advance plan (s.perform plan a) p' n

/-- As many operations as a run takes: a call and its task for each item, a release for each
producer, and the teardown. -/
def operationCount (plan : Plan) : Nat := 2 * plan.producers * plan.items + plan.producers + 1

/-- A whole run. -/
def run (plan : Plan) : State := (start plan).advance plan 0 (operationCount plan)

end State

end AddonHost.Stress
