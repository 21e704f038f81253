import AddonHost.Config
import AddonHost.Error
import AddonHost.Table.Request
import AddonHost.Thread

/-!
Threadsafe functions.

A threadsafe function has a queue of items, a count of holders and flags for its way to the end.
Producers on any thread append items; each item has a dispatch task on the interpreter thread, and
each task takes one item off the queue.  Here are the operations on the function itself, each one
step under the queue's lock:

* `admission` decides what a call does before it may append; `push` appends and `pop` takes off;
* `acquire`, `dropHolder` and `abort` change the holders and the flags;
* `close` starts the end, once.

A producer that finds a bounded queue full lies down (`sleep`).  A freed slot wakes the producer
that has slept longest, and closing wakes all (`sleepers` are those not woken yet).
-/

namespace AddonHost

/-- A threadsafe function. -/
structure ThreadsafeFunction where
  env : Word
  /-- The reference to the function that is called for each item; null for none. -/
  reference : Word
  context : Word
  finalizer : Option Finalizer
  /-- Whether the addon delivers items itself. -/
  callJs : Bool
  maxQueueSize : Word
  delivery : Delivery
  /-- The invoker that runs its tasks, which may be gone by now; none if there never was one. -/
  invoker : Option InvokerId
  threadCount : Word
  aborted : Bool := false
  closing : Bool := false
  finalizeScheduled : Bool := false
  /-- Whether it is marked as keeping the event loop alive. -/
  referenced : Bool := true
  queue : List Word := []
  /-- Producers that wait for space and have not been woken, longest first. -/
  sleepers : List ThreadId := []
  deriving Repr, Inhabited

/-- What a call may do. -/
inductive Admission where
  | refuse (e : HostError)
  | wait
  | append
  deriving DecidableEq, Repr

namespace ThreadsafeFunction

/-- Whether the queue is bounded and at its bound. -/
def isFull (f : ThreadsafeFunction) : Bool :=
  f.maxQueueSize != 0 && f.maxQueueSize.toNat ≤ f.queue.length

/-- What a call may do now. -/
def admission (f : ThreadsafeFunction) (mode : CallMode) : Admission :=
  if f.aborted || f.closing then .refuse .closing
  else if f.isFull then
    match mode with
    | .nonBlocking => .refuse .queueFull
    | .blocking => .wait
  else .append

/-- Wait for space. -/
def sleep (f : ThreadsafeFunction) (t : ThreadId) : ThreadsafeFunction :=
  { f with sleepers := f.sleepers ++ [t] }

/-- Wake every producer that waits. -/
def wakeAll (f : ThreadsafeFunction) : ThreadsafeFunction := { f with sleepers := [] }

/-- Append an item. -/
def push (f : ThreadsafeFunction) (data : Word) : ThreadsafeFunction :=
  { f with queue := f.queue ++ [data] }

/-- Take the oldest item off; a slot freed in a bounded queue wakes one producer. -/
def pop (f : ThreadsafeFunction) : Option Word × ThreadsafeFunction :=
  match f.queue with
  | [] => (none, f)
  | data :: rest =>
    (some data,
      { f with
        queue := rest
        sleepers := if f.maxQueueSize = 0 then f.sleepers else f.sleepers.drop 1 })

/-- One holder more; the count wraps. -/
def acquire (f : ThreadsafeFunction) : ThreadsafeFunction :=
  { f with threadCount := f.threadCount + 1 }

/-- One holder less; the count stops at zero. -/
def dropHolder (f : ThreadsafeFunction) : ThreadsafeFunction :=
  { f with threadCount := Word.pred f.threadCount }

/-- Close at once: items still queued are not delivered any more. -/
def abort (f : ThreadsafeFunction) : ThreadsafeFunction :=
  { f with aborted := true, closing := true }.wakeAll

/-- Start the end. -/
def close (f : ThreadsafeFunction) : ThreadsafeFunction :=
  { f with finalizeScheduled := true, closing := true }.wakeAll

/-- Whether the last holder is gone and nothing is queued. -/
def isSpent (f : ThreadsafeFunction) : Bool := f.threadCount == 0 && f.queue.isEmpty

/-- The description of a function registered under an id. -/
def debugText (f : ThreadsafeFunction) (id : HandleId) : String :=
  "ThreadSafeFunction \x7b id: " ++ id.debugText ++ ", thread_count: " ++ f.threadCount.decimal ++
    ", max_queue_size: " ++ f.maxQueueSize.decimal ++ ", closing: " ++ toString f.closing ++
    ", aborted: " ++ toString f.aborted ++ " \x7d"

/-- A new function. -/
def create (env reference : Word) (spec : FunctionSpec) (delivery : Delivery)
    (invoker : Option InvokerId) : ThreadsafeFunction where
  env := env
  reference := reference
  context := spec.context
  finalizer := spec.finalizer
  callJs := spec.callJs
  maxQueueSize := spec.maxQueueSize
  delivery := delivery
  invoker := invoker
  threadCount := spec.threadCount

@[simp] theorem queue_push (f : ThreadsafeFunction) (data : Word) :
    (f.push data).queue = f.queue ++ [data] := rfl

theorem queue_pop (f : ThreadsafeFunction) : f.queue = f.pop.1.toList ++ f.pop.2.queue := by
  unfold pop
  cases h : f.queue <;> simp [h]

theorem admission_eq_append_iff (f : ThreadsafeFunction) (mode : CallMode) :
    f.admission mode = .append ↔ f.aborted = false ∧ f.closing = false ∧ f.isFull = false := by
  unfold admission
  cases mode <;> cases f.aborted <;> cases f.closing <;> cases f.isFull <;> simp

end ThreadsafeFunction

end AddonHost
