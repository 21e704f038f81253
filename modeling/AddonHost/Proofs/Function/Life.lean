import Mathlib
import AddonHost.Session.History

/-!
The life of one threadsafe function.

A session is large, and little of it concerns one function: the function itself, whether it is
registered, its tasks in the queues of invokers, what the journal tells of it, and what threads are
in the middle of doing for it.  A `Life` holds the first four, and the last are `Activity`s.
`Life.Step` says what one step of a thread can do to them, and `Life.Run` what a run can:

* `Life.Step` has one constructor for each thing that can happen to a function;
* `Life.Run` starts before the function is created and takes one step after the other, each made by
  a thread that gives up some activities and takes on others.

What holds in every `Life.Run` holds of every function in every session (`Session.Reachable.life`).
-/

namespace AddonHost

/-- A task of a threadsafe function. -/
inductive FunctionTask where
  | drain
  | teardown
  deriving DecidableEq

/-- What a task is to a threadsafe function, if it is one of its own. -/
def Task.part? (f : HandleId) : Task → Option FunctionTask
  | .drain g => if g = f then some .drain else none
  | .teardown g => if g = f then some .teardown else none
  | _ => none

/-- The task of a threadsafe function. -/
def FunctionTask.toTask (f : HandleId) : FunctionTask → Task
  | drain => .drain f
  | teardown => .teardown f

@[simp] theorem FunctionTask.part?_toTask (f : HandleId) (k : FunctionTask) :
    (k.toTask f).part? f = some k := by
  cases k <;> simp [toTask, Task.part?]

/-- Whether an event is about a threadsafe function. -/
def Event.concerns (f : HandleId) : Event → Bool
  | callJs g .. | functionCalled g | appended g _ | taken g _ | drainOffered g _ | drainStarted g
  | acquired g _ | released g _ | aborted g | closed g | teardownOffered g _ | teardownStarted g
  | finalizerCalled g | teardownEnded g => g = f
  | discarded _ sub => (sub.task.part? f).isSome
  | log .. | finalize .. | execute .. | complete .. | engine .. | engineRegister .. | engineFatal ..
  | clientTask | did .. | jobCancelled _ | jobDeleted _ | workStarted _ | queued .. | started ..
  | ended .. | failed .. | ranInline _ => false

/-- What a thread is in the middle of doing for a threadsafe function.  What belongs to a task
names the invoker that runs it, and what belongs to a teardown tells whether it runs at once, as a
part of the operation that closed the function. -/
inductive Activity where
  /-- Waiting for space, asleep or woken. -/
  | waiting (t : ThreadId)
  /-- About to run a dispatch task. -/
  | starting (i : Option InvokerId)
  /-- Delivering an item that was taken. -/
  | delivering (i : Option InvokerId) (data : Word)
  /-- About to call the function behind the reference. -/
  | calling (i : Option InvokerId)
  /-- In a dispatch task; whether the queue was empty when the item was taken. -/
  | draining (i : Option InvokerId) (wasEmpty : Bool)
  /-- About to tear the function down. -/
  | ending (atOnce : Bool)
  /-- About to call the finalizer; whether there is one of the addon. -/
  | finalizerDue (calls : Bool)
  /-- In a teardown, with the finalizer on its way. -/
  | finalizing (atOnce : Bool)
  /-- In a teardown, after the finalizer. -/
  | unregistering (atOnce : Bool)
  deriving DecidableEq

namespace Activity

/-- Whether a delivery is on its way: a thread in the middle of one is never between two
operations, unless an engine calls back. -/
def isDelivery : Activity → Bool
  | starting _ | delivering .. | calling _ => true
  | _ => false

/-- Whether a teardown is on its way. -/
def isTeardown : Activity → Bool
  | ending _ | finalizing _ | unregistering _ => true
  | _ => false

/-- Whether a teardown has called, or is about to call, the finalizer. -/
def isTeardownStarted : Activity → Bool
  | finalizing _ | unregistering _ => true
  | _ => false

/-- Whether a teardown is on its way inside the operation that closed the function. -/
def isTeardownAtOnce : Activity → Bool
  | ending b | finalizing b | unregistering b => b
  | _ => false

/-- Whether a producer waits for space. -/
def isWaiting : Activity → Bool
  | waiting _ => true
  | _ => false

/-- The threads that wait for space. -/
def waiter? : Activity → Option ThreadId
  | waiting t => some t
  | _ => none

/-- What a thread does when it takes a task off a queue of the invoker. -/
def ofTask (i : InvokerId) : FunctionTask → Activity
  | .drain => starting (some i)
  | .teardown => ending false

end Activity

/-- What a session shows of one threadsafe function. -/
structure Life where
  function : Option ThreadsafeFunction
  registered : Bool
  /-- Its tasks in the queue of each invoker. -/
  queued : InvokerId → List FunctionTask
  /-- The events about it, in the order of time. -/
  told : List Event
  /-- The number that the next handle id takes. -/
  nextId : Nat

namespace Life

/-- Nothing has been heard of the function. -/
def unborn (nextId : Nat) : Life where
  function := none
  registered := false
  queued _ := []
  told := []
  nextId := nextId

/-- The function becomes another. -/
def become (l : Life) (fn : ThreadsafeFunction) : Life := { l with function := some fn }

/-- Events are told. -/
def tell (l : Life) (es : List Event) : Life := { l with told := l.told ++ es }

/-- The queue of an invoker becomes another. -/
def requeue (l : Life) (i : InvokerId) (tasks : List FunctionTask) : Life :=
  { l with queued := Function.update l.queued i tasks }

/-- A task is appended to the queue of an invoker. -/
def enqueue (l : Life) (i : InvokerId) (k : FunctionTask) : Life :=
  l.requeue i (l.queued i ++ [k])

variable (f : HandleId)

/-- How a call arrives at its item: directly, or after it was woken. -/
def Arrives (fn : ThreadsafeFunction) (own : List Activity) : Prop :=
  own = [] ∨ ∃ t, own = [.waiting t] ∧ t ∉ fn.sleepers

/-- Why a function closes: the activities that end with it, the function after the cause, and what
is told of the cause. -/
inductive Cause (fn : ThreadsafeFunction) :
    List Activity → ThreadsafeFunction → List Event → Prop where
  | abort : fn.closing = false →
    Cause fn [] fn.abort.dropHolder [.released f fn.dropHolder.threadCount, .aborted f]
  | lastHolder : fn.closing = false → fn.dropHolder.isSpent = true →
    Cause fn [] fn.dropHolder [.released f fn.dropHolder.threadCount]
  | lastItem (i : Option InvokerId) :
    fn.closing = false → fn.threadCount = 0 → Cause fn [.draining i true] fn []

/-- What a dispatch task tells when it takes an item off the queue. -/
def takenEvents (fn : ThreadsafeFunction) : List Event :=
  fn.pop.1.toList.map (Event.taken f)

/-- What a dispatch task that has taken an item is in the middle of: its delivery, unless there is
no item or the function was aborted. -/
def deliveries (fn : ThreadsafeFunction) (i : Option InvokerId) : List Activity :=
  if fn.aborted then [] else fn.pop.1.toList.map (Activity.delivering i)

/-- What a teardown that starts is in the middle of: the finalizer, if there is one. -/
def finalizersDue (fn : ThreadsafeFunction) : List Activity :=
  match fn.finalizer with
  | none => []
  | some fin => [.finalizerDue fin.data?.isSome]

/-- What one step of a thread does to the life of a function: the activities that it gives up are
on the left, and those that it takes on are on the right. -/
inductive Step : Life → List Activity → Life → List Activity → Prop where
  /-- Something else happens. -/
  | aside {l : Life} (own : List Activity) {n : Nat} (hn : l.nextId ≤ n) :
    Step l own { l with nextId := n } own
  /-- Another object takes the function's place in the registry; there are enough handles for
  2 ^ 64 objects. -/
  | displace {l : Life} (own : List Activity) {n : Nat} (hn : l.nextId ≤ n) (hout : 2 ^ 64 < n) :
    Step l own { l with registered := false, nextId := n } own
  /-- A thread has something to do for a function that does not exist. -/
  | absent {l : Life} (own : List Activity) (hl : l.function = none) : Step l own l []
  /-- The function is created. -/
  | create {l : Life} {n : Nat} (env reference : Word) (spec : FunctionSpec) (delivery : Delivery)
      (invoker : Option InvokerId) (hl : l.function = none) (hn : l.nextId ≤ n) :
    Step l []
      { l.become (.create env reference spec delivery invoker) with
        registered := true
        nextId := n }
      []
  /-- A holder is added. -/
  | acquire {l : Life} {fn : ThreadsafeFunction} (hl : l.function = some fn)
      (hclosing : fn.closing = false) :
    Step l [] ((l.become fn.acquire).tell [.acquired f fn.acquire.threadCount]) []
  /-- The function is marked as keeping the event loop alive, or not. -/
  | mark {l : Life} {fn : ThreadsafeFunction} (on : Bool) (hl : l.function = some fn) :
    Step l [] (l.become { fn with referenced := on }) []
  /-- An item is appended, and no invoker takes its dispatch task. -/
  | appendLost {l : Life} {fn : ThreadsafeFunction} {own : List Activity} (data : Word)
      (hl : l.function = some fn) (hclosing : fn.closing = false) (hfull : fn.isFull = false)
      (hown : Arrives fn own) :
    Step l own ((l.become (fn.push data)).tell [.appended f data, .drainOffered f false]) []
  /-- An item is appended, and its dispatch task is queued. -/
  | appendQueued {l : Life} {fn : ThreadsafeFunction} {own : List Activity} (data : Word)
      (i : InvokerId) (hl : l.function = some fn) (hclosing : fn.closing = false)
      (hfull : fn.isFull = false) (hown : Arrives fn own) (hi : fn.invoker = some i) :
    Step l own
      (((l.become (fn.push data)).enqueue i .drain).tell
        [.appended f data, .drainOffered f true]) []
  /-- An item is appended, and its dispatch task is run at once. -/
  | appendInline {l : Life} {fn : ThreadsafeFunction} {own : List Activity} (data : Word)
      (i : InvokerId) (hl : l.function = some fn) (hclosing : fn.closing = false)
      (hfull : fn.isFull = false) (hown : Arrives fn own) (hi : fn.invoker = some i) :
    Step l own ((l.become (fn.push data)).tell [.appended f data, .drainOffered f true])
      [.starting (some i)]
  /-- A producer finds the queue full and lies down. -/
  | sleep {l : Life} {fn : ThreadsafeFunction} {own : List Activity} (t : ThreadId)
      (hl : l.function = some fn) (hclosing : fn.closing = false) (hfull : fn.isFull = true)
      (hown : own = [] ∨ own = [.waiting t] ∧ t ∉ fn.sleepers) :
    Step l own (l.become (fn.sleep t)) [.waiting t]
  /-- A producer that waited finds the function closing. -/
  | giveUp {l : Life} {fn : ThreadsafeFunction} (t : ThreadId) (hl : l.function = some fn)
      (hclosing : fn.closing = true) (ht : t ∉ fn.sleepers) : Step l [.waiting t] l []
  /-- A holder is dropped, and the function stays open. -/
  | dropHolder {l : Life} {fn : ThreadsafeFunction} (hl : l.function = some fn)
      (hclosing : fn.closing = false) (hspent : fn.dropHolder.isSpent = false) :
    Step l [] ((l.become fn.dropHolder).tell [.released f fn.dropHolder.threadCount]) []
  /-- The function would close, but its end is under way. -/
  | closeAgain {l : Life} {fn fn' : ThreadsafeFunction} {own : List Activity} {es : List Event}
      (hl : l.function = some fn) (hc : Cause f fn own fn' es) (hs : fn'.finalizeScheduled = true) :
    Step l own ((l.become fn').tell es) []
  /-- The function closes, and its teardown is queued. -/
  | closeQueued {l : Life} {fn fn' : ThreadsafeFunction} {own : List Activity} {es : List Event}
      (i : InvokerId) (hl : l.function = some fn) (hc : Cause f fn own fn' es)
      (hs : fn'.finalizeScheduled = false) (hi : fn.invoker = some i) :
    Step l own
      (((l.become fn'.close).enqueue i .teardown).tell
        (es ++ [.closed f, .teardownOffered f true])) []
  /-- The function closes, and its teardown is run at once. -/
  | closeAtOnce {l : Life} {fn fn' : ThreadsafeFunction} {own : List Activity} {es : List Event}
      (hl : l.function = some fn) (hc : Cause f fn own fn' es)
      (hs : fn'.finalizeScheduled = false) :
    Step l own ((l.become fn'.close).tell (es ++ [.closed f, .teardownOffered f false]))
      [.ending true]
  /-- A task is taken off the queue of an invoker. -/
  | start {l : Life} (i : InvokerId) {k : FunctionTask} {rest : List FunctionTask}
      (hq : l.queued i = k :: rest) : Step l [] (l.requeue i rest) [.ofTask i k]
  /-- Tasks in the queue of an invoker are discarded. -/
  | discard {l : Life} (i : InvokerId) {rest : List FunctionTask} {subs : List Submission}
      (hrest : rest.Sublist (l.queued i))
      (hsubs : (rest ++ subs.filterMap fun sub => sub.task.part? f).Perm (l.queued i)) :
    Step l []
      ((l.requeue i rest).tell ((subs.map (Event.discarded i)).filter (Event.concerns f))) []
  /-- A dispatch task takes an item, if there is one. -/
  | drain {l : Life} {fn : ThreadsafeFunction} (i : Option InvokerId) (hl : l.function = some fn) :
    Step l [.starting i] ((l.become fn.pop.2).tell (.drainStarted f :: takenEvents f fn))
      (deliveries fn i ++ [.draining i fn.pop.2.queue.isEmpty])
  /-- The addon is handed an item. -/
  | callJs {l : Life} {fn : ThreadsafeFunction} (i : Option InvokerId) (func data : Word)
      (hl : l.function = some fn) (hjs : fn.callJs = true) :
    Step l [.delivering i data] (l.tell [.callJs f fn.env func fn.context data]) []
  /-- The function behind the reference is found. -/
  | find {l : Life} {fn : ThreadsafeFunction} (i : Option InvokerId) (data : Word)
      (hl : l.function = some fn) (hjs : fn.callJs = false) :
    Step l [.delivering i data] l [.calling i]
  /-- There is nothing to hand an item to. -/
  | ignore {l : Life} {fn : ThreadsafeFunction} (i : Option InvokerId) (data : Word)
      (hl : l.function = some fn) (hjs : fn.callJs = false) :
    Step l [.delivering i data] l []
  /-- The function behind the reference is called. -/
  | callFunction {l : Life} {fn : ThreadsafeFunction} (i : Option InvokerId)
      (hl : l.function = some fn) :
    Step l [.calling i] (l.tell [.functionCalled f]) []
  /-- A dispatch task is over, and the function stays open. -/
  | drained {l : Life} {fn : ThreadsafeFunction} (i : Option InvokerId) (wasEmpty : Bool)
      (hl : l.function = some fn)
      (hopen : wasEmpty = true → fn.threadCount = 0 → fn.closing = true) :
    Step l [.draining i wasEmpty] l []
  /-- A teardown starts. -/
  | teardown {l : Life} {fn : ThreadsafeFunction} (atOnce : Bool) (hl : l.function = some fn) :
    Step l [.ending atOnce] (l.tell [.teardownStarted f])
      (finalizersDue fn ++ [.finalizing atOnce])
  /-- The addon's finalizer is called. -/
  | callFinalizer {l : Life} : Step l [.finalizerDue true] (l.tell [.finalizerCalled f]) []
  /-- There is no finalizer of the addon to call. -/
  | skipFinalizer {l : Life} : Step l [.finalizerDue false] l []
  /-- The finalizer has returned. -/
  | finalized {l : Life} {fn : ThreadsafeFunction} (atOnce : Bool) (hl : l.function = some fn) :
    Step l [.finalizing atOnce] (l.become { fn with reference := 0 }) [.unregistering atOnce]
  /-- The teardown is over. -/
  | unregister {l : Life} {fn : ThreadsafeFunction} (atOnce : Bool) (hl : l.function = some fn) :
    Step l [.unregistering atOnce] ({ l with registered := false }.tell [.teardownEnded f]) []

/-- What a run makes of a function, with all that threads are in the middle of doing for it.  With
`alone`, a step that changes the function or what is done for it is only made while no other
delivery is on its way. -/
inductive Run (alone : Prop) : Life → Multiset Activity → Prop where
  | unborn (n : Nat) : Run alone (.unborn n) 0
  | step {l l' : Life} {own own' : List Activity} {kept : Multiset Activity} :
    Run alone l (own + kept) → Step f l own l' own' →
    (alone → own = own' ∧ l'.function = l.function ∨ ∀ a ∈ kept, a.isDelivery = false) →
    Run alone l' (own' + kept)

end Life

end AddonHost
