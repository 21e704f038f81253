import AddonHost.Machine.Fatal

/-!
Steps of threadsafe functions.

A call appends its item and submits one dispatch task (`Session.call`, `Session.appendItem`).  A
dispatch task takes one item off the queue (`Session.drain`) and hands it to the addon, or to the
function behind the reference (`Session.deliver`).  The function closes when it is aborted, when
the last holder releases it with nothing queued, or after the dispatch task that took the last item
when no holder is left; closing submits the teardown, and runs it at once if the invoker cannot
(`Session.closeThen`).  The teardown calls the finalizer, deletes the reference and unregisters
the function, in this order.
-/

namespace AddonHost

/-- How diagnostics name a threadsafe function. -/
def functionText (f : HandleId) : String := "threadsafe function " ++ f.text

namespace Session

/-- Append an item and submit its dispatch task. -/
def appendItem (s : Session) (t : ThreadId) (f : HandleId) (fn : ThreadsafeFunction)
    (data : Word) : Move :=
  let s := (s.modifyFunction f (·.push data)).emit (.appended f data)
  match s.liveInvoker? fn.invoker with
  | none =>
    ((s.emit (.drainOffered f false)).log .warn
      ("no call invoker for " ++ functionText f ++ "; queued item will not be delivered")).give
      (.outcome (.ok ()))
  | some (i, _) =>
    match s.offer t i (fn.delivery = .sync) (.drain f) with
    | (.accepted, s) => (s.emit (.drainOffered f true)).give (.outcome (.ok ()))
    | (.handedBack, s) =>
      ((s.emit (.drainOffered f false)).log .warn
        ("call invoker rejected " ++ functionText f ++ "; queued item will not be delivered")).give
        (.outcome (.ok ()))
    | (.inline, s) =>
      ((s.emit (.drainOffered f true)).keepInvoker i).run (.task i (.drain f))
        [.ranInline i, .called i]
    | (.awaited c, s) =>
      ((s.emit (.drainOffered f true)).keepInvoker i).run (.awaitTask i c) [.called i]

/-- Call a threadsafe function. -/
def call (s : Session) (t : ThreadId) (f : HandleId) (data : Word) (mode : CallMode) : Move :=
  match s.functions.object? f with
  | none => s.give (.outcome (.error .invalidArg))
  | some fn =>
    match fn.admission mode with
    | .refuse e => s.give (.outcome (.error e))
    | .wait => (s.modifyFunction f (·.sleep t)).run (.awaitSpace f data)
    | .append => s.appendItem t f fn data

/-- A producer that waited for space: it goes on when it was woken and there is space, or when the
function is closing. -/
def awaitSpace (s : Session) (t : ThreadId) (f : HandleId) (data : Word) : Option Move :=
  match s.functions.object? f with
  | none => some (s.give (.outcome (.error .invalidArg)))
  | some fn =>
    if fn.sleepers.contains t then none
    else if fn.closing then some (s.give (.outcome (.error .closing)))
    else if fn.isFull then some ((s.modifyFunction f (·.sleep t)).run (.awaitSpace f data))
    else some (s.appendItem t f fn data)

/-- Close a function unless its end is under way, then reply.  The teardown runs at once when no
invoker takes it. -/
def closeThen (s : Session) (t : ThreadId) (f : HandleId) (r : Reply) : Move :=
  match s.functions.object? f with
  | none => s.give r
  | some fn =>
    if fn.finalizeScheduled then s.give r
    else
      let s := (s.modifyFunction f (·.close)).emit (.closed f)
      let atOnce (s : Session) : Move :=
        ((s.emit (.teardownOffered f false)).log .debug
          ("no dispatcher for " ++ functionText f ++ "; finalizing inline")).run
          (.teardown f) [.thenReply r]
      match s.liveInvoker? fn.invoker with
      | none => atOnce s
      | some (i, _) =>
        match s.offer t i false (.teardown f) with
        | (.accepted, s) => (s.emit (.teardownOffered f true)).give r
        | (_, s) => atOnce s

/-- Give up a threadsafe function. -/
def release (s : Session) (t : ThreadId) (f : HandleId) (mode : ReleaseMode) : Move :=
  match s.functions.object? f with
  | none => s.give (.outcome (.error .invalidArg))
  | some fn =>
    if fn.closing then s.give (.outcome (.error .closing))
    else
      match mode with
      | .abort =>
        let s := s.modifyFunction f fun fn => fn.abort.dropHolder
        let s := (s.emit (.released f fn.dropHolder.threadCount)).emit (.aborted f)
        (s.log .debug (functionText f ++ " aborted")).closeThen t f (.outcome (.ok ()))
      | .release =>
        let s := s.modifyFunction f (·.dropHolder)
        let s := s.emit (.released f fn.dropHolder.threadCount)
        if fn.dropHolder.isSpent then s.closeThen t f (.outcome (.ok ()))
        else s.give (.outcome (.ok ()))

/-- A dispatch task: take one item and deliver it, unless the function was aborted. -/
def drain (s : Session) (f : HandleId) : Move :=
  match s.functions.object? f with
  | none => s.give .unit
  | some fn =>
    let (item, fn') := fn.pop
    let s := (s.emit (.drainStarted f)).modifyFunction f fun _ => fn'
    let after := [Frame.drained f fn'.queue.isEmpty]
    match item with
    | none => { s.give .unit with frames := after }
    | some data =>
      let s := s.emit (.taken f data)
      if fn.aborted then { s.give .unit with frames := after } else s.run (.deliver f data) after

/-- After a delivery: close the function if the item was the last one and no holder is left. -/
def afterDrain (s : Session) (t : ThreadId) (f : HandleId) (wasEmpty : Bool) : Move :=
  match s.functions.object? f with
  | none => s.give .unit
  | some fn =>
    if wasEmpty && fn.threadCount == 0 && !fn.closing then s.closeThen t f .unit
    else s.give .unit

/-- Hand an item to the addon with the function that was found, or call that function. -/
def deliverWith (s : Session) (f : HandleId) (fn : ThreadsafeFunction) (func data : Word) :
    Move :=
  if fn.callJs then
    let s := s.log .trace (functionText f ++ ": call_js")
    let s := s.emit (.callJs f fn.env func fn.context data)
    let (actions, s) := s.fire (.callJs data)
    s.run (.script .callback actions)
  else if func ≠ 0 then
    s.run (.entry .injected (.getUndefined fn.env true)) [.gotReceiver f func]
  else s.give .unit

/-- Deliver an item: first ask for the function behind the reference, if there is one. -/
def deliver (s : Session) (f : HandleId) (data : Word) : Move :=
  match s.functions.object? f with
  | none => s.give .unit
  | some fn =>
    if fn.reference ≠ 0 then
      s.run (.entry .injected (.getReferenceValue fn.env fn.reference true)) [.gotFunction f data]
    else s.deliverWith f fn 0 data

/-- The function behind the reference was asked for. -/
def afterReference (s : Session) (f : HandleId) (data : Word) (r : Response) : Move :=
  match s.functions.object? f with
  | none => s.give .unit
  | some fn =>
    if r.status = .ok then s.deliverWith f fn (r.out.getD 0) data
    else
      (s.log .warn
        (functionText f ++ ": cannot resolve JS function (" ++ r.status.text ++ ")")).deliverWith
        f fn 0 data

/-- The receiver of the call was asked for. -/
def afterReceiver (s : Session) (f : HandleId) (func : Word) (r : Response) : Move :=
  match s.functions.object? f with
  | none => s.give .unit
  | some fn =>
    (s.emit (.functionCalled f)).run
      (.entry .injected (.callFunction fn.env (r.out.getD 0) func 0 false true)) [.gotResult f]

/-- The function was called. -/
def afterResult (s : Session) (f : HandleId) (r : Response) : Move :=
  if r.status = .ok then s.give .unit
  else
    (s.log .warn (functionText f ++ ": JS call failed (" ++ r.status.text ++ ")")).give .unit

/-- Tear a function down: call its finalizer first. -/
def teardown (s : Session) (f : HandleId) : Move :=
  match s.functions.object? f with
  | none => s.give .unit
  | some fn =>
    let s := s.emit (.teardownStarted f)
    match fn.finalizer with
    | none => { s.give .unit with frames := [.finalized f] }
    | some fin => s.run (.finalizer (some f) fin fn.env fn.context) [.finalized f]

/-- The finalizer has returned: delete the reference, if there is one. -/
def afterFinalizer (s : Session) (f : HandleId) : Move :=
  match s.functions.object? f with
  | none => s.give .unit
  | some fn =>
    let s := s.modifyFunction f fun fn => { fn with reference := 0 }
    if fn.reference ≠ 0 then
      s.run (.entry .injected (.deleteReference fn.env fn.reference)) [.unreferenced f]
    else { s.give .unit with frames := [.unreferenced f] }

/-- The reference is gone: unregister the function. -/
def unregisterFunction (s : Session) (f : HandleId) : Move :=
  match s.functions.object? f with
  | none => s.give .unit
  | some _ =>
    ((({ s with functions := s.functions.erase f }).log .debug
      (functionText f ++ " finalized")).emit (.teardownEnded f)).give .unit

/-- Call a finalizer; a multiplexer's calls the one inside it first. -/
def finalizer (s : Session) (owner : Option HandleId) (fin : Finalizer) (env hint : Word) :
    Move :=
  match fin with
  | .extension data =>
    let s := match owner with
      | none => s
      | some f => s.emit (.finalizerCalled f)
    let s := s.emit (.finalize env data hint)
    let (actions, s) := s.fire (.finalize data)
    s.run (.script .callback actions)
  | .wrapped handle none => { s.give .unit with frames := [.unwrapped handle] }
  | .wrapped handle (some inner) => s.run (.finalizer owner inner env hint) [.unwrapped handle]

/-- Register a new function. -/
def registerFunction (s : Session) (env reference : Word) (spec : FunctionSpec)
    (delivery : Delivery) (invoker : Option InvokerId) : Move :=
  let (id, s) := s.freshId
  let fn := ThreadsafeFunction.create env reference spec delivery invoker
  let s := { s with functions := s.functions.insert id fn }
  (s.log .debug
    (functionText id ++ " created (max_queue_size=" ++ spec.maxQueueSize.decimal ++ ", threads=" ++
      spec.threadCount.decimal ++ ")")).give (.handle id)

/-- Create a function: first a reference to what it calls, if it calls anything. -/
def createFunction (s : Session) (env : Word) (spec : FunctionSpec) (delivery : Delivery)
    (invoker : Option InvokerId) : Move :=
  if spec.func ≠ 0 then
    s.run (.entry .injected (.createReference env spec.func 1 true))
      [.referenced env spec delivery invoker]
  else s.registerFunction env 0 spec delivery invoker

/-- The reference was asked for; an env in which that fails is unusable. -/
def afterCreateReference (s : Session) (env : Word) (spec : FunctionSpec) (delivery : Delivery)
    (invoker : Option InvokerId) (r : Response) : Move :=
  if r.status = .ok then s.registerFunction env (r.out.getD 0) spec delivery invoker
  else s.fatalError "" "Failed to create JS function reference"

end Session

end AddonHost
