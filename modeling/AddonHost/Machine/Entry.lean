import AddonHost.Machine.Forward
import AddonHost.Machine.Job

/-!
Calls of entries.

An entry is answered by an engine, by the runtime, by whoever the injected table names, or by a
multiplexer (`Session.entry`); a forwarder that finds itself in the injected table would call itself
for ever, and ends the process.  The runtime's entries check their arguments before they touch
anything, so a call that they refuse has no effect.
-/

namespace AddonHost

namespace Session

/-- Give the status of an outcome. -/
def respondOutcome (p : Outcome × Session) : Move := p.2.respond (Status.ofOutcome p.1)

/-- Do something with the threadsafe function behind a handle. -/
def withFunction (s : Session) (func : Word) (act : HandleId → ThreadsafeFunction → Move) : Move :=
  match s.functions.entry? ⟨func⟩ with
  | none => s.respond .invalidArg
  | some (f, fn) => act f fn

/-- Add a holder, unless the function is closing. -/
def acquire (s : Session) (f : HandleId) (fn : ThreadsafeFunction) : Outcome × Session :=
  if fn.closing then (.error .closing, s)
  else (.ok (), (s.modifyFunction f (·.acquire)).emit (.acquired f fn.acquire.threadCount))

/-- Mark a function as keeping the event loop alive, or not. -/
def setReferenced (s : Session) (f : HandleId) (on : Bool) : Session :=
  s.modifyFunction f fun fn => { fn with referenced := on }

/-- The runtime's creation of a threadsafe function. -/
def createFunctionEntry (s : Session) (env : Word) (spec : FunctionSpec) (out : Bool) : Move :=
  if !out then s.respond .invalidArg
  else if spec.func = 0 && !spec.callJs then
    (s.log .debug
      (Entry.createThreadsafeFunction.name ++ ": neither func nor call_js_cb given")).respond
      .invalidArg
  else
    let (config, s) := s.readConfig
    s.run (.createFunction env spec config.delivery (s.bindings.get? env)) [.createdResponse]

/-- The runtime's entries. -/
def runtimeEntry (s : Session) (t : ThreadId) (r : Request) : Move :=
  match r with
  | .createAsyncWork env _ _ execute complete data out =>
    if !execute || !complete || !out then s.respond .invalidArg
    else
      let (id, s) := s.createJob env data
      s.give (.response { status := .ok, out := some id.value })
  | .deleteAsyncWork _ work => respondOutcome (s.deleteJob ⟨work⟩)
  | .queueAsyncWork env work => respondOutcome (s.queueJobById t ⟨work⟩ env)
  | .cancelAsyncWork _ work => respondOutcome (s.cancelJobById ⟨work⟩)
  | .createThreadsafeFunction env spec out => s.createFunctionEntry env spec out
  | .getThreadsafeFunctionContext func out =>
    if !out then s.respond .invalidArg
    else
      s.withFunction func fun _ fn =>
        s.give (.response { status := .ok, out := some fn.context })
  | .callThreadsafeFunction func data mode =>
    match CallMode.ofRaw? mode with
    | none => s.respond .invalidArg
    | some m => s.withFunction func fun f _ => s.run (.call f data m) [.outcomeResponse]
  | .acquireThreadsafeFunction func =>
    s.withFunction func fun f fn => respondOutcome (s.acquire f fn)
  | .releaseThreadsafeFunction func mode =>
    match ReleaseMode.ofRaw? mode with
    | none => s.respond .invalidArg
    | some m => s.withFunction func fun f _ => s.run (.release f m) [.outcomeResponse]
  | .refThreadsafeFunction _ func =>
    s.withFunction func fun f _ => (s.setReferenced f true).respond .ok
  | .unrefThreadsafeFunction _ func =>
    s.withFunction func fun f _ => (s.setReferenced f false).respond .ok
  | _ => s.respond .genericFailure

/-- An engine is called: it performs its script first. -/
def engineEntry (s : Session) (slot : Nat) (r : Request) : Move :=
  let s := s.emit (.engine slot r)
  let (actions, s) := s.fire (.engine slot r.entry)
  s.run (.script .callback actions) [.engineScripted slot r]

/-- An engine answers. -/
def engineAnswer (s : Session) (slot : Nat) (r : Request) : Move :=
  let (engines, response, finalizer) := s.engines.answer slot r
  let s := { s with engines := engines }
  match finalizer with
  | none => s.give (.response response)
  | some c => s.run (.finalizer none c.finalizer c.env c.hint) [.thenReply (.response response)]

/-- Call an entry. -/
def entry (s : Session) (t : ThreadId) (p : Provider) (r : Request) : Move :=
  match p with
  | .engine slot => s.engineEntry slot r
  | .runtime => s.runtimeEntry t r
  | .injected =>
    match s.injected.provider? r.entry with
    | some .injected => s.abort
    | some p => s.run (.entry p r)
    | none =>
      (s.log .error (r.entry.name ++ " is not provided by the injected host")).respond
        .genericFailure
  | .multiplexer => s.forward r

end Session

end AddonHost
