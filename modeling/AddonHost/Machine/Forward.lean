import AddonHost.Machine.Move

/-!
Routing by a multiplexer.

A forwarded call finds the raw handle and the host behind its wrapped handle, and then calls the
host's entry of the same name with the raw handle in its place.  `Session.route` finds them, or the
problem (`RouteProblem`) that keeps the call from any host.  Three calls do more: creating a
threadsafe function reserves a wrapped handle first and gives the host a finalizer that forgets it,
and registering and removing a cleanup hook wrap and forget its handle.
-/

namespace AddonHost

/-- Why a call reaches no host. -/
inductive RouteProblem where
  | unknownEnv (env : Word)
  | unknownFunction
  | unknownHook
  | hostGone
  | missingEntry
  deriving DecidableEq, Repr, Inhabited

namespace RouteProblem

/-- The status that the caller gets. -/
def status : RouteProblem → Status
  | unknownEnv _ | unknownFunction | unknownHook => .invalidArg
  | hostGone | missingEntry => .genericFailure

/-- What a diagnostic says of the entry. -/
def complaint : RouteProblem → String
  | unknownEnv env => "called with an unknown env " ++ Word.pointer env
  | unknownFunction => "called with an unknown threadsafe function"
  | unknownHook => "called with an unknown cleanup hook handle"
  | hostGone => "called after host was destroyed"
  | missingEntry => "is not provided by the host"

/-- The diagnostic of a call of an entry. -/
def message (p : RouteProblem) (entry : Entry) : String :=
  "Node-API function '" ++ entry.name ++ "' " ++ p.complaint

end RouteProblem

/-- Where a call goes: the host, and the call with raw handles. -/
structure Destination where
  host : HostId
  table : HostTable
  request : Request

namespace Session

/-- The raw env and the host behind a wrapped env. -/
def findEnv (s : Session) (env : Word) : Except RouteProblem (WrappedEnv × HostTable) :=
  match s.wrapped.envs.get? ⟨env⟩ with
  | none => .error (.unknownEnv env)
  | some e =>
    match s.liveHost? e.host with
    | none => .error .hostGone
    | some table => .ok (e, table)

/-- The raw function and the host behind a wrapped threadsafe function. -/
def findWrappedFunction (s : Session) (func : Word) :
    Except RouteProblem (WrappedFunction × HostTable) :=
  match s.wrapped.functions.get? ⟨func⟩ with
  | none => .error .unknownFunction
  | some f =>
    if f.raw = 0 then .error .unknownFunction
    else
      match s.liveHost? f.host with
      | none => .error .hostGone
      | some table => .ok (f, table)

/-- The raw handle and the host behind a wrapped cleanup hook. -/
def findHook (s : Session) (handle : Word) : Except RouteProblem (WrappedHook × HostTable) :=
  match s.wrapped.hooks.get? ⟨handle⟩ with
  | none => .error .unknownHook
  | some h =>
    match s.liveHost? h.host with
    | none => .error .hostGone
    | some table => .ok (h, table)

/-- Where a call goes. -/
def route (s : Session) (r : Request) : Except RouteProblem Destination :=
  match r.route with
  | .env env => do
    let (e, table) ← s.findEnv env
    return { host := e.host, table := table, request := r.withEnv e.raw }
  | .function func => do
    let (f, table) ← s.findWrappedFunction func
    return { host := f.host, table := table, request := r.withFunction f.raw }
  | .envAndFunction env func => do
    let (e, table) ← s.findEnv env
    let (f, _) ← s.findWrappedFunction func
    return { host := e.host, table := table, request := (r.withEnv e.raw).withFunction f.raw }
  | .hook handle => do
    let (h, table) ← s.findHook handle
    return { host := h.host, table := table, request := .removeAsyncCleanupHook h.raw }

/-- A call that reaches no host. -/
def refuseRoute (s : Session) (entry : Entry) (p : RouteProblem) : Move :=
  (s.log .error (p.message entry)).respond p.status

/-- Forward the creation of a threadsafe function. -/
def forwardCreate (s : Session) (env : Word) (spec : FunctionSpec) (d : Destination)
    (p : Provider) : Move :=
  match s.wrapped.envs.entry? ⟨env⟩ with
  | none => s.refuseRoute .createThreadsafeFunction (.unknownEnv env)
  | some (owner, wrappedEnv) =>
    let (id, s) := s.freshId
    let s := { s with wrapped := s.wrapped.reserveFunction id owner wrappedEnv.host }
    let request := match d.request with
      | .createThreadsafeFunction raw _ out =>
        .createThreadsafeFunction raw
          { spec with finalizer := some (.wrapped id spec.finalizer) } out
      | r => r
    (s.keepHost d.host).run (.entry p request) [.forwardedCreate d.host id]

/-- Forward a call to the host that owns its handle. -/
def forward (s : Session) (r : Request) : Move :=
  match r with
  | .createThreadsafeFunction _ _ false => s.respond .invalidArg
  | _ =>
    match s.route r with
    | .error p => s.refuseRoute r.entry p
    | .ok d =>
      match d.table.provider? r.entry with
      | none => s.refuseRoute r.entry .missingEntry
      | some p =>
        match r with
        | .createThreadsafeFunction env spec _ => s.forwardCreate env spec d p
        | .addAsyncCleanupHook env _ _ out =>
          (s.keepHost d.host).run (.entry p d.request) [.forwardedHook d.host env out]
        | .removeAsyncCleanupHook handle =>
          (s.keepHost d.host).run (.entry p d.request) [.forwardedUnhook d.host handle]
        | _ => (s.keepHost d.host).run (.entry p d.request) [.forwarded d.host]

/-- The host has answered a forwarded creation: bind the wrapped handle, or forget it. -/
def afterForwardCreate (s : Session) (host : HostId) (id : HandleId) (r : Response) : Move :=
  let s := s.releaseHost host
  if r.status = .ok then
    { s with wrapped := s.wrapped.bindFunction id (r.out.getD 0) }.give
      (.response { status := r.status, out := some id.value })
  else { s with wrapped := s.wrapped.eraseFunction id }.give (.response r)

/-- The host has answered the registration of a cleanup hook: wrap its handle, unless the env is
gone by now. -/
def afterForwardHook (s : Session) (host : HostId) (env : Word) (out : Bool) (r : Response) :
    Move :=
  let s := s.releaseHost host
  if r.status = .ok && out then
    match s.wrapped.envs.entry? ⟨env⟩ with
    | none => s.give (.response r)
    | some (owner, e) =>
      let (id, s) := s.freshId
      { s with wrapped := s.wrapped.wrapHook id owner (r.out.getD 0) e.host }.give
        (.response { status := r.status, out := some id.value })
  else s.give (.response r)

/-- The host has answered the removal of a cleanup hook: forget its handle. -/
def afterForwardUnhook (s : Session) (host : HostId) (handle : Word) (r : Response) : Move :=
  let s := s.releaseHost host
  if r.status = .ok then
    { s with wrapped := s.wrapped.eraseHook ⟨handle⟩ }.give (.response r)
  else s.give (.response r)

end Session

end AddonHost
