import AddonHost.Machine.Entry
import AddonHost.Machine.Fatal
import AddonHost.Perform.Basic

/-!
Performing actions on hosts, multiplexers, the injected table and entries.
-/

namespace AddonHost

namespace Session

/-- Lay tables over a table, in order; nothing if one of them is unknown. -/
def overlayAll (s : Session) (base : HostTable) : List String → Option HostTable
  | [] => some base
  | name :: rest => do
    let upper ← s.findTable? name
    s.overlayAll (base.overlay upper) rest

/-- Create a host. -/
def createHost (s : Session) (name : String) (slot : Nat) (entries : List Entry)
    (overlays : List String) : Move :=
  match s.overlayAll (.ofEngine slot entries) overlays with
  | none => s.refuse .unknownTable
  | some table =>
    let h := s.hosts.length
    let old := s.names.hosts.get? name
    let s := { s with
      hosts := s.hosts.insert h { table := table }
      names := { s.names with hosts := s.names.hosts.insert name h } }
    let s := match old with
      | none => s
      | some h => s.releaseHost h
    s.reply (.table table)

/-- Let go of a host. -/
def dropHost (s : Session) (name : String) : Move :=
  match s.names.hosts.get? name with
  | none => s.reply (.flag false)
  | some h =>
    ({ s with names := { s.names with hosts := s.names.hosts.erase name } }.releaseHost h).reply
      (.flag true)

/-- Replace the injected table. -/
def injectTable (s : Session) (table : HostTable) : Session :=
  let s := s.log .debug ("injecting host with " ++ Nat.repr table.provided ++ " entries")
  { s with injected := table }

/-- Inject a table, or the empty one. -/
def inject (s : Session) (name : Option String) : Move :=
  match name with
  | none => (s.injectTable .empty).reply .done
  | some name =>
    s.withTable name fun table => (s.injectTable table).reply .done

/-- Inject a table with the runtime's entries laid over it. -/
def install (s : Session) (name : String) : Move :=
  s.withTable name fun engine =>
    let s := { s with logger := s.logger.settle s.environment }
    let table := engine.overlay .runtime
    let missing := table.missing
    let s :=
      if missing.isEmpty then s
      else
        s.log .debug ("installed host is missing " ++ Nat.repr missing.length ++ " entries: " ++
          Text.quoteList missing)
    (s.injectTable table).reply (.table table)

/-- The engine behind a multiplexer's own registration and fatal error entries. -/
def multiplexerSlot : Nat := 3

/-- Erase the envs that a multiplexer has wrapped. -/
def eraseEnvs (s : Session) (m : MultiplexerHandle) : Session :=
  { s with wrapped := m.envs.foldl Wrapped.eraseEnv s.wrapped }

/-- Create a multiplexer; the one that had its name is dropped. -/
def createMultiplexer (s : Session) (name : String) (register fatal : Bool) : Move :=
  let provider (on : Bool) : Option Provider := if on then some (.engine multiplexerSlot) else none
  let table := HostTable.ofMultiplexer (provider register) (provider fatal)
  let old := s.names.multiplexers.get? name
  let s := { s with
    names := { s.names with multiplexers := s.names.multiplexers.insert name { table := table } } }
  let s := match old with
    | none => s
    | some m => s.eraseEnvs m
  s.reply .done

/-- Drop a multiplexer, and with it every handle that it has handed out. -/
def dropMultiplexer (s : Session) (name : String) : Move :=
  match s.names.multiplexers.get? name with
  | none => s.reply (.flag false)
  | some m =>
    ({ s with
      names := { s.names with multiplexers := s.names.multiplexers.erase name } }.eraseEnvs m).reply
      (.flag true)

/-- Wrap the env of a host. -/
def wrapEnv (s : Session) (multiplexer host : String) (env : Ref) (out : String) : Move :=
  match s.names.multiplexers.get? multiplexer, s.names.hosts.get? host with
  | some m, some h =>
    let raw := s.value env
    let (id, s) := s.freshId
    let m := { m with envs := m.envs ++ [id] }
    let s := { s with
      wrapped := s.wrapped.wrapEnv id raw h
      names := { s.names with multiplexers := s.names.multiplexers.insert multiplexer m } }
    let s := s.log .debug ("wrapped env " ++ Word.pointer raw ++ " as " ++ id.text)
    (s.setVariable out id.value).reply (.word id.value)
  | _, _ => s.refuse .unknownMultiplexerOrHost

/-- The finalizer that an addon passes, if it passes one. -/
def extensionFinalizer (on : Bool) (data : Word) : Option Finalizer :=
  if on then some (.extension data) else none

/-- The call of a status-returning entry with given arguments. -/
def buildRequest (s : Session) (e : Entry) (a : EntryArgs) : Option Request :=
  let v := s.value
  let out := a.out.isSome
  match e with
  | .createObject => some (.createObject (v a.env) out)
  | .getUndefined => some (.getUndefined (v a.env) out)
  | .getGlobal => some (.getGlobal (v a.env) out)
  | .callFunction => some (.callFunction (v a.env) (v a.recv) (v a.func) (v a.argc) true out)
  | .createReference =>
    some (.createReference (v a.env) (v a.value) (v a.count).toUInt32.toUInt64 out)
  | .deleteReference => some (.deleteReference (v a.env) (v a.reference))
  | .getReferenceValue => some (.getReferenceValue (v a.env) (v a.reference) out)
  | .addEnvCleanupHook => some (.addEnvCleanupHook (v a.env) a.hook (v a.data))
  | .removeEnvCleanupHook => some (.removeEnvCleanupHook (v a.env) a.hook (v a.data))
  | .addAsyncCleanupHook => some (.addAsyncCleanupHook (v a.env) a.hook (v a.data) out)
  | .removeAsyncCleanupHook => some (.removeAsyncCleanupHook (v a.handle))
  | .createAsyncWork =>
    some (.createAsyncWork (v a.env) (v a.resource) (v a.resourceName) a.execute a.complete
      (v a.data) out)
  | .deleteAsyncWork => some (.deleteAsyncWork (v a.env) (v a.work))
  | .queueAsyncWork => some (.queueAsyncWork (v a.env) (v a.work))
  | .cancelAsyncWork => some (.cancelAsyncWork (v a.env) (v a.work))
  | .createThreadsafeFunction =>
    some (.createThreadsafeFunction (v a.env)
      { func := v a.func
        maxQueueSize := v a.max
        threadCount := v a.threads
        finalizer := extensionFinalizer a.finalize (v a.data)
        context := v a.context
        callJs := a.callJs } out)
  | .getThreadsafeFunctionContext => some (.getThreadsafeFunctionContext (v a.func) out)
  | .callThreadsafeFunction => some (.callThreadsafeFunction (v a.func) (v a.data) a.mode)
  | .acquireThreadsafeFunction => some (.acquireThreadsafeFunction (v a.func))
  | .releaseThreadsafeFunction => some (.releaseThreadsafeFunction (v a.func) a.mode)
  | .refThreadsafeFunction => some (.refThreadsafeFunction (v a.env) (v a.func))
  | .unrefThreadsafeFunction => some (.unrefThreadsafeFunction (v a.env) (v a.func))
  | .moduleRegister | .fatalError => none

/-- Call an entry of a table.  A forwarder that is itself injected has nobody to forward to, and the
call is refused. -/
def callEntry (s : Session) (name : String) (e : Entry) (a : EntryArgs) : Move :=
  s.withTable name fun table =>
    if e = .fatalError && name = "weak" then s.fatalEntry .injected a.location a.message
    else if table.forwards e && s.injected.forwards e then s.refuse .forwardsToItself
    else
      match table.provider? e with
      | none => s.reply .noEntry
      | some p =>
        match s.buildRequest e a with
        | some r =>
          if e = .callThreadsafeFunction && a.mode = CallMode.blocking.raw &&
              s.callWouldWait ⟨s.value a.func⟩ then s.refuse .wouldBlock
          else s.run (.entry p r) [.responseAnswer a.out]
        | none =>
          if e = .moduleRegister then
            s.run (.register p (s.value a.moduleHandle)) [.responseAnswer a.out]
          else
            let m := s.fatalEntry p a.location a.message
            { m with frames := m.frames ++ [.responseAnswer a.out] }

end Session

end AddonHost
