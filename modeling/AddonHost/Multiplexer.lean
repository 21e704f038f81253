import AddonHost.Registry
import AddonHost.Thread

/-!
Wrapped handles.

A multiplexer routes calls to one of several hosts.  It hands out ids of its own in place of the
hosts' handles: a wrapped env pairs a raw env with its host, and threadsafe functions and cleanup
hooks that are created through a wrapped env are wrapped as well and listed by it.  Erasing an env
erases everything that it lists; erasing a function or a hook takes it off the list of its env.

A function is reserved before its host has created it, so that the host's finalizer can name it;
until `bindFunction` its raw handle is null.
-/

namespace AddonHost

/-- A raw env with its host, and what was created through it. -/
structure WrappedEnv where
  raw : Word
  host : HostId
  functions : List HandleId := []
  hooks : List HandleId := []
  deriving DecidableEq, Repr, Inhabited

/-- A raw threadsafe function; null until the host has created it. -/
structure WrappedFunction where
  raw : Word := 0
  env : HandleId
  host : HostId
  deriving DecidableEq, Repr, Inhabited

/-- A raw cleanup hook handle. -/
structure WrappedHook where
  raw : Word
  env : HandleId
  host : HostId
  deriving DecidableEq, Repr, Inhabited

/-- The wrapped handles of all multiplexers. -/
structure Wrapped where
  envs : Registry WrappedEnv := {}
  functions : Registry WrappedFunction := {}
  hooks : Registry WrappedHook := {}
  deriving Inhabited

namespace Wrapped

/-- Wrap a raw env of a host under a fresh id. -/
def wrapEnv (m : Wrapped) (id : HandleId) (raw : Word) (host : HostId) : Wrapped :=
  { m with envs := m.envs.insert id { raw := raw, host := host } }

/-- Erase an env and all that was created through it. -/
def eraseEnv (m : Wrapped) (id : HandleId) : Wrapped :=
  match (m.envs.find? id).bind m.envs.object? with
  | none => m
  | some env =>
    { envs := m.envs.erase id
      functions := env.functions.foldl Registry.erase m.functions
      hooks := env.hooks.foldl Registry.erase m.hooks }

/-- Reserve a function under a fresh id, listed by a live env of the given host. -/
def reserveFunction (m : Wrapped) (id env : HandleId) (host : HostId) : Wrapped :=
  { m with
    functions := m.functions.insert id { env := env, host := host }
    envs := m.envs.modify env fun e => { e with functions := e.functions ++ [id] } }

/-- Give a reserved function the raw handle that its host created, unless it is erased by now. -/
def bindFunction (m : Wrapped) (id : HandleId) (raw : Word) : Wrapped :=
  match m.functions.find? id with
  | none => m
  | some id => { m with functions := m.functions.modify id fun f => { f with raw := raw } }

/-- Change a registered env. -/
def modifyEnv (m : Wrapped) (id : HandleId) (f : WrappedEnv → WrappedEnv) : Wrapped :=
  match m.envs.find? id with
  | none => m
  | some id => { m with envs := m.envs.modify id f }

/-- Erase a function. -/
def eraseFunction (m : Wrapped) (id : HandleId) : Wrapped :=
  match (m.functions.find? id).bind m.functions.object? with
  | none => m
  | some f =>
    { m with functions := m.functions.erase id }.modifyEnv f.env fun e =>
      { e with functions := e.functions.filter fun own => own.value != id.value }

/-- Wrap a raw hook handle under a fresh id, listed by a live env. -/
def wrapHook (m : Wrapped) (id env : HandleId) (raw : Word) (host : HostId) : Wrapped :=
  { m with
    hooks := m.hooks.insert id { raw := raw, env := env, host := host }
    envs := m.envs.modify env fun e => { e with hooks := e.hooks ++ [id] } }

/-- Erase a hook handle. -/
def eraseHook (m : Wrapped) (id : HandleId) : Wrapped :=
  match (m.hooks.find? id).bind m.hooks.object? with
  | none => m
  | some h =>
    { m with hooks := m.hooks.erase id }.modifyEnv h.env fun e =>
      { e with hooks := e.hooks.filter fun own => own.value != id.value }

end Wrapped

end AddonHost
