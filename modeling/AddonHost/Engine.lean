import AddonHost.Action
import AddonHost.Assoc

/-!
Scripted engines.

The engines stand for the JavaScript engines behind the hosts.  Each entry of each engine has a
status that it returns and a mode; with a status other than `ok` it does nothing else.  Values that
an engine hands out tell the entry and the engine's number, or come from a counter that all engines
share; references are numbered one above their value.  The engines remember the threadsafe
functions that they created, and release runs their finalizers.
-/

namespace AddonHost

/-- What an engine remembers of a threadsafe function. -/
structure EngineFunction where
  finalizer : Option Finalizer
  env : Word
  context : Word
  deriving Inhabited

/-- A finalizer with the env and the hint that it is called with. -/
structure FinalizerCall where
  finalizer : Finalizer
  env : Word
  hint : Word
  deriving Inhabited

/-- The state of all engines. -/
structure Engines where
  settings : Assoc (Nat × Entry) (Status × EngineMode) := []
  /-- How many handles were handed out. -/
  handed : Word := 0
  functions : Assoc Word EngineFunction := []
  deriving Inhabited

namespace Engines

/-- The status and the mode of an entry. -/
def setting (e : Engines) (slot : Nat) (entry : Entry) : Status × EngineMode :=
  (e.settings.get? (slot, entry)).getD (.ok, .normal)

/-- The base of the values that an engine hands out for an entry. -/
def base : Entry → Word
  | .createObject => 0x9000
  | .getUndefined => 0xa000
  | .getGlobal => 0xb000
  | .callFunction => 0xc000
  | .addAsyncCleanupHook => 0x8000
  | .createAsyncWork => 0x6000
  | .createThreadsafeFunction => 0x7000
  | _ => 0

/-- A value that tells the engine. -/
def own (slot : Nat) (entry : Entry) : Word := base entry + slot.toUInt64

/-- A success that writes a value through the out-pointer, if one is passed. -/
def success (out : Bool) (value : Word) : Response :=
  { status := .ok, out := if out then some value else none }

/-- The finalizer of a remembered function as it is called. -/
def EngineFunction.finalizerCall (f : EngineFunction) : Option FinalizerCall :=
  f.finalizer.map fun fin => { finalizer := fin, env := f.env, hint := f.context }

/-- What a call does and returns, and the finalizer that runs before it returns. -/
def answer (e : Engines) (slot : Nat) (r : Request) :
    Engines × Response × Option FinalizerCall :=
  let (status, mode) := e.setting slot r.entry
  let next := e.handed + 1
  if status ≠ .ok then (e, { status := status }, none)
  else
    match r with
    | .createObject _ out | .getUndefined _ out | .getGlobal _ out =>
      (e, success out (own slot r.entry), none)
    | .callFunction _ _ _ _ _ out => (e, success out (own slot r.entry), none)
    | .createReference _ value _ out =>
      (e, success out (if mode = .null then 0 else value + 1), none)
    | .getReferenceValue _ reference out =>
      (e, success out (if mode = .null then 0 else reference - 1), none)
    | .addAsyncCleanupHook _ _ _ out =>
      ({ e with handed := next }, success out (base r.entry + next), none)
    | .createAsyncWork _ _ _ _ _ _ out =>
      ({ e with handed := next }, success out (base r.entry + next), none)
    | .createThreadsafeFunction env spec out =>
      let function := { finalizer := spec.finalizer, env := env, context := spec.context }
      let handle := base r.entry + next
      if mode = .finalize then
        ({ e with handed := next }, success out handle, EngineFunction.finalizerCall function)
      else
        ({ e with handed := next, functions := e.functions.insert handle function },
          success out (if mode = .null then 0 else handle), none)
    | .getThreadsafeFunctionContext func out =>
      match e.functions.get? func with
      | none => (e, { status := .invalidArg }, none)
      | some f => (e, success out f.context, none)
    | .releaseThreadsafeFunction func _ =>
      if mode = .keep then (e, { status := .ok }, none)
      else
        match e.functions.get? func with
        | none => (e, { status := .invalidArg }, none)
        | some f =>
          ({ e with functions := e.functions.erase func }, { status := .ok },
            EngineFunction.finalizerCall f)
    | _ => (e, { status := .ok }, none)

/-- Only the runtime's entries make an engine call a finalizer. -/
theorem finalizerCall_answer (e : Engines) (slot : Nat) {r : Request}
    (h : r.entry.ofRuntime = false) : (e.answer slot r).2.2 = none := by
  unfold answer
  dsimp only
  split
  · rfl
  · cases r <;> simp_all [Request.entry, Entry.ofRuntime]

end Engines

end AddonHost
