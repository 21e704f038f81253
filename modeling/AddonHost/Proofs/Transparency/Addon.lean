import Mathlib
import AddonHost.Session.State

/-!
Addons with and without a multiplexer.

An addon calls the runtime's entries either through a multiplexer, with wrapped envs and wrapped
functions, or directly, with raw ones.  An `Addon` tells what its variables hold, and
`Addon.Counterpart` relates what it does through a multiplexer (the routed action) to what it does
directly.  Callbacks are related in the same way, so the nested actions of a script are part of it.

Both ways hand out handles of their own.  A list of `Pair`s tells which handles stand for the same
function or the same job; `Pair.Match` compares values by it, and `Event.Alike` and
`Addon.AlikeAnswers` compare what the addon sees.
-/

namespace AddonHost

/-- What a variable of an addon holds. -/
inductive VariableKind where
  | data
  /-- A wrapped env that stands for a raw one. -/
  | env (raw : Word)
  /-- A threadsafe function. -/
  | function
  /-- A job. -/
  | job
  deriving DecidableEq

/-- An addon, as far as both ways of calling need it. -/
structure Addon where
  /-- The multiplexers that it calls. -/
  calls : String → Prop
  /-- The hosts that its envs belong to. -/
  hosts : HostId → Prop
  /-- What its variables hold. -/
  kind : String → VariableKind

/-- What the runtime writes through the out-pointer of an entry. -/
def Entry.outKind : Entry → VariableKind
  | .createThreadsafeFunction => .function
  | .createAsyncWork => .job
  | _ => .data

namespace Addon

variable (A : Addon)

/-- A reference to a value that is no handle. -/
def IsData : Ref → Prop
  | .word _ | .written .. => True
  | .named name => A.kind name = .data

/-- A reference to a threadsafe function. -/
def IsFunction (r : Ref) : Prop := ∃ name, r = .named name ∧ A.kind name = .function

/-- A reference to a job. -/
def IsJob (r : Ref) : Prop := ∃ name, r = .named name ∧ A.kind name = .job

/-- References to a wrapped env and to the raw env that it stands for. -/
def AreEnvs (r r' : Ref) : Prop := ∃ name raw, r = .named name ∧ A.kind name = .env raw ∧ r' = .word raw

/-- What an entry needs of its arguments: the routed call `a` and the direct call `a'` differ in the
env alone, handles stand where handles are expected, and the out-pointer fits. -/
structure Args (e : Entry) (a a' : EntryArgs) : Prop where
  same : a' = { a with env := a'.env }
  out : ∀ name, a.out = some name → A.kind name = e.outKind
  env : e ∈ [.createAsyncWork, .deleteAsyncWork, .queueAsyncWork, .cancelAsyncWork,
    .createThreadsafeFunction, .refThreadsafeFunction, .unrefThreadsafeFunction] →
    A.AreEnvs a.env a'.env
  data : e ∈ [.createAsyncWork, .createThreadsafeFunction, .callThreadsafeFunction] → A.IsData a.data
  work : e ∈ [.deleteAsyncWork, .queueAsyncWork, .cancelAsyncWork] → A.IsJob a.work
  created : e = .createThreadsafeFunction →
    A.IsData a.func ∧ A.IsData a.max ∧ A.IsData a.threads ∧ A.IsData a.context
  func : e ∈ [.getThreadsafeFunctionContext, .callThreadsafeFunction, .acquireThreadsafeFunction,
    .releaseThreadsafeFunction, .refThreadsafeFunction, .unrefThreadsafeFunction] →
    A.IsFunction a.func

/-- A callback of the addon. -/
def IsTarget : ScriptTarget → Prop
  | .callJs data | .finalize data | .execute data | .complete data => A.IsData data
  | .engine .. => False

/-- What an addon and its embedder do through a multiplexer, and the same done directly: calls of
the runtime's entries, bindings, pumps, and the setting up of callbacks that do such things. -/
inductive Counterpart : Action → Action → Prop where
  | entry {table : String} {e : Entry} {a a' : EntryArgs} (htable : A.calls table)
    (he : e.ofRuntime = true) (ha : A.Args e a a') :
    Counterpart (.entry table e a) (.entry "abi" e a')
  | bind {env : Ref} (invoker : String) (henv : A.IsData env) :
    Counterpart (.bind env invoker) (.bind env invoker)
  | attach {env : Ref} (invoker : String) (henv : A.IsData env) :
    Counterpart (.attach env invoker) (.attach env invoker)
  | unbind {env : Ref} (henv : A.IsData env) : Counterpart (.unbind env) (.unbind env)
  | detach {env : Ref} (henv : A.IsData env) : Counterpart (.detach env) (.detach env)
  | pump (invoker : String) (goal : PumpGoal) : Counterpart (.pump invoker goal) (.pump invoker goal)
  | script {target : ScriptTarget} {actions actions' : List Action} (htarget : A.IsTarget target)
    (hactions : List.Forall₂ Counterpart actions actions') :
    Counterpart (.script target actions) (.script target actions')

end Addon

/-! ### The same up to handles -/

/-- Two handles that stand for the same thing. -/
inductive Pair where
  /-- The wrapped handle of a function and its raw one, and the handle of the same function when it
  is created directly. -/
  | function (wrapped raw direct : HandleId)
  /-- The handles of a job that is created through a multiplexer and directly. -/
  | job (routed direct : HandleId)

/-- Values of variables that stand for the same. -/
def Pair.Match (pairs : List Pair) : VariableKind → Word → Word → Prop
  | .data, v, v' => v = v'
  | .env _, _, _ => True
  | .function, v, v' =>
    v = 0 ∧ v' = 0 ∨ ∃ w f f', .function w f f' ∈ pairs ∧ v = w.value ∧ v' = f'.value
  | .job, v, v' => v = 0 ∧ v' = 0 ∨ ∃ j j', .job j j' ∈ pairs ∧ v = j.value ∧ v' = j'.value

theorem Pair.Match.mono {pairs pairs' : List Pair} (hsub : pairs ⊆ pairs') {kind : VariableKind}
    {v v' : Word} (h : Match pairs kind v v') : Match pairs' kind v v' := by
  cases kind with
  | data | env raw => exact h
  | function =>
    obtain hnull | ⟨w, f, f', hmem, hv⟩ := h
    · exact .inl hnull
    · exact .inr ⟨w, f, f', hsub hmem, hv⟩
  | job =>
    obtain hnull | ⟨j, j', hmem, hv⟩ := h
    · exact .inl hnull
    · exact .inr ⟨j, j', hsub hmem, hv⟩

/-- Pairs that rename handles: none of them stands for two others. -/
structure Pair.Renaming (pairs : List Pair) : Prop where
  wrapped : ∀ {w f f' w₂ f₂ f₂' : HandleId}, .function w f f' ∈ pairs → .function w₂ f₂ f₂' ∈ pairs →
    (w = w₂ ↔ f = f₂)
  functions : ∀ {w f f' w₂ f₂ f₂' : HandleId}, .function w f f' ∈ pairs →
    .function w₂ f₂ f₂' ∈ pairs → (f = f₂ ↔ f' = f₂')
  jobs : ∀ {j j' j₂ j₂' : HandleId}, .job j j' ∈ pairs → .job j₂ j₂' ∈ pairs → (j = j₂ ↔ j' = j₂')

/-- Answers of counterparts: the status and the value of an entry's out-pointer are the same, and so
is any other answer. -/
def Addon.AlikeAnswers (pairs : List Pair) : Action → Answer → Answer → Prop
  | .entry _ e _, r, r' => ∃ status out out', r = .response status out ∧ r' = .response status out' ∧
    Option.Rel (Pair.Match pairs e.outKind) out out'
  | _, r, r' => r = r'

theorem Addon.AlikeAnswers.mono {pairs pairs' : List Pair} (hsub : pairs ⊆ pairs') {a : Action}
    {r r' : Answer} (h : AlikeAnswers pairs a r r') : AlikeAnswers pairs' a r r' := by
  cases a with
  | entry table e args =>
    obtain ⟨status, out, out', hr, hr', hout⟩ := h
    refine ⟨status, out, out', hr, hr', ?_⟩
    cases hout with
    | none => exact .none
    | some hv => exact .some (hv.mono hsub)
  | _ => exact h

namespace Event

/-- Whether an event is seen by the addon or by an engine. -/
def isSeen : Event → Bool
  | log .. => false
  | e => e.isPublic

/-- Events of the two runs that are the same up to handles: callbacks get the same env, data and
context. -/
inductive Alike (A : Addon) (pairs : List Pair) : Event → Event → Prop where
  | callJs {w f f' : HandleId} (env func context data : Word) (h : .function w f f' ∈ pairs) :
    Alike A pairs (.callJs f env func context data) (.callJs f' env func context data)
  | finalize (env data hint : Word) : Alike A pairs (.finalize env data hint) (.finalize env data hint)
  | execute {j j' : HandleId} (env data : Word) (h : .job j j' ∈ pairs) :
    Alike A pairs (.execute j env data) (.execute j' env data)
  | complete {j j' : HandleId} (env : Word) (status : Status) (data : Word) (h : .job j j' ∈ pairs) :
    Alike A pairs (.complete j env status data) (.complete j' env status data)
  | engine (slot : Nat) (r : Request) : Alike A pairs (.engine slot r) (.engine slot r)
  | engineFatal (slot : Nat) (location message : RawText) :
    Alike A pairs (.engineFatal slot location message) (.engineFatal slot location message)
  | did {a a' : Action} {r r' : Answer} (ha : A.Counterpart a a')
    (hr : Addon.AlikeAnswers pairs a r r') : Alike A pairs (.did a r) (.did a' r')

theorem Alike.mono {A : Addon} {pairs pairs' : List Pair} (hsub : pairs ⊆ pairs') {e e' : Event}
    (h : Alike A pairs e e') : Alike A pairs' e e' := by
  cases h with
  | callJs env func context data h => exact .callJs env func context data (hsub h)
  | finalize env data hint => exact .finalize env data hint
  | execute env data h => exact .execute env data (hsub h)
  | complete env status data h => exact .complete env status data (hsub h)
  | engine slot r => exact .engine slot r
  | engineFatal slot location message => exact .engineFatal slot location message
  | did ha hr => exact .did ha (hr.mono hsub)

end Event

end AddonHost
