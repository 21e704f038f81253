import AddonHost.Session.History
import AddonHost.Session.Run

/-!
Reachable sessions.

A run starts in some environment and goes on in one of three ways: the idle main thread begins an
action, some thread takes a step while no other one is in the middle of an operation, or an invoker
loses a task that it has queued.  Nothing is said about who acts next.  So `Session.Reachable`
covers every order of whole operations, callbacks that perform actions of their own included, and
every invoker that takes, hands back or loses tasks as it likes.  Playing actions is one such run
(`Reachable.settle`, `Reachable.performOnMain`).  `Session.Onward` says where a run may go on to.
-/

namespace AddonHost

namespace Session

/-- Whether the main thread has answered its last action. -/
def MainIdle (s : Session) : Prop :=
  ∃ r, s.threads.get? .main = some { control := .give r, stack := [] }

instance (s : Session) : Decidable s.MainIdle :=
  match h : s.threads.get? .main with
  | some { control := .give r, stack := [] } => isTrue ⟨r, h⟩
  | some { control := .give _, stack := _ :: _ } | some { control := .run _, stack := _ }
  | some { control := .fail, stack := _ } | none => isFalse (by simp [MainIdle, h])

/-- The session after the main thread has performed some actions, if it answers each. -/
def performed? (s : Session) : List Action → Option Session
  | [] => some s
  | a :: rest =>
    match s.threads.get? .main with
    | some { control := .give _, stack := [] } => (s.performOnMain a).performed? rest
    | _ => none

/-- The session so many steps into an action, after the main thread has performed some others, if it
answers each. -/
def during? (s : Session) (actions : List Action) (a : Action) (steps : Nat) : Option Session :=
  (s.performed? actions).bind fun s =>
    match s.threads.get? .main with
    | some { control := .give _, stack := [] } => some ((s.beginAction a).settle steps)
    | _ => none

/-- Whether no thread but one is in the middle of an operation. -/
def OthersAtRest (s : Session) (t : ThreadId) : Prop :=
  ∀ u ∈ s.precedence, u ≠ t → s.isBusy u = false

instance (s : Session) (t : ThreadId) : Decidable (s.OthersAtRest t) :=
  inferInstanceAs (Decidable (∀ u ∈ s.precedence, u ≠ t → s.isBusy u = false))

/-- The session after an invoker has lost the queued task at a position. -/
def loseTask (s : Session) (i : InvokerId) (position : Nat) : Session :=
  match s.invokers.get? i with
  | none => s
  | some inv =>
    match inv.queue.pending[position]? with
    | none => s
    | some sub =>
      ((s.modifyInvoker i fun inv =>
        inv.withQueue { inv.queue with pending := inv.queue.pending.eraseIdx position }).emit
        (.discarded i sub)).signal sub.completion

/-- The sessions that some run of whole operations arrives at. -/
inductive Reachable : Session → Prop where
  | start (vars : Log.Variables) (level : Option Log.Level) : Reachable (Session.start vars level)
  | act {s : Session} (a : Action) : Reachable s → s.MainIdle → Reachable (s.beginAction a)
  | step {s s' : Session} (t : ThreadId) :
    Reachable s → s.OthersAtRest t → s.step t = some s' → Reachable s'
  | lose {s : Session} (i : InvokerId) (position : Nat) :
    Reachable s → Reachable (s.loseTask i position)

/-- The sessions that a run may arrive at when it goes on from a session. -/
inductive Onward (s : Session) : Session → Prop where
  | refl : Onward s s
  | act {s' : Session} (a : Action) : Onward s s' → s'.MainIdle → Onward s (s'.beginAction a)
  | step {s' s'' : Session} (t : ThreadId) :
    Onward s s' → s'.OthersAtRest t → s'.step t = some s'' → Onward s s''
  | lose {s' : Session} (i : InvokerId) (position : Nat) :
    Onward s s' → Onward s (s'.loseTask i position)

/-- The step that is taken next is one that a run may take. -/
theorem exists_step_of_next? {s s' : Session} (h : s.next? = some s') :
    ∃ t, s.OthersAtRest t ∧ s.step t = some s' := by
  unfold next? at h
  split at h
  · next hnone =>
    obtain ⟨t, _, ht⟩ := List.exists_of_findSome?_eq_some h
    refine ⟨t, fun u hu _ => ?_, ht⟩
    have := List.filter_eq_nil_iff.1 hnone u hu
    simpa using this
  · next t hone =>
    refine ⟨t, fun u hu hne => ?_, h⟩
    cases hb : s.isBusy u with
    | false => rfl
    | true =>
      have hmem : u ∈ s.precedence.filter s.isBusy := List.mem_filter.2 ⟨hu, hb⟩
      rw [hone] at hmem
      exact absurd (List.mem_singleton.1 hmem) hne
  · simp at h

namespace Reachable

/-- A run that goes on is a run. -/
theorem onward {s s' : Session} (h : Reachable s) (ho : Onward s s') : Reachable s' := by
  induction ho with
  | refl => exact h
  | act a _ hidle ih => exact ih.act a hidle
  | step t _ hrest ht ih => exact ih.step t hrest ht
  | lose i position _ ih => exact ih.lose i position

theorem next {s s' : Session} (h : Reachable s) (hn : s.next? = some s') : Reachable s' := by
  obtain ⟨t, hrest, ht⟩ := exists_step_of_next? hn
  exact h.step t hrest ht

/-- Letting threads step until none can is part of a run. -/
theorem settle {s : Session} (h : Reachable s) (limit : Nat) : Reachable (s.settle limit) := by
  induction limit generalizing s with
  | zero => exact h
  | succ n ih =>
    unfold Session.settle
    split
    · exact h
    · next hn => exact ih (h.next hn)

/-- Performing an action and settling is part of a run. -/
theorem performOnMain {s : Session} (h : Reachable s) (hidle : s.MainIdle) (a : Action) :
    Reachable (s.performOnMain a) :=
  (h.act a hidle).settle stepLimit

/-- Performing actions, one after the other, is a run. -/
theorem performed? {s s' : Session} {actions : List Action} (h : Reachable s)
    (hs : s.performed? actions = some s') : Reachable s' := by
  induction actions generalizing s with
  | nil =>
    obtain rfl := Option.some.inj hs
    exact h
  | cons a rest ih =>
    unfold Session.performed? at hs
    split at hs
    · next r hr => exact ih (h.performOnMain ⟨r, hr⟩ a) hs
    · simp at hs

/-- A session in the middle of an action. -/
theorem during? {s s' : Session} {actions : List Action} {a : Action} {steps : Nat}
    (h : Reachable s) (hs : s.during? actions a steps = some s') : Reachable s' := by
  obtain ⟨u, hu, hs⟩ := Option.bind_eq_some_iff.1 hs
  split at hs
  · next r hr =>
    obtain rfl := Option.some.inj hs
    exact ((h.performed? hu).act a ⟨r, hr⟩).settle steps
  · simp at hs

end Reachable

end Session

end AddonHost
