import AddonHost.Proofs.Session.Observed
import AddonHost.Proofs.Session.Onward

/-!
What a function says to the injected host.

A threadsafe function calls the injected host when it is created, for its deliveries and in its
teardown.  A call is the function's if the code that makes it, or the frame that goes on to make it,
is a part of the function (`Thread.function?`).  `Session.Talks` is a run with what passes between
one function and the host on the way: each call, with what the journal tells of the function by
then, and the response to the call that creates the function's reference.  `references` are the
calls that are about a reference.
-/

namespace AddonHost

/-- The function that a piece of code is a part of; one that is being created takes the id that is
next. -/
def Code.function? (next : HandleId) : Code → Option HandleId
  | .createFunction .. => some next
  | .call f .. | .awaitSpace f _ | .release f _ | .deliver f _ | .teardown f
  | .finalizer (some f) .. | .task _ (.drain f) | .task _ (.teardown f) => some f
  | _ => none

/-- The function that a frame is a part of. -/
def Frame.function? (next : HandleId) : Frame → Option HandleId
  | .referenced .. => some next
  | .gotFunction f _ | .gotReceiver f _ | .gotResult f | .drained f _ | .finalized f
  | .unreferenced f => some f
  | _ => none

/-- The function that the next step of a thread is a part of. -/
def Thread.function? (next : HandleId) (th : Thread) : Option HandleId :=
  match th.control, th.stack with
  | .run c, _ => c.function? next
  | _, fr :: _ => fr.function? next
  | _, [] => none

/-- The response to the call that creates a reference, if the thread is about to hand it on. -/
def Thread.referred? (th : Thread) : Option Response :=
  match th.control, th.stack with
  | .give r, .referenced .. :: _ => some r.toResponse
  | _, _ => none

/-- The call of the injected host that is made. -/
def Control.called? : Control → Option Request
  | .run (.entry .injected r) => some r
  | _ => none

/-- Whether a call is about a reference. -/
def Request.isReference : Request → Bool
  | .createReference .. | .getReferenceValue .. | .deleteReference .. => true
  | _ => false

/-- What passes between a function and the injected host. -/
inductive Exchange where
  /-- The function calls the host; what the journal tells of the function by then. -/
  | asked (request : Request) (told : List Mark)
  /-- The host has answered the call that creates the function's reference. -/
  | referred (response : Response)

/-- A call that is about a reference, with what the journal tells of the function by then. -/
def Exchange.reference? : Exchange → Option (Request × List Mark)
  | asked r told => if r.isReference then some (r, told) else none
  | referred _ => none

/-- The calls that are about a reference, in the order in which they were made. -/
def references (talk : List Exchange) : List (Request × List Mark) :=
  talk.filterMap Exchange.reference?

@[simp] theorem references_append (talk talk' : List Exchange) :
    references (talk ++ talk') = references talk ++ references talk' := List.filterMap_append

/-- The call about a reference that a move makes. -/
def Move.refers? (m : Move) : Option Request := m.control.called?.filter Request.isReference

namespace Session

variable {s s' : Session} {t : ThreadId} {f : HandleId} {th : Thread} {m : Move}
  {below : List Frame} {talk : List Exchange}

/-- What passes between a function and the injected host when a thread steps. -/
def exchanges (s : Session) (t : ThreadId) (s' : Session) (f : HandleId) : List Exchange :=
  match s.threads.get? t, s'.threads.get? t with
  | some th, some th' =>
    if th.function? ⟨s.ids.next⟩ = some f then
      (th.referred?.map Exchange.referred).toList ++
        (th'.control.called?.map fun r => Exchange.asked r (s.marks f)).toList
    else []
  | _, _ => []

/-- A run goes on, and this passes between a function and the injected host on the way. -/
inductive Talks (s : Session) (f : HandleId) : List Exchange → Session → Prop where
  | refl : Talks s f [] s
  | act {talk : List Exchange} {s' : Session} (a : Action) :
    Talks s f talk s' → s'.MainIdle → Talks s f talk (s'.beginAction a)
  | step {talk : List Exchange} {s' s'' : Session} (t : ThreadId) :
    Talks s f talk s' → s'.OthersAtRest t → s'.step t = some s'' →
    Talks s f (talk ++ s'.exchanges t s'' f) s''
  | lose {talk : List Exchange} {s' : Session} (i : InvokerId) (position : Nat) :
    Talks s f talk s' → Talks s f talk (s'.loseTask i position)

theorem Talks.onward (h : s.Talks f talk s') : s.Onward s' := by
  induction h with
  | refl => exact .refl
  | act a _ hidle ih => exact ih.act a hidle
  | step t _ hrest hstep ih => exact ih.step t hrest hstep
  | lose i position _ ih => exact ih.lose i position

/-- The session after at most so many steps of the main thread, and what passes meanwhile between a
function and the injected host. -/
def talking (s : Session) (f : HandleId) : (limit : Nat) → List Exchange × Session
  | 0 => ([], s)
  | limit + 1 =>
    match s.step .main with
    | none => ([], s)
    | some s' =>
      if s.OthersAtRest .main then
        let (talk, s'') := s'.talking f limit
        (s.exchanges .main s' f ++ talk, s'')
      else ([], s)

/-- The session after the main thread has performed some actions, one after the other, if it answers
each, and what passes meanwhile between a function and the injected host. -/
def talkingThrough? (s : Session) (f : HandleId) (limit : Nat) :
    List Action → Option (List Exchange × Session)
  | [] => some (s.talking f limit)
  | a :: rest =>
    let (talk, s') := s.talking f limit
    if s'.MainIdle then
      ((s'.beginAction a).talkingThrough? f limit rest).map fun p => (talk ++ p.1, p.2)
    else none

theorem Talks.talking (h : s.Talks f talk s') (limit : Nat) :
    s.Talks f (talk ++ (s'.talking f limit).1) (s'.talking f limit).2 := by
  induction limit generalizing talk s' with
  | zero => simpa [Session.talking] using h
  | succ n ih =>
    unfold Session.talking
    split
    · simpa using h
    · next s'' hstep =>
      split_ifs with hrest
      · simpa using ih (h.step .main hrest hstep)
      · simpa using h

/-- Performing actions, one after the other, is a run. -/
theorem Talks.talkingThrough? {limit : Nat} {actions : List Action} {p : List Exchange × Session}
    (h : s.Talks f talk s') (hp : s'.talkingThrough? f limit actions = some p) :
    s.Talks f (talk ++ p.1) p.2 := by
  induction actions generalizing talk s' p with
  | nil =>
    obtain rfl := Option.some.inj hp
    exact h.talking limit
  | cons a rest ih =>
    unfold Session.talkingThrough? at hp
    dsimp only at hp
    split_ifs at hp with hidle
    · obtain ⟨p', hp', rfl⟩ := Option.map_eq_some_iff.1 hp
      simpa using ih ((h.talking limit).act a hidle) hp'

/-- What passes when a thread makes a move that is a part of the function. -/
theorem exchanges_apply (hth : s.threads.get? t = some th)
    (hf : th.function? ⟨s.ids.next⟩ = some f) :
    s.exchanges t (apply m t below) f
      = (th.referred?.map Exchange.referred).toList ++
        (m.control.called?.map fun r => Exchange.asked r (s.marks f)).toList := by
  simp [exchanges, hth, hf, threads_apply]

/-- Nothing passes when a thread makes a move that is no part of the function. -/
theorem exchanges_eq_nil (hth : s.threads.get? t = some th)
    (hf : th.function? ⟨s.ids.next⟩ ≠ some f) : s.exchanges t s' f = [] := by
  cases hth' : s'.threads.get? t <;> simp [exchanges, hth, hth', hf]

/-- The call about a reference that a move makes which is a part of the function. -/
theorem references_exchanges (hth : s.threads.get? t = some th)
    (hf : th.function? ⟨s.ids.next⟩ = some f) :
    references (s.exchanges t (apply m t below) f)
      = (m.refers?.map fun r => (r, s.marks f)).toList := by
  have hreferred : references (th.referred?.map Exchange.referred).toList = [] := by
    cases th.referred? <;> rfl
  rw [exchanges_apply hth hf, references_append, hreferred, List.nil_append, Move.refers?]
  cases m.control.called? with
  | none => rfl
  | some r =>
    cases hr : r.isReference <;> simp [references, Exchange.reference?, Option.filter, hr]

end Session

end AddonHost
