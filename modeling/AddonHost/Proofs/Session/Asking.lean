import AddonHost.Proofs.Session.Guarded

/-!
Questions to an engine.

A delivery asks the engine for the function behind the reference and for the receiver, and waits for
the answers.  An engine may perform a script before it answers, but as long as engines are silent
(`Session.EnginesSilent`) a thread that has asked does nothing else until it has its answer
(`Thread.isAnswering`): it is not between two operations, and every move that it makes is plain.
-/

namespace AddonHost

/-- No engine was ever given a script: its entries do not call back. -/
def Session.EnginesSilent (s : Session) : Prop :=
  ∀ slot e, s.scripts.get? (.engine slot e) = none

/-- Engines are silent if no callback that has a script is one of theirs. -/
theorem Session.enginesSilent_of_keys {s : Session}
    (h : ∀ key ∈ s.scripts.map Prod.fst, ∀ slot e, key ≠ .engine slot e) : s.EnginesSilent := by
  intro slot e
  cases hget : s.scripts.get? (.engine slot e) with
  | none => rfl
  | some scripts =>
    exact absurd rfl (h _ (List.mem_map_of_mem (Assoc.mem_of_get? hget)) slot e)

/-- Whether a call is one of those that a delivery waits for. -/
def Request.isQuestion : Request → Bool
  | .getReferenceValue .. | .getUndefined .. => true
  | _ => false

/-- Whether a frame is a delivery that waits for an answer. -/
def Frame.asks : Frame → Bool
  | .gotFunction .. | .gotReceiver .. => true
  | _ => false

/-- Whether a frame hands the answer to a question on. -/
def Frame.isLink : Frame → Bool
  | .engineScripted _ r => r.isQuestion
  | .forwarded _ => true
  | _ => false

/-- Whether the first delivery among the frames that waits for an answer is the only one, and the
frames above it hand the answer on. -/
def answering : List Frame → Bool
  | [] => false
  | fr :: below => if fr.asks then !below.any Frame.asks else fr.isLink && answering below

/-- Whether a thread does nothing but answer a question. -/
def Thread.isAnswering (th : Thread) : Bool :=
  match th.control, th.stack with
  | .run (.entry _ r), stack => r.isQuestion && answering stack
  | .run (.script .callback []), .engineScripted _ r :: below => r.isQuestion && answering below
  | .give _, stack => answering stack
  | _, _ => false

/-- Whether a thread that makes a move above frames goes on answering a question. -/
def Move.answers (m : Move) (below : List Frame) : Bool :=
  Thread.isAnswering { control := m.control, stack := m.frames ++ below }

/-- Whether new frames wait for an answer only above the question. -/
def asksWell (control : Control) (frames : List Frame) : Bool :=
  !frames.any Frame.asks ||
    match control, frames with
    | .run (.entry _ r), [_] => r.isQuestion
    | _, _ => false

namespace Thread

variable {th : Thread}

/-- A thread that has to answer a question is in the middle of an operation. -/
theorem atRest_of_isAnswering (h : th.isAnswering = true) : th.atRest = false := by
  obtain ⟨control, stack⟩ := th
  unfold isAnswering at h
  split at h
  · next hc =>
    obtain rfl : control = _ := hc
    rfl
  · next hc hst =>
    obtain rfl : control = _ := hc
    obtain rfl : stack = _ := hst
    rfl
  · next hc =>
    obtain rfl : control = _ := hc
    cases stack with
    | nil => simp [answering] at h
    | cons fr below => rfl
  · simp at h

end Thread

theorem asks_of_isPlain {frames : List Frame} (h : frames.all Frame.isPlain = true) :
    frames.any Frame.asks = false := by
  rw [List.any_eq_false]
  intro fr hfr
  have := List.all_eq_true.1 h fr hfr
  cases fr <;> simp_all [Frame.isPlain, Frame.asks]

theorem asksWell_of_isPlain (control : Control) {frames : List Frame}
    (h : frames.all Frame.isPlain = true) : asksWell control frames = true := by
  simp [asksWell, asks_of_isPlain h]

/-- New frames above frames that wait for nothing. -/
theorem isAnswering_of_asksWell {control : Control} {frames below : List Frame}
    (h : asksWell control frames = true) (hb : below.any Frame.asks = false)
    (ha : (frames ++ below).any Frame.asks = true) :
    Thread.isAnswering { control, stack := frames ++ below } = true := by
  have hframes : frames.any Frame.asks = true := by simpa [List.any_append, hb] using ha
  unfold asksWell at h
  rw [hframes] at h
  simp only [Bool.not_true, Bool.false_or] at h
  split at h
  · simp_all [Thread.isAnswering, answering]
  · simp at h

theorem answering_append {frames below : List Frame} (h : frames.all Frame.isLink = true)
    (hb : answering below = true) : answering (frames ++ below) = true := by
  induction frames with
  | nil => exact hb
  | cons fr frames ih =>
    simp only [List.all_cons, Bool.and_eq_true] at h
    have hasks : fr.asks = false := by
      cases fr <;> simp_all [Frame.isLink, Frame.asks]
    simp [answering, hasks, h.1, ih h.2]

namespace Session

variable {s : Session}

variable {below : List Frame}

/-- A silent engine performs no script before it answers. -/
theorem engineEntry_of_silent (hs : s.EnginesSilent) (slot : Nat) (r : Request) :
    s.engineEntry slot r
      = (s.emit (.engine slot r)).run (.script .callback []) [.engineScripted slot r] := by
  have hnone : (s.emit (.engine slot r)).scripts.get? (.engine slot r.entry) = none := hs slot _
  unfold engineEntry fire
  simp only [hnone]

theorem engineEntry_answers (hs : s.EnginesSilent) (slot : Nat) {r : Request}
    (hr : r.isQuestion = true) (hb : answering below = true) :
    (s.engineEntry slot r).answers below = true := by
  simp [engineEntry_of_silent hs, run, Move.answers, Thread.isAnswering, hr, hb]

/-- A call that is routed by its env arrives with another env. -/
theorem request_of_route {r : Request} {env : Word} {d : Destination} (henv : r.route = .env env)
    (hd : s.route r = .ok d) : ∃ env', d.request = r.withEnv env' := by
  unfold route at hd
  rw [henv] at hd
  cases hfind : s.findEnv env with
  | error p => simp [hfind] at hd
  | ok found =>
    simp only [hfind] at hd
    obtain rfl := Except.ok.inj hd
    exact ⟨_, rfl⟩

theorem isQuestion_withEnv {r : Request} (hr : r.isQuestion = true) (env : Word) :
    (r.withEnv env).isQuestion = true := by
  cases r <;> simp_all [Request.isQuestion, Request.withEnv]

theorem isQuestion_route {r : Request} (hr : r.isQuestion = true) {d : Destination}
    (hd : s.route r = .ok d) : d.request.isQuestion = true := by
  have henv : ∃ env, r.route = .env env := by
    cases r <;> simp_all [Request.isQuestion, Request.route]
  obtain ⟨env, henv⟩ := henv
  obtain ⟨env', hrequest⟩ := request_of_route henv hd
  rw [hrequest]
  exact isQuestion_withEnv hr env'

theorem forward_answers {r : Request} (hr : r.isQuestion = true) (hb : answering below = true) :
    (s.forward r).answers below = true := by
  unfold forward
  split
  · simp [Request.isQuestion] at hr
  split
  · simpa [refuseRoute, respond, give, Move.answers, Thread.isAnswering] using hb
  next d hd =>
  split
  · simpa [refuseRoute, respond, give, Move.answers, Thread.isAnswering] using hb
  · split
    · simp [Request.isQuestion] at hr
    · simp [Request.isQuestion] at hr
    · simp [Request.isQuestion] at hr
    · simp [run, Move.answers, Thread.isAnswering, isQuestion_route hr hd, answering, Frame.asks,
        Frame.isLink, hb]

theorem entry_answers (hs : s.EnginesSilent) (t : ThreadId) (p : Provider) {r : Request}
    (hr : r.isQuestion = true) (hb : answering below = true) :
    (s.entry t p r).answers below = true := by
  unfold entry
  split
  · exact engineEntry_answers hs _ hr hb
  · cases r <;> simp_all [Request.isQuestion, runtimeEntry, respond, give, Move.answers,
      Thread.isAnswering]
  · split
    · simpa [abort, give, Move.answers, Thread.isAnswering] using hb
    · simpa [run, Move.answers, Thread.isAnswering, hr] using hb
    · simpa [respond, give, Move.answers, Thread.isAnswering] using hb
  · exact forward_answers hr hb

/-- A frame that hands an answer on. -/
theorem resume_answers {fr : Frame} (hfr : fr.isLink = true) (hb : answering below = true)
    (t : ThreadId) (r : Reply) : (fr.resume t s r).answers below = true := by
  cases fr with
  | engineScripted slot request =>
    have hnone : (s.engines.answer slot request).2.2 = none := by
      refine Engines.finalizerCall_answer _ _ ?_
      cases request <;> simp_all [Frame.isLink, Request.isQuestion, Request.entry, Entry.ofRuntime]
    simpa [Frame.resume, engineAnswer, hnone, give, Move.answers, Thread.isAnswering] using hb
  | forwarded host => simpa [Frame.resume, give, Move.answers, Thread.isAnswering] using hb
  | _ => simp [Frame.isLink] at hfr

end Session

end AddonHost
