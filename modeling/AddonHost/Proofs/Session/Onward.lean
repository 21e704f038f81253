import AddonHost.Proofs.Session.Simulation

/-!
What becomes of a thread when a run goes on.

Only its own steps change a thread: the other threads leave it alone, and the embedder begins an
action only on a main thread that has nothing left to do.  So a thread keeps to some states until it
takes a step that leads out of them (`Onward.keeps`), and what it does then is a matter of that step
alone.
-/

namespace AddonHost

namespace Session

variable {s s' s'' : Session} {t u : ThreadId} {th : Thread} {below : List Frame} {r : Reply}

/-- Somewhere on the way between two sessions of a run, a thread gives a reply to some frames. -/
def Gives (s : Session) (t : ThreadId) (r : Reply) (below : List Frame) (s' : Session) : Prop :=
  ∃ u : Session, s.Onward u ∧ u.threads.get? t = some { control := .give r, stack := below } ∧
    u.Onward s'

theorem Onward.trans (h : s.Onward s') (h' : s'.Onward s'') : s.Onward s'' := by
  induction h' with
  | refl => exact h
  | act a _ hidle ih => exact ih.act a hidle
  | step t _ hrest hstep ih => exact ih.step t hrest hstep
  | lose i position _ ih => exact ih.lose i position

/-- Letting threads step until none can is part of a run that goes on. -/
theorem Onward.settle (h : s.Onward s') (limit : ℕ) : s.Onward (s'.settle limit) := by
  induction limit generalizing s' with
  | zero => exact h
  | succ n ih =>
    unfold Session.settle
    split
    · exact h
    · next hn =>
      obtain ⟨t, hrest, hstep⟩ := exists_step_of_next? hn
      exact ih (h.step t hrest hstep)

/-- Performing actions, one after the other, is part of a run that goes on. -/
theorem Onward.performed? {actions : List Action} (h : s.Onward s')
    (hs : s'.performed? actions = some s'') : s.Onward s'' := by
  induction actions generalizing s' with
  | nil =>
    obtain rfl := Option.some.inj hs
    exact h
  | cons a rest ih =>
    unfold Session.performed? at hs
    split at hs
    · next r hr => exact ih ((h.act a ⟨r, hr⟩).settle stepLimit) hs
    · simp at hs

/-- Only a session that was not aborted takes steps. -/
theorem running_of_step (h : s.step t = some s') : s.halted = false := by
  cases hhalted : s.halted with
  | false => rfl
  | true => simp [step, hhalted] at h

/-- The move that a thread makes above some frames. -/
inductive Moves (s : Session) (t : ThreadId) : Thread → Move → List Frame → Prop where
  | run {c : Code} {m : Move} {below : List Frame} :
    c.step t s = some m → Moves s t { control := .run c, stack := below } m below
  | give (r : Reply) (fr : Frame) (below : List Frame) :
    Moves s t { control := .give r, stack := fr :: below } (fr.resume t s r) below
  | unwind (fr : Frame) (below : List Frame) :
    Moves s t { control := .fail, stack := fr :: below } (fr.unwind s) below
  | refuse : Moves s t { control := .fail } (s.refuse .unknownAction) []

/-- A step of a thread is a move. -/
theorem exists_moves (hstep : s.step t = some s') (hth : s.threads.get? t = some th) :
    ∃ m below, s.Moves t th m below ∧ s' = apply m t below := by
  unfold step at hstep
  simp only [running_of_step hstep, Bool.false_eq_true, if_false, hth] at hstep
  obtain ⟨control, stack⟩ := th
  cases control with
  | run c =>
    obtain ⟨m, hm, rfl⟩ := Option.map_eq_some_iff.1 hstep
    exact ⟨m, stack, .run hm, rfl⟩
  | give r =>
    cases stack with
    | nil => simp at hstep
    | cons fr below => exact ⟨_, below, .give r fr below, (Option.some.inj hstep).symm⟩
  | fail =>
    cases stack with
    | nil => exact ⟨_, [], .refuse, (Option.some.inj hstep).symm⟩
    | cons fr below => exact ⟨_, below, .unwind fr below, (Option.some.inj hstep).symm⟩

/-- A move leaves a frame where it is, unless nothing is above it; then it gets a reply or a
failure. -/
theorem Moves.stack_or {control : Control} {inside base below : List Frame} {fr : Frame} {m : Move}
    (hm : s.Moves t { control := control, stack := inside ++ fr :: base } m below) :
    (∃ inside', m.frames ++ below = inside' ++ fr :: base) ∨ below = base ∧
      ((∃ r, control = .give r ∧ m = fr.resume t s r) ∨ control = .fail ∧ m = fr.unwind s) := by
  generalize hstack : inside ++ fr :: base = stack at hm
  cases hm with
  | @run c m _ hm => exact .inl ⟨m.frames ++ inside, by rw [← hstack, List.append_assoc]⟩
  | give r fr' =>
    rcases List.append_eq_cons_iff.1 hstack with ⟨rfl, heq⟩ | ⟨inside', rfl, rfl⟩
    · obtain ⟨rfl, rfl⟩ := List.cons_eq_cons.1 heq
      exact .inr ⟨rfl, .inl ⟨r, rfl, rfl⟩⟩
    · exact .inl ⟨_, (List.append_assoc ..).symm⟩
  | unwind fr' =>
    rcases List.append_eq_cons_iff.1 hstack with ⟨rfl, heq⟩ | ⟨inside', rfl, rfl⟩
    · obtain ⟨rfl, rfl⟩ := List.cons_eq_cons.1 heq
      exact .inr ⟨rfl, .inr ⟨rfl, rfl⟩⟩
    · exact .inl ⟨_, (List.append_assoc ..).symm⟩
  | refuse => simp at hstack

/-- A step of a thread leaves the others alone. -/
theorem Reachable.get?_of_step_of_ne (h : s.Reachable) (hstep : s.step u = some s') (hne : u ≠ t)
    (hth : s.threads.get? t = some th) : s'.threads.get? t = some th := by
  obtain ⟨_, below, m, own, works, ht⟩ := h.sound.exists_taken hstep
  obtain ⟨before, after, new, hbefore, -, hafter, -⟩ := ht.exists_threads
  refine Assoc.get?_of_mem ht.sane.keys ?_
  have hmem := Assoc.mem_of_get? hth
  rw [hbefore] at hmem
  rw [hafter]
  grind

/-- Engines that are silent were so before. -/
theorem Onward.silent (ho : s.Onward s') (h : s.Reachable) (hs : s'.EnginesSilent) :
    s.EnginesSilent := by
  induction ho with
  | refl => exact hs
  | act a _ _ ih => exact ih hs
  | step t hu _ hstep ih =>
    obtain ⟨th, below, m, own, works, ht⟩ := (h.onward hu).sound.exists_taken hstep
    exact ih (ht.silent hs)
  | @lose u i position _ ih =>
    refine ih fun slot e => ?_
    have := (follows_loseTask (s := u) i position).scripts slot e
    simpa [hs slot e] using this

/-- A thread keeps to some states, in each of which it has something left to do, or it takes a step
that leads out of them. -/
theorem Onward.keeps (ho : s.Onward s') (h : s.Reachable) {P : Thread → Prop} {Q : Session → Prop}
    (hP : ∃ th, s.threads.get? t = some th ∧ P th)
    (hleft : ∀ th, P th → ∀ r, th ≠ { control := .give r, stack := [] })
    (hstep : ∀ {u u' : Session} {th : Thread}, s.Onward u → u.threads.get? t = some th → P th →
      u.step t = some u' → (∃ th', u'.threads.get? t = some th' ∧ P th') ∨ Q u') :
    (∃ th, s'.threads.get? t = some th ∧ P th) ∨ ∃ u, s.Onward u ∧ Q u ∧ u.Onward s' := by
  induction ho with
  | refl => exact .inl hP
  | @act u a hu hidle ih =>
    rcases ih with ⟨th, hth, hp⟩ | ⟨v, hv, hq, hvu⟩
    · have hne : .main ≠ t := by
        rintro rfl
        obtain ⟨r, hr⟩ := hidle
        exact hleft th hp r (Option.some.inj (hth.symm.trans hr))
      refine .inl ⟨th, ?_, hp⟩
      rw [beginAction, setThread, Assoc.get?_insert, if_neg hne, hth]
    · exact .inr ⟨v, hv, hq, hvu.act a hidle⟩
  | @step u u' t' hu hrest htaken ih =>
    rcases ih with ⟨th, hth, hp⟩ | ⟨v, hv, hq, hvu⟩
    · by_cases hne : t' = t
      · subst hne
        exact (hstep hu hth hp htaken).imp_right fun hq => ⟨u', hu.step t' hrest htaken, hq, .refl⟩
      · exact .inl ⟨th, (h.onward hu).get?_of_step_of_ne htaken hne hth, hp⟩
    · exact .inr ⟨v, hv, hq, hvu.step t' hrest htaken⟩
  | @lose u i position hu ih =>
    rcases ih with ⟨th, hth, hp⟩ | ⟨v, hv, hq, hvu⟩
    · exact .inl ⟨th, (follows_loseTask (s := u) i position).threads ▸ hth, hp⟩
    · exact .inr ⟨v, hv, hq, hvu.lose i position⟩

end Session

end AddonHost
