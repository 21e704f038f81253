import AddonHost.Proofs.Interchange.Abreast
import AddonHost.Proofs.Interchange.Settling

/-!
Tasks abreast.

A task that one thread of each session runs is over in both or in neither, and until then each step
of it is the same in both (`Session.Inner.step`), whatever waits below for its end.
-/

namespace AddonHost

namespace Session

variable {i : InvokerId} {name : String} {own own' t t' : ThreadId} {kept kept' : ℕ}
  {control : Control} {inner below below' : List Frame} {s d : Session}

/-- What one thread of each does is a part of a task, and the sessions are abreast. -/
structure Inner (i : InvokerId) (name : String) (own own' : ThreadId) (kept kept' : ℕ)
    (control : Control) (inner : List Frame) (s d : Session) : Prop where
  abreast : Abreast i name own own' (kept + (control.keeps + keepsOf inner))
    (kept' + (control.keeps + keepsOf inner)) s d
  control : control.isInner i = true
  frames : inner.all (Frame.isInner i) = true

/-- What the threads do next does not matter to whether two sessions are abreast. -/
theorem Abreast.apply {m m' : Move} (h : Abreast i name own own' kept kept' m.session m'.session)
    (t t' : ThreadId) (below below' : List Frame) :
    Abreast i name own own' kept kept' (apply m t below) (apply m' t' below') := by
  obtain ⟨tasks, htasks, hs, hd⟩ := h.work
  exact ⟨h.onstage, by simpa [Session.apply, setThread] using h.order, tasks, htasks,
    hs.of_invokers rfl, hd.of_invokers rfl⟩

/-- The task goes on with a move that is the same in both. -/
theorem Inner.of_move {m m' : Move} (h : Move.Abreast i name own own' (kept + keepsOf inner)
      (kept' + keepsOf inner) s d m m') (hinner : inner.all (Frame.isInner i) = true)
    (t t' : ThreadId) (below below' : List Frame) :
    Inner i name own own' kept kept' m.control (m.frames ++ inner) (apply m t below)
      (apply m' t' below') := by
  refine ⟨?_, h.inner.1, by simp [List.all_append, h.inner.2, hinner]⟩
  have hkeeps (k : ℕ) : k + (m.control.keeps + keepsOf (m.frames ++ inner))
      = k + keepsOf inner + m.keeps := by
    simp only [keepsOf_append, Move.keeps]
    omega
  rw [hkeeps, hkeeps]
  exact h.advance.abreast.apply t t' below below'

/-- A task is over in both sessions, or it goes on in both. -/
theorem Inner.step (h : Inner i name own own' kept kept' control inner s d) (hover : s.IsServedBy i)
    (hrunning : s.halted = false)
    (hs : s.threads.get? own = some { control := control, stack := inner ++ below })
    (hd : d.threads.get? own' = some { control := control, stack := inner ++ below' }) :
    (∃ r, control = .give r ∧ inner = []) ∨
      ∃ m m' rest, s.step own = some (apply m own (rest ++ below)) ∧
        d.step own' = some (apply m' own' (rest ++ below')) ∧
        m.control = m'.control ∧ m.frames = m'.frames ∧
        m.session.desk = s.desk ∧ m'.session.desk = d.desk ∧
        Inner i name own own' kept kept' m.control (m.frames ++ rest)
          (apply m own (rest ++ below)) (apply m' own' (rest ++ below')) := by
  have hrunning' : d.halted = false := (halted_eq h.abreast.onstage) ▸ hrunning
  obtain ⟨habreast, hcontrol, hinner⟩ := h
  cases control with
  | fail => simp [Control.isInner] at hcontrol
  | run c =>
    have hkeeps (k : ℕ) : k + (c.keeps + keepsOf inner) = k + keepsOf inner + c.keeps := by omega
    simp only [Control.keeps, hkeeps] at habreast
    obtain ⟨m, m', hm, hm', hmove⟩ := habreast.step hcontrol hover
    exact .inr ⟨m, m', inner, step_run hrunning hs hm, step_run hrunning' hd hm', hmove.control,
      hmove.frames, hmove.advance.desk, hmove.advance.desk', .of_move hmove hinner ..⟩
  | give r =>
    cases inner with
    | nil => exact .inl ⟨r, rfl, rfl⟩
    | cons fr rest =>
      have hkeeps (k : ℕ) : k + ((Control.give r).keeps + keepsOf (fr :: rest))
          = k + keepsOf rest + fr.keeps := by
        simp only [Control.keeps, keepsOf_cons]
        omega
      rw [hkeeps, hkeeps] at habreast
      obtain ⟨hfr, hrest⟩ := Bool.and_eq_true_iff.1 hinner
      have hmove := habreast.resume hfr hover r
      exact .inr ⟨_, _, rest, step_give hrunning hs, step_give hrunning' hd, hmove.control,
        hmove.frames, hmove.advance.desk, hmove.advance.desk', .of_move hmove hrest ..⟩

end Session

end AddonHost
