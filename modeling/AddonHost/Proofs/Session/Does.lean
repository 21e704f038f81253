import AddonHost.Proofs.Function.Effect
import AddonHost.Proofs.Job.Effect
import AddonHost.Proofs.Multiplexer.Life
import AddonHost.Proofs.Session.Asking

/-!
What moves do.

`Move.Does` says what a move makes of the life of every function, of the life of every job, and of
the multiplexers, when the thread gives up some activities and some work.  What a move does not
concern stays as it is (`Move.Does.of_follows`): a plain move does nothing, and the moves of a
threadsafe function are steps of that function's life and nothing to all else (`Move.Does.of_one`).
-/

namespace AddonHost

theorem Control.activities_of_isPlain {c : Control} (h : c.isPlain = true) (f : HandleId)
    (t : ThreadId) (below : List Frame) : c.activities f t below = [] := by
  cases c with
  | run c =>
    cases c with
    | task i task => cases task <;> simp_all [isPlain, activities, Code.isPlain, Code.activities]
    | finalizer owner => cases owner <;> simp_all [isPlain, activities, Code.isPlain, Code.activities]
    | _ => simp_all [isPlain, activities, Code.isPlain, Code.activities]
  | _ => rfl

theorem framesOver_of_isPlain {frames : List Frame} (h : frames.all Frame.isPlain = true)
    (f : HandleId) (below : List Frame) : framesOver f frames below = [] := by
  induction frames with
  | nil => rfl
  | cons fr frames ih =>
    simp only [List.all_cons, Bool.and_eq_true] at h
    rw [framesOver, ih h.2]
    cases fr <;> simp_all [Frame.isPlain, Frame.activities]

theorem Control.works_of_isPlain {c : Control} (h : c.isPlain = true) (j : HandleId) :
    c.works j = [] := by
  cases c with
  | run c =>
    cases c with
    | task i task => cases task <;> simp_all [isPlain, works, Code.isPlain, Code.works]
    | _ => rfl
  | _ => rfl

theorem flatMap_works_of_isPlain {frames : List Frame} (h : frames.all Frame.isPlain = true)
    (j : HandleId) : frames.flatMap (Frame.works j) = [] := by
  rw [List.flatMap_eq_nil_iff]
  intro fr hfr
  have := List.all_eq_true.1 h fr hfr
  cases fr <;> simp_all [Frame.isPlain, Frame.works]

/-- What a move does, when the thread gives up some activities and some work: it is a step of the
life of every function and of every job, and a step of the multiplexers. -/
structure Move.Does (s : Session) (t : ThreadId) (below : List Frame)
    (own : HandleId → List Activity) (m : Move) (works : HandleId → List Work := fun _ => []) :
    Prop where
  grows : Session.Grows s m.session
  guarded : Thread.Guarded { control := m.control, stack := m.frames ++ below }
  asks : asksWell m.control m.frames = true
  step (f : HandleId) : Life.Step f (s.life f) (own f) (m.session.life f) (m.activities f t below)
  work (j : HandleId) :
    JobLife.Step j (s.jobLife j) (works j) (m.session.jobLife j) (m.works j)
  route : Multiplexers.Step s.multiplexers m.session.multiplexers

/-- What does not concern the multiplexers changes them in nothing but the ids that are left. -/
theorem Session.multiplexers_of_follows {quiet : Topic → Prop} {s s' : Session}
    (h : Follows quiet s s') (hq : quiet .multiplexers) :
    s'.multiplexers = { s.multiplexers with nextId := s'.ids.next } := by
  obtain ⟨hwrapped, howners⟩ := View.multiplexers.inj (h.same _ hq)
  simp only [multiplexers, hwrapped, howners]

namespace Move

variable {s : Session} {t : ThreadId} {below : List Frame} {m : Move}
  {own : HandleId → List Activity}

/-- What a move does whose session leaves the quiet topics alone. -/
theorem Does.of_follows {quiet : Topic → Prop} {works : HandleId → List Work} (hs : s.Sane)
    (h : Session.Follows quiet s m.session)
    (hg : Thread.Guarded { control := m.control, stack := m.frames ++ below })
    (hask : asksWell m.control m.frames = true)
    (hfunction : ∀ f, quiet (.function f) ∧ own f = m.activities f t below ∨
      Life.Step f (s.life f) (own f) (m.session.life f) (m.activities f t below))
    (hjob : ∀ j, quiet (.job j) ∧ works j = m.works j ∨
      JobLife.Step j (s.jobLife j) (works j) (m.session.jobLife j) (m.works j))
    (hroute : quiet .multiplexers ∨
      Multiplexers.Step s.multiplexers m.session.multiplexers) :
    m.Does s t below own works where
  grows := h.grows hs
  guarded := hg
  asks := hask
  step f := by
    rcases hfunction f with ⟨hf, hown⟩ | hstep
    · rw [hown, Session.life_of_follows h hf]
      exact .aside _ h.ids
    · exact hstep
  work j := by
    rcases hjob j with ⟨hj, hworks⟩ | hstep
    · rw [hworks, Session.jobLife_of_follows h hj]
      exact .aside _ h.ids
    · exact hstep
  route := by
    rcases hroute with hq | hstep
    · rw [Session.multiplexers_of_follows h hq]
      exact .aside h.ids
    · exact hstep

theorem Plain.activities (h : m.Plain s) (f : HandleId) (t : ThreadId) (below : List Frame) :
    m.activities f t below = [] := by
  rw [Move.activities, Control.activities_of_isPlain h.control, framesOver_of_isPlain h.frames]
  rfl

theorem Plain.works (h : m.Plain s) (j : HandleId) : m.works j = [] := by
  rw [Move.works, Control.works_of_isPlain h.control, flatMap_works_of_isPlain h.frames]
  rfl

theorem Plain.does (h : m.Plain s) (hs : s.Sane) (hb : AddonHost.guarded below = true) :
    m.Does s t below fun _ => [] :=
  .of_follows hs h.session (h.guarded hb) (asksWell_of_isPlain _ h.frames)
    (fun f => .inl ⟨trivial, (h.activities f t below).symm⟩)
    (fun j => .inl ⟨trivial, (h.works j).symm⟩) (.inl trivial)

/-- What a move does that concerns one function. -/
theorem Does.of_one (hs : s.Sane) (g : HandleId)
    (h : Session.Follows (.function g ≠ ·) s m.session)
    (hg : Thread.Guarded { control := m.control, stack := m.frames ++ below })
    (hask : asksWell m.control m.frames = true)
    (hother : ∀ f, g ≠ f → own f = [] ∧ m.activities f t below = [])
    (hwork : ∀ j, m.works j = [])
    (hself : Life.Step g (s.life g) (own g) (m.session.life g) (m.activities g t below)) :
    m.Does s t below own := by
  refine .of_follows hs h hg hask (fun f => ?_) (fun j => .inl ⟨by simp, (hwork j).symm⟩)
    (.inl (by simp))
  by_cases hf : g = f
  · subst hf
    exact .inr hself
  · exact .inl ⟨by simpa using hf, (hother f hf).1.trans (hother f hf).2.symm⟩

/-- A change that no topic shows does not matter before a move. -/
theorem Does.of_view {s' : Session} {works : HandleId → List Work} (h : m.Does s' t below own works)
    (hgrows : Session.Grows s s') (hview : s'.view = s.view) (hids : s'.ids = s.ids) :
    m.Does s t below own works where
  grows := hgrows.trans h.grows
  guarded := h.guarded
  asks := h.asks
  step f := by
    have hlife : s'.life f = s.life f := by
      obtain ⟨hobject, hregistered, htasks, htold⟩ := View.function.inj (congrFun hview (.function f))
      simp only [Session.life, hobject, hregistered, htasks, htold, hids]
    exact hlife ▸ h.step f
  work j := by
    have hlife : s'.jobLife j = s.jobLife j := by
      obtain ⟨hobject, hregistered, hwork, htold⟩ := View.job.inj (congrFun hview (.job j))
      simp only [Session.jobLife, hobject, hregistered, hwork, htold, hids]
    exact hlife ▸ h.work j
  route := by
    have hroute : s'.multiplexers = s.multiplexers := by
      obtain ⟨hwrapped, howners⟩ := View.multiplexers.inj (congrFun hview .multiplexers)
      simp only [Session.multiplexers, hwrapped, howners, hids]
    exact hroute ▸ h.route

end Move

namespace Session

variable {s s' : Session} {t : ThreadId} {below : List Frame} {g : HandleId}
  {fn : ThreadsafeFunction} {own : List Activity}

theorem liveInvoker?_eq_some {o : Option InvokerId} {i : InvokerId} {inv : Invoker}
    (h : s.liveInvoker? o = some (i, inv)) : o = some i := by
  cases o with
  | none => simp [liveInvoker?] at h
  | some j =>
    simp only [liveInvoker?, Option.bind_eq_bind, Option.bind_some] at h
    obtain ⟨inv', _, h⟩ := Option.bind_eq_some_iff.1 h
    split at h
    · simp at h
    · simp_all

/-! ### Giving and running -/

@[simp] theorem session_give (s : Session) (r : Reply) : (s.give r).session = s := rfl

@[simp] theorem session_run (s : Session) (c : Code) (frames : List Frame) :
    (s.run c frames).session = s := rfl

@[simp] theorem activities_give (s : Session) (r : Reply) (f : HandleId) (t : ThreadId)
    (below : List Frame) : (s.give r).activities f t below = [] := rfl

@[simp] theorem activities_run (s : Session) (c : Code) (frames : List Frame) (f : HandleId)
    (t : ThreadId) (below : List Frame) :
    (s.run c frames).activities f t below
      = c.activities f t (frames ++ below) ++ framesOver f frames below := rfl

@[simp] theorem works_give (s : Session) (r : Reply) (j : HandleId) : (s.give r).works j = [] := rfl

@[simp] theorem works_run (s : Session) (c : Code) (frames : List Frame) (j : HandleId) :
    (s.run c frames).works j = c.works j ++ frames.flatMap (Frame.works j) := rfl

/-- A reply after an operation on one function. -/
theorem give_does (hs : s.Sane) (hb : guarded below = true) (h : Follows (.function g ≠ ·) s s')
    (hstep : Life.Step g (s.life g) own (s'.life g) []) (r : Reply) :
    (s'.give r).Does s t below fun f => if g = f then own else [] :=
  .of_one hs g h ⟨fun hm => by simp [give, Control.mayFail] at hm, hb⟩ rfl
    (fun f hne => ⟨if_neg hne, rfl⟩) (fun _ => rfl) (by simpa using hstep)

/-- A reply to new frames after an operation on one function. -/
theorem give_frames_does {frames : List Frame} (hs : s.Sane)
    (hb : guarded (frames ++ below) = true) (hask : frames.any Frame.asks = false)
    (hwork : ∀ j, frames.flatMap (Frame.works j) = []) (h : Follows (.function g ≠ ·) s s')
    (hother : ∀ f, g ≠ f → framesOver f frames below = [])
    (hstep : Life.Step g (s.life g) own (s'.life g) (framesOver g frames below)) (r : Reply) :
    ({ s'.give r with frames } : Move).Does s t below fun f => if g = f then own else [] := by
  refine .of_one hs g h ⟨fun hm => by simp [give, Control.mayFail] at hm, hb⟩
    (by simp [asksWell, hask]) (fun f hne => ⟨if_neg hne, hother f hne⟩) hwork ?_
  rw [if_pos rfl]
  exact hstep

/-- Code after an operation on one function. -/
theorem run_does {c : Code} {frames : List Frame} (hs : s.Sane)
    (hb : guarded (frames ++ below) = true) (h : Follows (.function g ≠ ·) s s')
    (hfail : (Control.run c).mayFail = false) (hask : asksWell (.run c) frames = true)
    (hwork : ∀ j, c.works j ++ frames.flatMap (Frame.works j) = [])
    (hother : ∀ f, g ≠ f →
      c.activities f t (frames ++ below) ++ framesOver f frames below = [])
    (hstep : Life.Step g (s.life g) own (s'.life g)
      (c.activities g t (frames ++ below) ++ framesOver g frames below)) :
    (s'.run c frames).Does s t below fun f => if g = f then own else [] :=
  .of_one hs g h ⟨fun hm => by simp [run, hfail] at hm, hb⟩ hask
    (fun f hne => ⟨if_neg hne, hother f hne⟩) hwork (by simpa using hstep)

/-- Code that may fail, above frames that catch the failure. -/
theorem unconcerned_run_does {c : Code} {frames : List Frame} (hs : s.Sane)
    (h : Unconcerned s s') (hg : Thread.Guarded { control := .run c, stack := frames ++ below })
    (hask : asksWell (.run c) frames = true)
    (hown : ∀ f, c.activities f t (frames ++ below) ++ framesOver f frames below = [])
    (hwork : ∀ j, c.works j ++ frames.flatMap (Frame.works j) = []) :
    (s'.run c frames).Does s t below fun _ => [] :=
  .of_follows hs h hg hask (fun f => .inl ⟨trivial, (hown f).symm⟩)
    (fun j => .inl ⟨trivial, (hwork j).symm⟩) (.inl trivial)

end Session

end AddonHost
