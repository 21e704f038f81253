import AddonHost.Proofs.Session.Steps
import AddonHost.Session.Reachable

/-!
Every run of a session is a run in the life of every function, of every job, and of the
multiplexers.

`Session.Sound` collects what holds between two steps: ids are fresh, failures are caught in time,
and a thread that waits for a silent engine does nothing else.  A step of a sound session is one
move of one thread (`Sound.exists_taken`), so it is a step of the life of every function and of
every job, and a step of the multiplexers.  By induction a reachable session shows a run of each
(`Reachable.run`, `Reachable.jobRun`, `Reachable.multiplexersRun`).
-/

namespace AddonHost

namespace Session

/-- What holds of a session between two steps. -/
structure Sound (s : Session) : Prop where
  sane : s.Sane
  guarded : ∀ p ∈ s.threads, p.2.Guarded
  asks : s.EnginesSilent → ∀ p ∈ s.threads, p.2.stack.any Frame.asks = true →
    p.2.isAnswering = true

/-- What a step of a thread was: a move above the frames that it left, for which the thread gave up
some activities and some work. -/
structure Taken (s : Session) (t : ThreadId) (s' : Session) (th : Thread) (below : List Frame)
    (m : Move) (own : HandleId → List Activity) (works : HandleId → List Work) : Prop where
  thread : s.threads.get? t = some th
  result : s' = apply m t below
  does : m.Does s t below own works
  works (j : HandleId) : th.works j = works j ++ below.flatMap (Frame.works j)
  activities (f : HandleId) : th.activities f t = own f ++ framesOver f below []
  /-- A thread that waits for an answer below goes on answering. -/
  answers : s.EnginesSilent → below.any Frame.asks = true →
    m.Plain s ∧ (∀ f, own f = []) ∧ m.answers below = true

variable {s s' : Session} {t : ThreadId} {th : Thread} {below : List Frame} {m : Move}
  {own : HandleId → List Activity} {works : HandleId → List Work}

/-- A piece of code of a thread that answers is plain, and the thread goes on answering. -/
theorem answers_run {c : Code} (hs : s.EnginesSilent)
    (h : Thread.isAnswering { control := .run c, stack := below } = true)
    (hm : c.step t s = some m) :
    m.Plain s ∧ (∀ f, c.activities f t below = []) ∧ m.answers below = true := by
  unfold Thread.isAnswering at h
  split at h
  · next p r hc =>
    obtain rfl : c = .entry p r := Control.run.inj hc
    obtain ⟨hr, hb⟩ := Bool.and_eq_true_iff.1 h
    obtain rfl := Option.some.inj hm
    refine ⟨plain_entry t ?_, fun _ => rfl, entry_answers hs t p hr hb⟩
    cases p <;> cases r <;> simp_all [Request.isQuestion, Request.touchesTopic]
  · next slot r rest hc hst =>
    obtain rfl : c = .script .callback [] := Control.run.inj hc
    obtain rfl : below = .engineScripted slot r :: rest := hst
    obtain ⟨hr, hb⟩ := Bool.and_eq_true_iff.1 h
    obtain rfl := Option.some.inj hm
    refine ⟨(plain_give _).2 (.refl s), fun _ => rfl, ?_⟩
    simp [Move.answers, give, Thread.isAnswering, answering, Frame.asks, Frame.isLink, hr, hb]
  · next hc => cases hc
  · simp at h

/-- A frame of a thread that answers hands the answer on by a plain move, unless it asked. -/
theorem answers_resume {fr : Frame} (h : answering (fr :: below) = true)
    (hb : below.any Frame.asks = true) (r : Reply) :
    (fr.resume t s r).Plain s ∧ (∀ f, fr.activities f below = []) ∧
      (fr.resume t s r).answers below = true := by
  unfold answering at h
  split at h
  · simp [hb] at h
  · obtain ⟨hlink, hb⟩ := Bool.and_eq_true_iff.1 h
    refine ⟨plain_resume t ?_ ?_ r, fun f => ?_, resume_answers hlink hb t r⟩ <;>
      cases fr <;> simp_all [Frame.isLink, Frame.isPlain, Frame.touchesTopic, Frame.activities]

theorem Sound.exists_taken (h : s.Sound) (hstep : s.step t = some s') :
    ∃ th below m own works, Taken s t s' th below m own works := by
  unfold step at hstep
  split at hstep
  · simp at hstep
  · split at hstep
    · simp at hstep
    · next th hth =>
      have hmem := Assoc.mem_of_get? hth
      have hg := h.guarded _ hmem
      have hask := fun hsilent => h.asks hsilent _ hmem
      obtain ⟨control, stack⟩ := th
      cases control with
      | run c =>
        obtain ⟨m, hm, rfl⟩ := Option.map_eq_some_iff.1 hstep
        exact ⟨_, stack, m, _, _, hth, rfl, Code.step_does h.sane hg hm, fun j => rfl, fun f => rfl,
          fun hsilent hbelow => answers_run hsilent (hask hsilent hbelow) hm⟩
      | give r =>
        cases stack with
        | nil => simp at hstep
        | cons fr rest =>
          obtain rfl := Option.some.inj hstep
          refine ⟨_, rest, _, _, _, hth, rfl, Frame.resume_does h.sane hg.stack r, fun j => ?_,
            fun f => ?_, ?_⟩
          · simp [Thread.works, Control.works]
          · simp [Thread.activities, Control.activities, framesOver]
          · intro hsilent hbelow
            exact answers_resume (hask hsilent (by simp [hbelow])) hbelow r
      | fail =>
        cases stack with
        | nil =>
          obtain rfl := Option.some.inj hstep
          have hplain : (s.refuse .unknownAction).Plain s := (plain_refuse _).2 (.refl s)
          exact ⟨_, [], _, _, _, hth, rfl, hplain.does h.sane rfl, fun j => rfl, fun f => rfl,
            by simp⟩
        | cons fr rest =>
          obtain rfl := Option.some.inj hstep
          refine ⟨_, rest, _, _, _, hth, rfl, Frame.unwind_does h.sane (hg.control rfl) hg.stack,
            fun j => ?_, fun f => ?_, ?_⟩
          · simp [Thread.works, Control.works]
          · simp [Thread.activities, Control.activities, framesOver]
          · intro hsilent hbelow
            have := hask hsilent (by simp [hbelow])
            simp [Thread.isAnswering] at this

/-- The threads before and after a step. -/
theorem Taken.exists_threads (h : Taken s t s' th below m own works) :
    ∃ before after new, s.threads = before ++ (t, th) :: after ∧
      m.session.threads = before ++ (t, th) :: (after ++ new) ∧
      s'.threads = before ++ (t, { control := m.control, stack := m.frames ++ below }) ::
        (after ++ new) ∧
      ∀ p ∈ new, p.2.isPlain = true := by
  obtain ⟨before, after, hthreads, hne⟩ := Assoc.exists_of_get? h.thread
  obtain ⟨new, hnew, hplain⟩ := h.does.grows.threads
  have hm : m.session.threads = before ++ (t, th) :: (after ++ new) := by
    rw [hnew, hthreads, List.append_assoc, List.cons_append]
  refine ⟨before, after, new, hthreads, hm, ?_, hplain⟩
  rw [h.result]
  simp only [apply, setThread, hm]
  exact Assoc.insert_append_cons hne _ _

theorem Taken.sane (h : Taken s t s' th below m own works) : s'.Sane := by
  obtain ⟨before, after, new, -, hm, hafter, -⟩ := h.exists_threads
  have hsane := h.does.grows.sane
  have hkeys : s'.threads.map Prod.fst = m.session.threads.map Prod.fst := by simp [hm, hafter]
  have hrest : s'.view = m.session.view ∧ s'.ids = m.session.ids ∧
      s'.invokers = m.session.invokers ∧ s'.precedence = m.session.precedence := by
    rw [h.result]
    refine ⟨?_, rfl, rfl, rfl⟩
    funext x
    cases x <;> rfl
  obtain ⟨hview, hids, hi, hp⟩ := hrest
  have hknows : ∀ x, s'.Knows x → 0 < x.number ∧ x.number < s'.ids.next := fun x hx =>
    hids ▸ hsane.knows x (knows_of_view (congrFun hview x) hx)
  refine ⟨hids ▸ hsane.positive, hknows, hi ▸ hsane.invokers, hkeys ▸ hsane.keys, fun p hp' => ?_⟩
  have hmem : p.1 ∈ s'.threads.map Prod.fst := List.mem_map_of_mem hp'
  rw [hkeys] at hmem
  obtain ⟨q, hq, hqp⟩ := List.mem_map.1 hmem
  rw [hp, ← hqp]
  exact hsane.placed q hq

/-- Engines that are silent were so before. -/
theorem Taken.silent (h : Taken s t s' th below m own works) (hs : s'.EnginesSilent) :
    s.EnginesSilent := by
  intro slot e
  have hgrows := h.does.grows.scripts slot e
  have hnone : m.session.scripts.get? (.engine slot e) = none := by
    have := hs slot e
    rwa [h.result] at this
  simpa [hnone] using hgrows

theorem Sound.step (h : s.Sound) (hstep : s.step t = some s') : s'.Sound := by
  obtain ⟨th, below, m, own, works, ht⟩ := h.exists_taken hstep
  obtain ⟨before, after, new, hbefore, -, hafter, hnew⟩ := ht.exists_threads
  have hmem : ∀ p ∈ s'.threads, p ∈ s.threads ∨ p.2.isPlain = true ∨
      p = (t, { control := m.control, stack := m.frames ++ below }) := by
    intro p hp
    rw [hafter] at hp
    rw [hbefore]
    grind
  refine ⟨ht.sane, fun p hp => ?_, fun hsilent p hp hasks => ?_⟩
  · rcases hmem p hp with hp | hp | rfl
    · exact h.guarded p hp
    · exact .of_isPlain hp
    · exact ht.does.guarded
  · rcases hmem p hp with hp | hp | rfl
    · exact h.asks (ht.silent hsilent) p hp hasks
    · rw [asks_of_isPlain (Bool.and_eq_true_iff.1 hp).2] at hasks
      simp at hasks
    · by_cases hbelow : below.any Frame.asks = true
      · exact (ht.answers (ht.silent hsilent) hbelow).2.2
      · exact isAnswering_of_asksWell ht.does.asks (by simpa using hbelow) hasks

/-! ### What threads are in the middle of doing -/

/-- A thread that has nothing to do for a function. -/
theorem activities_of_isPlain (hth : th.isPlain = true) (f : HandleId) (t : ThreadId) :
    th.activities f t = [] := by
  obtain ⟨hc, hst⟩ := Bool.and_eq_true_iff.1 hth
  rw [Thread.activities, Control.activities_of_isPlain hc, framesOver_of_isPlain hst]
  rfl

/-- Frames that wait for no answer are in the middle of no delivery. -/
theorem isDelivery_framesOver {f : HandleId} {frames below : List Frame}
    (h : frames.any Frame.asks = false) : ∀ a ∈ framesOver f frames below, a.isDelivery = false := by
  induction frames with
  | nil => simp [framesOver]
  | cons fr frames ih =>
    simp only [List.any_cons, Bool.or_eq_false_iff] at h
    intro a ha
    rcases List.mem_append.1 ha with ha | ha
    · cases fr <;> simp_all [Frame.asks, Frame.activities, Activity.isDelivery]
    · exact ih h.2 a ha

/-- A thread that is between two operations, and waits for no answer, is in the middle of no
delivery. -/
theorem isDelivery_of_atRest {f : HandleId} (h : th.atRest = true)
    (hasks : th.stack.any Frame.asks = false) : ∀ a ∈ th.activities f t, a.isDelivery = false := by
  intro a ha
  rcases List.mem_append.1 ha with ha | ha
  · obtain ⟨control, stack⟩ := th
    cases control with
    | run c =>
      cases c with
      | awaitSpace g data =>
        simp only [Control.activities, Code.activities] at ha
        split at ha <;> simp_all [Activity.isDelivery]
      | teardown g =>
        simp only [Control.activities, Code.activities] at ha
        split at ha <;> simp_all [Activity.isDelivery]
      | finalizer owner =>
        cases owner <;> simp_all [Control.activities, Code.activities, Activity.isDelivery]
      | task i task => simp [Thread.atRest] at h
      | deliver g data => simp [Thread.atRest] at h
      | _ => simp [Control.activities, Code.activities] at ha
    | _ => simp [Control.activities] at ha
  · exact isDelivery_framesOver hasks a ha

/-- What some threads are in the middle of doing for a function. -/
def doingOf (f : HandleId) (threads : List (ThreadId × Thread)) : Multiset Activity :=
  (threads.map fun p => (p.2.activities f p.1 : Multiset Activity)).sum

theorem doingOf_append (f : HandleId) (l l' : List (ThreadId × Thread)) :
    doingOf f (l ++ l') = doingOf f l + doingOf f l' := by
  rw [doingOf, List.map_append, List.sum_append]
  rfl

theorem doingOf_cons (f : HandleId) (p : ThreadId × Thread) (l : List (ThreadId × Thread)) :
    doingOf f (p :: l) = (p.2.activities f p.1 : Multiset Activity) + doingOf f l := by
  rw [doingOf, List.map_cons, List.sum_cons]
  rfl

theorem mem_doingOf {f : HandleId} {l : List (ThreadId × Thread)} {a : Activity} :
    a ∈ doingOf f l ↔ ∃ p ∈ l, a ∈ p.2.activities f p.1 := by
  induction l with
  | nil => simp [doingOf]
  | cons p l ih => simp [doingOf_cons, ih]

theorem doingOf_of_isPlain {f : HandleId} {l : List (ThreadId × Thread)}
    (h : ∀ p ∈ l, p.2.isPlain = true) : doingOf f l = 0 := by
  refine Multiset.eq_zero_of_forall_notMem fun a ha => ?_
  obtain ⟨p, hp, ha⟩ := mem_doingOf.1 ha
  simp [activities_of_isPlain (h p hp)] at ha

/-- What the other threads, and the frames below, are in the middle of doing is kept by a step. -/
theorem Taken.exists_kept (h : Taken s t s' th below m own works) (hs : s.Sane) (f : HandleId) :
    ∃ others, (∀ p ∈ others, p ∈ s.threads ∧ p.1 ≠ t) ∧
      s.doing f = own f + (framesOver f below [] + doingOf f others) ∧
      s'.doing f = m.activities f t below + (framesOver f below [] + doingOf f others) := by
  obtain ⟨before, after, new, hbefore, -, hafter, hnew⟩ := h.exists_threads
  have hkeys := hs.keys
  rw [hbefore] at hkeys
  refine ⟨before ++ after, fun p hp => ⟨?_, ?_⟩, ?_, ?_⟩
  · rw [hbefore]
    grind
  · rintro rfl
    simp only [List.map_append, List.map_cons] at hkeys
    grind
  · show doingOf f s.threads = _
    rw [hbefore, doingOf_append, doingOf_cons, h.activities f, ← Multiset.coe_add, doingOf_append]
    abel
  · show doingOf f s'.threads = _
    rw [hafter, doingOf_append, doingOf_cons, Move.activities_eq, ← Multiset.coe_add,
      doingOf_append, doingOf_of_isPlain hnew, doingOf_append]
    abel

/-! ### What threads are in the middle of doing for a job -/

/-- What some threads are in the middle of doing for a job. -/
def worksOf (j : HandleId) (threads : List (ThreadId × Thread)) : Multiset Work :=
  (threads.map fun p => (p.2.works j : Multiset Work)).sum

theorem worksOf_append (j : HandleId) (l l' : List (ThreadId × Thread)) :
    worksOf j (l ++ l') = worksOf j l + worksOf j l' := by
  rw [worksOf, List.map_append, List.sum_append]
  rfl

theorem worksOf_cons (j : HandleId) (p : ThreadId × Thread) (l : List (ThreadId × Thread)) :
    worksOf j (p :: l) = (p.2.works j : Multiset Work) + worksOf j l := by
  rw [worksOf, List.map_cons, List.sum_cons]
  rfl

theorem worksOf_of_isPlain {j : HandleId} {l : List (ThreadId × Thread)}
    (h : ∀ p ∈ l, p.2.isPlain = true) : worksOf j l = 0 := by
  refine List.sum_eq_zero fun w hw => ?_
  obtain ⟨p, hp, rfl⟩ := List.mem_map.1 hw
  obtain ⟨hc, hst⟩ := Bool.and_eq_true_iff.1 (h p hp)
  rw [Thread.works, Control.works_of_isPlain hc, flatMap_works_of_isPlain hst]
  rfl

/-- What the other threads, and the frames below, are in the middle of doing for a job is kept by a
step. -/
theorem Taken.exists_kept_works (h : Taken s t s' th below m own works) (j : HandleId) :
    ∃ kept : Multiset Work, s.worksFor j = works j + kept ∧ s'.worksFor j = m.works j + kept := by
  obtain ⟨before, after, new, hbefore, -, hafter, hnew⟩ := h.exists_threads
  refine ⟨below.flatMap (Frame.works j) + worksOf j (before ++ after), ?_, ?_⟩
  · show worksOf j s.threads = _
    rw [hbefore, worksOf_append, worksOf_cons, h.works j, ← Multiset.coe_add, worksOf_append]
    abel
  · show worksOf j s'.threads = _
    rw [hafter, worksOf_append, worksOf_cons, Move.works_eq, ← Multiset.coe_add, worksOf_append,
      worksOf_of_isPlain hnew, worksOf_append]
    abel

/-- A thread that is not busy is in the middle of no delivery. -/
theorem Sound.isDelivery_of_not_isBusy {f : HandleId} (h : s.Sound) (hsilent : s.EnginesSilent)
    {p : ThreadId × Thread} (hp : p ∈ s.threads) (hbusy : s.isBusy p.1 = false) :
    ∀ a ∈ p.2.activities f p.1, a.isDelivery = false := by
  rw [isBusy, Assoc.get?_of_mem h.sane.keys hp] at hbusy
  have hatRest : p.2.atRest = true := by simpa using hbusy
  refine isDelivery_of_atRest hatRest ?_
  rw [Bool.eq_false_iff]
  intro hasks
  have := Thread.atRest_of_isAnswering (h.asks hsilent p hp hasks)
  simp [hatRest] at this

theorem Sound.run_step {alone : Prop} {f : HandleId} (h : s.Sound) (hrest : s.OthersAtRest t)
    (hstep : s.step t = some s') (halone : alone → s.EnginesSilent)
    (hrun : Life.Run f alone (s.life f) (s.doing f)) :
    Life.Run f alone (s'.life f) (s'.doing f) := by
  obtain ⟨th, below, m, own, works, ht⟩ := h.exists_taken hstep
  obtain ⟨others, hothers, hdoing, hdoing'⟩ := ht.exists_kept h.sane f
  have hlife : s'.life f = m.session.life f := by
    rw [ht.result]
    rfl
  rw [hdoing] at hrun
  rw [hdoing', hlife]
  refine hrun.step (ht.does.step f) fun ha => ?_
  have hsilent := halone ha
  by_cases hbelow : below.any Frame.asks = true
  · obtain ⟨hplain, hown, -⟩ := ht.answers hsilent hbelow
    refine .inl ⟨by rw [hown, hplain.activities], ?_⟩
    rw [life_of_follows hplain.session trivial]
  · refine .inr fun a ha => ?_
    rcases Multiset.mem_add.1 ha with ha | ha
    · exact isDelivery_framesOver (by simpa using hbelow) a ha
    · obtain ⟨p, hp, ha⟩ := mem_doingOf.1 ha
      obtain ⟨hp, hne⟩ := hothers p hp
      exact h.isDelivery_of_not_isBusy hsilent hp (hrest p.1 (h.sane.placed p hp) hne) a ha

/-! ### Beginning, acting and losing -/

theorem sound_start (vars : Log.Variables) (level : Option Log.Level) :
    (start vars level).Sound := by
  have hthreads : (start vars level).threads = [(.main, { control := .give .unit })] := by
    cases level <;> rfl
  refine ⟨⟨?_, fun x hx => ?_, fun i hi => ?_, ?_, ?_⟩, ?_, ?_⟩
  · cases level <;> simp [start, setThread, setLogger]
  · cases x <;> cases level <;>
      simp [start, setThread, setLogger, Knows, Registry.object?, Registry.owns] at hx
  · cases level <;> simp [start, setThread, setLogger] at hi
  · simp [hthreads]
  · simp [hthreads, mem_precedence]
  · simp only [hthreads, List.mem_singleton, forall_eq]
    exact ⟨by simp [Control.mayFail], rfl⟩
  · simp [hthreads]

/-- The life of a job and the work for it when a run begins. -/
theorem jobRun_start (vars : Log.Variables) (level : Option Log.Level) (j : HandleId) :
    JobLife.Run j ((start vars level).jobLife j) ((start vars level).worksFor j) := by
  have hlife : (start vars level).jobLife j = .unborn 1 := by cases level <;> rfl
  have hworks : (start vars level).worksFor j = 0 := by cases level <;> rfl
  rw [hlife, hworks]
  exact .unborn 1

/-- The life and the activities when a run begins. -/
theorem run_start (alone : Prop) (vars : Log.Variables) (level : Option Log.Level) (f : HandleId) :
    Life.Run f alone ((start vars level).life f) ((start vars level).doing f) := by
  have hlife : (start vars level).life f = .unborn 1 := by cases level <;> rfl
  have hdoing : (start vars level).doing f = 0 := by cases level <;> rfl
  rw [hlife, hdoing]
  exact .unborn 1

/-- The threads when the main thread begins an action. -/
theorem MainIdle.exists_threads (h : s.MainIdle) (a : Action) :
    ∃ before after r, s.threads = before ++ (.main, { control := .give r, stack := [] }) :: after ∧
      (s.beginAction a).threads
        = before ++ (.main, { control := .run (.perform a) }) :: after := by
  obtain ⟨r, hr⟩ := h
  obtain ⟨before, after, hthreads, hne⟩ := Assoc.exists_of_get? hr
  refine ⟨before, after, r, hthreads, ?_⟩
  simp only [beginAction, setThread, hthreads]
  exact Assoc.insert_append_cons hne _ _

theorem Sound.act (h : s.Sound) (hidle : s.MainIdle) (a : Action) : (s.beginAction a).Sound := by
  obtain ⟨before, after, r, hbefore, hafter⟩ := hidle.exists_threads a
  have hkeys : (s.beginAction a).threads.map Prod.fst = s.threads.map Prod.fst := by
    simp [hbefore, hafter]
  have hmem : ∀ p ∈ (s.beginAction a).threads, p ∈ s.threads ∨
      p = (.main, { control := .run (.perform a) }) := by
    intro p hp
    rw [hafter] at hp
    rw [hbefore]
    grind
  refine ⟨⟨h.sane.positive, h.sane.knows, h.sane.invokers, hkeys ▸ h.sane.keys, fun p hp => ?_⟩,
    fun p hp => ?_, fun hsilent p hp hasks => ?_⟩
  · rcases hmem p hp with hp | rfl
    · exact h.sane.placed p hp
    · exact mem_precedence.2 (.inl rfl)
  · rcases hmem p hp with hp | rfl
    · exact h.guarded p hp
    · exact ⟨fun _ => rfl, rfl⟩
  · rcases hmem p hp with hp | rfl
    · exact h.asks hsilent p hp hasks
    · simp at hasks

theorem run_act {alone : Prop} {f : HandleId} (hidle : s.MainIdle) (a : Action)
    (hrun : Life.Run f alone (s.life f) (s.doing f)) :
    Life.Run f alone ((s.beginAction a).life f) ((s.beginAction a).doing f) := by
  obtain ⟨before, after, r, hbefore, hafter⟩ := hidle.exists_threads a
  have hdoing : (s.beginAction a).doing f = s.doing f := by
    show doingOf f (s.beginAction a).threads = doingOf f s.threads
    rw [hbefore, hafter, doingOf_append, doingOf_append, doingOf_cons, doingOf_cons]
    rfl
  rw [hdoing]
  exact hrun

theorem jobRun_act {j : HandleId} (hidle : s.MainIdle) (a : Action)
    (hrun : JobLife.Run j (s.jobLife j) (s.worksFor j)) :
    JobLife.Run j ((s.beginAction a).jobLife j) ((s.beginAction a).worksFor j) := by
  obtain ⟨before, after, r, hbefore, hafter⟩ := hidle.exists_threads a
  have hworks : (s.beginAction a).worksFor j = s.worksFor j := by
    show worksOf j (s.beginAction a).threads = worksOf j s.threads
    rw [hbefore, hafter, worksOf_append, worksOf_append, worksOf_cons, worksOf_cons]
    rfl
  rw [hworks]
  exact hrun

/-- What is left of a queue and the task that was lost are what was queued. -/
theorem eraseIdx_append_perm {subs : List Submission} {n : Nat} {sub : Submission}
    (h : subs[n]? = some sub) : (subs.eraseIdx n ++ [sub]).Perm subs := by
  obtain ⟨hn, rfl⟩ := List.getElem?_eq_some_iff.1 h
  exact (List.perm_append_singleton _ _).trans (List.getElem_cons_eraseIdx_perm hn)

theorem loseTask_step (f : HandleId) (i : InvokerId) (position : Nat) :
    Life.Step f (s.life f) [] ((s.loseTask i position).life f) [] ∧
      ((s.loseTask i position).life f).function = (s.life f).function := by
  unfold loseTask
  split
  · exact ⟨.aside [] le_rfl, rfl⟩
  · next inv hi =>
    split
    · exact ⟨.aside [] le_rfl, rfl⟩
    · next sub hsub =>
      have hqueued : (s.life f).queued i
          = inv.queue.pending.filterMap fun sub => sub.task.part? f := tasksOf_eq hi
      have hperm := (eraseIdx_append_perm hsub).filterMap fun sub => sub.task.part? f
      rw [List.filterMap_append, ← hqueued] at hperm
      have hsublist := (List.eraseIdx_sublist inv.queue.pending position).filterMap
        fun sub => sub.task.part? f
      rw [← hqueued] at hsublist
      rw [life_signal, life_emit, life_modifyInvoker hi, Invoker.tasksOf, Invoker.queue_withQueue]
      exact ⟨.discard i hsublist hperm, rfl⟩

theorem loseTask_jobStep (j : HandleId) (i : InvokerId) (position : Nat) :
    JobLife.Step j (s.jobLife j) [] ((s.loseTask i position).jobLife j) [] := by
  unfold loseTask
  split
  · exact .aside [] le_rfl
  · next inv hi =>
    split
    · exact .aside [] le_rfl
    · next sub hsub =>
      have hqueued : (s.jobLife j).queued i
          = inv.queue.pending.filterMap fun sub => sub.task.workOf? j := workOf_eq hi
      have hperm := (eraseIdx_append_perm hsub).filterMap fun sub => sub.task.workOf? j
      rw [List.filterMap_append, ← hqueued] at hperm
      rw [jobLife_signal, jobLife_emit, jobLife_modifyInvoker hi, Invoker.workOf,
        Invoker.queue_withQueue]
      exact .discard i hperm

theorem follows_loseTask (i : InvokerId) (position : Nat) :
    Follows (· = .multiplexers) s (s.loseTask i position) := by
  unfold loseTask
  split
  · rfl
  · split
    · rfl
    · next sub hsub =>
      rw [follows_signal, follows_emit, follows_modifyInvoker _ (by simp)]
      rintro x rfl
      simpa using topic?_discarded_ne i sub

theorem Sound.lose (h : s.Sound) (i : InvokerId) (position : Nat) :
    (s.loseTask i position).Sound := by
  have hfollows := follows_loseTask (s := s) i position
  refine ⟨(hfollows.grows h.sane).sane, hfollows.threads ▸ h.guarded, fun hsilent => ?_⟩
  rw [hfollows.threads]
  refine h.asks fun slot e => ?_
  have := hfollows.scripts slot e
  simpa [hsilent slot e] using this

/-- A session that some run arrives at is sound. -/
theorem Reachable.sound (h : s.Reachable) : s.Sound := by
  induction h with
  | start vars level => exact sound_start vars level
  | act a _ hidle ih => exact ih.act hidle a
  | step t _ _ hstep ih => exact ih.step hstep
  | lose i position _ ih => exact ih.lose i position

/-- A session that some run arrives at shows a run in the life of every function; if engines are
silent, deliveries are alone. -/
theorem Reachable.run {alone : Prop} (h : s.Reachable) (f : HandleId)
    (halone : alone → s.EnginesSilent) : Life.Run f alone (s.life f) (s.doing f) := by
  induction h with
  | start vars level => exact run_start alone vars level f
  | act a _ hidle ih => exact run_act hidle a (ih halone)
  | @step s s' t hr hrest hstep ih =>
    have hsilent (ha : alone) : s.EnginesSilent := by
      obtain ⟨th, below, m, own, works, ht⟩ := hr.sound.exists_taken hstep
      exact ht.silent (halone ha)
    exact hr.sound.run_step hrest hstep hsilent (ih hsilent)
  | @lose s i position _ ih =>
    have hfollows := follows_loseTask (s := s) i position
    have hsilent (ha : alone) : s.EnginesSilent := fun slot e => by
      have := hfollows.scripts slot e
      simpa [halone ha slot e] using this
    obtain ⟨hstep, hfunction⟩ := loseTask_step (s := s) f i position
    have hdoing : (s.loseTask i position).doing f = s.doing f := by
      rw [doing, doing, hfollows.threads]
    have hrun : Life.Run f alone (s.life f) (([] : List Activity) + s.doing f) := by
      simpa using ih hsilent
    rw [hdoing]
    simpa using hrun.step hstep fun _ => .inl ⟨rfl, hfunction⟩

/-- A session that some run arrives at shows a run in the life of every job. -/
theorem Reachable.jobRun (h : s.Reachable) (j : HandleId) :
    JobLife.Run j (s.jobLife j) (s.worksFor j) := by
  induction h with
  | start vars level => exact jobRun_start vars level j
  | act a _ hidle ih => exact jobRun_act hidle a ih
  | @step s s' t hr _ hstep ih =>
    obtain ⟨th, below, m, own, works, ht⟩ := hr.sound.exists_taken hstep
    obtain ⟨kept, hworks, hworks'⟩ := ht.exists_kept_works j
    have hlife : s'.jobLife j = m.session.jobLife j := by
      rw [ht.result]
      rfl
    rw [hworks] at ih
    rw [hworks', hlife]
    exact ih.step (ht.does.work j)
  | @lose s i position _ ih =>
    have hworks : (s.loseTask i position).worksFor j = s.worksFor j := by
      rw [worksFor, worksFor, (follows_loseTask i position).threads]
    have hrun : JobLife.Run j (s.jobLife j) (([] : List Work) + s.worksFor j) := by simpa using ih
    rw [hworks]
    simpa using hrun.step (loseTask_jobStep j i position)

/-- A step of a thread is a step of the multiplexers. -/
theorem Reachable.multiplexersStep (h : s.Reachable) (hstep : s.step t = some s') :
    Multiplexers.Step s.multiplexers s'.multiplexers := by
  obtain ⟨th, below, m, own, works, ht⟩ := h.sound.exists_taken hstep
  have hroute : s'.multiplexers = m.session.multiplexers := by
    rw [ht.result]
    rfl
  rw [hroute]
  exact ht.does.route

theorem loseTask_multiplexersStep (i : InvokerId) (position : Nat) :
    Multiplexers.Step s.multiplexers (s.loseTask i position).multiplexers := by
  rw [multiplexers_of_follows (follows_loseTask i position) rfl]
  exact .aside (follows_loseTask i position).ids

/-- A session that some run arrives at shows a run of the multiplexers. -/
theorem Reachable.multiplexersRun (h : s.Reachable) : s.multiplexers.Run := by
  induction h with
  | start vars level =>
    have hstart : (Session.start vars level).multiplexers = .initial := by cases level <;> rfl
    rw [hstart]
    exact .initial
  | act a _ hidle ih => exact ih
  | step t hr _ hstep ih => exact ih.step (hr.multiplexersStep hstep)
  | lose i position _ ih => exact ih.step (loseTask_multiplexersStep i position)

end Session

end AddonHost
