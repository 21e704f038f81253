import AddonHost.Proofs.Interchange.Acting
import AddonHost.Proofs.Interchange.Tasks

/-!
A queue that is drained.

The main thread of one session pumps its invoker, and the interpreter thread of the other runs what
its invoker has queued.  Both run the same tasks in the same order (`Session.Draining.step`), and
when nothing is queued any more, the interpreter thread waits and the pump is over
(`Session.Drained`).

The main thread beside the interpreter thread has nothing to do, or it is late (`Session.Lags`): it
has waited for a task that is over now, and it hands the outcome on when its turn comes, before or
after any of the tasks that are queued behind (`Session.Draining.advance`).
-/

namespace AddonHost

namespace Session

open Relation

variable {i : InvokerId} {name : String} {own : ThreadId} {kept k : ℕ} {control : Control}
  {inner below tail : List Frame} {r r' : Reply} {sub sub' : Submission} {th th' : Thread}
  {s s' d d' d₁ u : Session} {n : ℕ} {m : Move} {work : List (Task × Option ℕ)}

/-- Completions are made before they are signalled. -/
def SignalsMade (d : Session) : Prop := ∀ c ∈ d.signalled, c < d.completions

theorem SignalsMade.of_eq (h : d.SignalsMade) (hcompletions : d'.completions = d.completions)
    (hsignalled : d'.signalled = d.signalled) : d'.SignalsMade := by
  rw [SignalsMade, hcompletions, hsignalled]
  exact h

theorem SignalsMade.apply (h : d.SignalsMade) (hm : m.session.desk = d.desk)
    (t : ThreadId) (below : List Frame) : (Session.apply m t below).SignalsMade :=
  h.of_eq (congrArg Desk.completions hm) (congrArg Desk.signalled hm)

/-! ### A main thread that goes on -/

/-- The main thread has gone on to what it is doing now, while the other threads stayed where they
were; nothing has happened on stage. -/
structure Moved (s s' : Session) (th : Thread) : Prop where
  only : ReflTransGen Only s s'
  main : s'.threads.get? .main = some th
  others : ∀ t, t ≠ .main → s'.threads.get? t = s.threads.get? t
  onstage : s'.onstage = s.onstage
  completions : s'.completions = s.completions
  signalled : s'.signalled = s.signalled
  invokers : s'.invokers.length = s.invokers.length

theorem Moved.refl (h : s.threads.get? .main = some th) : Moved s s th :=
  ⟨.refl, h, fun _ _ => rfl, rfl, rfl, rfl, rfl⟩

theorem Moved.running (h : Moved s s' th) (hrunning : s.halted = false) : s'.halted = false :=
  (halted_eq h.onstage).trans hrunning

/-- A main thread in the middle of an operation goes on. -/
theorem Moved.step (h : Moved s u th) (hothers : s.OthersAtRest .main)
    (hbusy : th.atRest = false) (hm : u.step .main = some (apply m .main below))
    (hbehind : Behind u m.session) :
    Moved s (apply m .main below) { control := m.control, stack := m.frames ++ below } := by
  have hprecedence : u.precedence = s.precedence := by
    simp [precedence, h.invokers, producers_eq h.onstage]
  have hrest : u.OthersAtRest .main := fun t ht htm => by
    rw [← hothers t (hprecedence ▸ ht) htm]
    simp [isBusy, h.others t htm]
  have honly := only_of_isBusy u.main_mem_precedence (by simp [isBusy, h.main, hbusy]) hrest hm
  refine ⟨h.only.tail honly, threads_apply m .main below, fun t ht => ?_,
    hbehind.onstage.trans h.onstage, ?_, ?_, ?_⟩
  · exact (get?_threads_apply_of_ne (congrArg Desk.threads hbehind.desk) ht).trans (h.others t ht)
  · exact (congrArg Desk.completions hbehind.desk).trans h.completions
  · exact (congrArg Desk.signalled hbehind.desk).trans h.signalled
  · exact (congrArg Desk.invokers hbehind.desk).trans h.invokers

theorem Alone.of_moved (h : s.Alone th) (hm : Moved s s' th') : s'.Alone th' :=
  ⟨hm.main, fun t ht => (hm.others t ht).trans (h.others t ht)⟩

theorem Paired.of_moved {th₂ : Thread} (h : d.Paired i th th₂) (hm : Moved d d' th') :
    d'.Paired i th' th₂ :=
  ⟨hm.main, (hm.others _ (by simp)).trans h.interpreter,
    fun t ht hti => (hm.others t ht).trans (h.others t ht hti), h.placed.trans_eq hm.invokers.symm⟩

/-- The main thread, whose item was delivered, lets go of the invoker and answers. -/
theorem exists_accepted
    (hs : s.threads.get? .main = some { control := .give r, stack := .called i :: tail })
    (htail : Tail tail) (hothers : s.OthersAtRest .main)
    (hwork : s.Employs i own work (kept + 1)) (hrunning : s.halted = false) :
    ∃ s', Moved s s' { control := .give (.answer (accepted tail)) } ∧
      s'.Employs i own work kept := by
  have hcalled := (Moved.refl hs).step hothers rfl (step_give hrunning hs) ⟨rfl, rfl⟩
  have hwork₁ : (apply (Frame.resume (.called i) .main s r) .main tail).Employs i own work
      (kept + 1) := hwork.of_invokers rfl
  obtain ⟨s₁, hlet, hbehind, hs₁⟩ := hwork₁.letGo .main (.outcome (.ok ()))
  have hgone : (apply (Frame.resume (.called i) .main s r) .main tail).step .main
      = some (apply (s₁.give (.outcome (.ok ()))) .main tail) :=
    step_run (hcalled.running hrunning) hcalled.main (congrArg some hlet)
  have hlast := hcalled.step hothers rfl hgone hbehind
  cases htail with
  | answer =>
    exact ⟨_, hlast.step hothers rfl (step_give (hlast.running hrunning) hlast.main) ⟨rfl, rfl⟩,
      hs₁.of_invokers rfl⟩
  | response =>
    have hresponse := hlast.step hothers rfl (step_give (hlast.running hrunning) hlast.main)
      ⟨rfl, rfl⟩
    exact ⟨_, hresponse.step hothers rfl (step_give (hresponse.running hrunning) hresponse.main)
      ⟨rfl, rfl⟩, hs₁.of_invokers rfl⟩

/-! ### A main thread that is late -/

/-- What a main thread is doing that has given the reply `r`: nothing, or it is going to do so, as
the task that it waits for is over; and how many it keeps the invoker alive. -/
inductive Lags (d : Session) (i : InvokerId) : Reply → ℕ → Thread → Prop where
  | idle (r : Reply) : Lags d i r 0 { control := .give r }
  | late {tail : List Frame} {c : ℕ} (htail : Tail tail) (hc : c ∈ d.signalled) :
    Lags d i (.answer (accepted tail)) 1
      { control := .run (.awaitTask i c), stack := .called i :: tail }

theorem Lags.atRest (h : d.Lags i r k th) : th.atRest = true := by
  cases h <;> rfl

theorem Lags.of_signalled (h : d.Lags i r k th) (hd : d'.signalled = d.signalled) :
    d'.Lags i r k th := by
  cases h with
  | idle => exact .idle r
  | late htail hc => exact .late htail (hd ▸ hc)

/-- A main thread that is late can step, and then replies. -/
theorem Paired.catchUp (h : d.Paired i th th') (hth : d.Lags i r 1 th) (hrest : th'.atRest = true)
    (hwork : d.Employs i own work (kept + 1)) (hrunning : d.halted = false) :
    ∃ d₁ d', d.step .main = some d₁ ∧ ReflTransGen Only d₁ d' ∧
      d'.Paired i { control := .give r } th' ∧ d'.onstage = d.onstage ∧
      d'.signalled = d.signalled ∧ d'.completions = d.completions ∧ d'.Employs i own work kept := by
  cases hth with
  | @late tail c htail hc =>
    have hgone : Code.step (.awaitTask i c) .main d = some (d.give .unit) := by
      simp [Code.step, awaitTask, hc]
    have hpaired := h.apply_main (m := d.give .unit) rfl rfl (.called i :: tail)
    obtain ⟨d', hmoved, hd'⟩ := exists_accepted hpaired.main htail
      (hpaired.othersAtRest_main.2 hrest) (hwork.of_invokers rfl) hrunning
    exact ⟨_, d', step_run hrunning h.main hgone, hmoved.only, hpaired.of_moved hmoved,
      hmoved.onstage, hmoved.signalled, hmoved.completions, hd'⟩

/-! ### Tasks that are taken -/

/-- An interpreter thread with nothing queued waits. -/
theorem Paired.step_loop (h : d.Paired i th { control := .run (.loop i) })
    (hempty : d.Employs i (.interpreter i) [] kept) : d.step (.interpreter i) = none := by
  unfold Session.step
  simp [h.interpreter, Code.step, hempty.loop_nil]

/-- The main thread pumps the queue of the one invoker, the interpreter thread empties that of the
other, and the main thread beside it has given the reply `r` or is late. -/
inductive Draining (i : InvokerId) (name : String) (r : Reply) (k : ℕ) :
    Session → Session → Prop where
  | between {s d : Session} {n : ℕ} {th : Thread}
    (habreast : Abreast i name .main (.interpreter i) 1 k s d)
    (hs : s.Alone { control := .run (.pump i (.drained n)) })
    (hd : d.Paired i th { control := .run (.loop i) }) (hth : d.Lags i r k th)
    (hmade : d.SignalsMade) : Draining i name r k s d
  | inside {s d : Session} {control : Control} {inner : List Frame} {n : ℕ}
    {sub sub' : Submission} {th : Thread}
    (hinner : Inner i name .main (.interpreter i) 1 k control inner s d)
    (hs : s.Alone
      { control, stack := inner ++ [.taskEnded i sub, .pumped i (.drained n)] })
    (hd : d.Paired i th { control, stack := inner ++ [.taskEnded i sub', .looped i] })
    (hth : d.Lags i r k th) (hsub : sub'.completion = none) (hmade : d.SignalsMade) :
    Draining i name r k s d

/-- Nothing is queued any more: the pump is about to answer, and the interpreter thread waits. -/
inductive Drained (i : InvokerId) (name : String) (r : Reply) (k : ℕ) :
    Session → Session → Prop where
  | halted {s d : Session} (honstage : s.onstage = d.onstage) (hs : s.halted = true) :
    Drained i name r k s d
  | done {s d : Session} {n : ℕ} {th : Thread} (honstage : s.onstage = d.onstage)
    (horder : s.InOrder i name) (hs : s.Alone { control := .run (.pump i (.drained n)) })
    (hd : d.Paired i th { control := .run (.loop i) }) (hth : d.Lags i r k th)
    (hempty : s.Employs i .main [] 1) (hempty' : d.Employs i (.interpreter i) [] k)
    (hmade : d.SignalsMade) : Drained i name r k s d

theorem Draining.onstage (h : Draining i name r k s d) : s.onstage = d.onstage := by
  cases h with
  | between habreast => exact habreast.onstage
  | inside hinner => exact hinner.abreast.onstage

theorem Drained.onstage (h : Drained i name r k s d) : s.onstage = d.onstage := by
  cases h with
  | halted honstage | done honstage => exact honstage

theorem Draining.exists_paired (h : Draining i name r k s d) :
    ∃ th th', d.Paired i th th' ∧ d.Lags i r k th := by
  cases h with
  | between _ _ hd hth => exact ⟨_, _, hd, hth⟩
  | inside _ _ hd hth => exact ⟨_, _, hd, hth⟩

/-- The task of a pump is over. -/
theorem Alone.taskEnded (h : s.Alone { control := .give r, stack := .taskEnded i sub :: below })
    (hrunning : s.halted = false) :
    ∃ s', s.Only s' ∧ s'.Alone { control := .give .unit, stack := below } ∧
      s'.onstage = s.onstage ∧ s'.invokers = s.invokers := by
  obtain ⟨honstage, hdesk, hinvokers⟩ := endTask_eq s i sub
  exact ⟨_, h.give hrunning, h.apply (congrArg Desk.threads hdesk) below, honstage, hinvokers⟩

/-- The task of an interpreter thread is over. -/
theorem Paired.taskEnded
    (h : d.Paired i th { control := .give r, stack := .taskEnded i sub :: below })
    (hrunning : d.halted = false) :
    ∃ d', d.step (.interpreter i) = some d' ∧
      d'.Paired i th { control := .give .unit, stack := below } ∧
      d'.onstage = d.onstage ∧ d'.invokers = d.invokers ∧
      d'.completions = d.completions ∧
      d'.signalled = sub.completion.toList ++ d.signalled := by
  obtain ⟨honstage, hdesk, hinvokers⟩ := endTask_eq d i sub
  exact ⟨_, step_give hrunning h.interpreter,
    h.apply_interpreter (m := (d.endTask (.ended i sub) sub).give .unit)
      (congrArg Desk.threads hdesk) (congrArg Desk.invokers hdesk) below,
    honstage, hinvokers, congrArg Desk.completions hdesk, congrArg Desk.signalled hdesk⟩

/-- The loop of an interpreter thread goes on after a task. -/
theorem Paired.looped (h : d.Paired i th { control := .give .unit, stack := [.looped i] })
    (hrest : th.atRest = true) (hrunning : d.halted = false)
    (hwork : d.Employs i (.interpreter i) work kept) :
    ∃ d', d.Only d' ∧ d'.Paired i th { control := .run (.loop i) } ∧ d'.onstage = d.onstage ∧
      d'.signalled = d.signalled ∧ d'.completions = d.completions ∧
      d'.Employs i (.interpreter i) work kept := by
  obtain ⟨d', hlooped, hbehind, hd'⟩ := hwork.afterLooped
  have hgo := h.give_interpreter hrunning hrest
  rw [show Frame.resume (.looped i) (.interpreter i) d .unit = _ from hlooped] at hgo
  exact ⟨_, hgo, h.apply_interpreter (m := d'.run (.loop i)) (congrArg Desk.threads hbehind.desk)
    (congrArg Desk.invokers hbehind.desk) [], hbehind.onstage,
    congrArg Desk.signalled hbehind.desk, congrArg Desk.completions hbehind.desk,
    hd'.of_invokers rfl⟩

/-- The oldest task is taken in both. -/
theorem Draining.begin {task : Task} {tasks : List Task} (honstage : s.onstage = d.onstage)
    (horder : s.InOrder i name) (htasks : ∀ task' ∈ task :: tasks, task'.isLight = true)
    (hwork : s.Employs i .main ((task :: tasks).map (·, none)) 1)
    (hwork' : d.Employs i (.interpreter i) ((task :: tasks).map (·, none)) k)
    (hrunning : s.halted = false)
    (hs : s.Alone { control := .run (.pump i (.drained n)) })
    (hd : d.Paired i th { control := .run (.loop i) }) (hth : d.Lags i r k th)
    (hmade : d.SignalsMade) :
    ∃ s' d', TransGen Only s s' ∧ d.step (.interpreter i) = some d' ∧
      Draining i name r k s' d' := by
  have hrunning' : d.halted = false := halted_eq honstage ▸ hrunning
  obtain ⟨sub, s', hpump, hbehind, hs'⟩ := hwork.pump (.drained n)
  obtain ⟨sub', d', hloop, hsub, hbehind', hd'⟩ := hwork'.loop
  have hinner : Inner i name .main (.interpreter i) 1 k (.run (.task i task)) []
      (apply (s'.run (.task i task) [.taskEnded i sub, .pumped i (.drained n)]) .main [])
      (apply (d'.run (.task i task) [.taskEnded i sub', .looped i]) (.interpreter i) []) := by
    refine ⟨Abreast.apply ⟨?_, ?_, tasks, ?_, hs', hd'⟩ .main (.interpreter i) [] [], ?_, rfl⟩
    · exact hbehind.onstage.trans (honstage.trans hbehind'.onstage.symm)
    · exact (inOrder_iff hbehind.onstage).2 horder
    · exact fun task' htask' => htasks task' (List.mem_cons_of_mem _ htask')
    · exact htasks task List.mem_cons_self
  have halone := hs.apply (m := s'.run (.task i task) [.taskEnded i sub, .pumped i (.drained n)])
    (congrArg Desk.threads hbehind.desk) []
  have hpaired := hd.apply_interpreter (m := d'.run (.task i task) [.taskEnded i sub', .looped i])
    (congrArg Desk.threads hbehind'.desk) (congrArg Desk.invokers hbehind'.desk) []
  exact ⟨_, _, .single (hs.run hrunning (congrArg some hpump)),
    step_run hrunning' hd.interpreter hloop, .inside hinner halone hpaired
      (hth.of_signalled (congrArg Desk.signalled hbehind'.desk)) hsub
      (hmade.apply hbehind'.desk _ _)⟩

/-- The task is over in both. -/
theorem Draining.finish (habreast : Abreast i name .main (.interpreter i) 1 k s d)
    (hrunning : s.halted = false)
    (hs : s.Alone { control := .give r', stack := [.taskEnded i sub, .pumped i (.drained n)] })
    (hd : d.Paired i th { control := .give r', stack := [.taskEnded i sub', .looped i] })
    (hth : d.Lags i r k th) (hsub : sub'.completion = none) (hmade : d.SignalsMade) :
    ∃ s' d₁ d', TransGen Only s s' ∧ d.step (.interpreter i) = some d₁ ∧
      ReflTransGen Only d₁ d' ∧ Draining i name r k s' d' := by
  have hrunning' : d.halted = false := halted_eq habreast.onstage ▸ hrunning
  obtain ⟨tasks, htasks, hwork, hwork'⟩ := habreast.work
  obtain ⟨s₁, hs₁, halone, honstage, hinvokers⟩ := hs.taskEnded hrunning
  obtain ⟨d₁, hd₁, hpaired, honstage', hinvokers', hcompletions, hsignalled⟩ :=
    hd.taskEnded hrunning'
  rw [hsub] at hsignalled
  obtain ⟨s₂, hpumped, hbehind, hs₂⟩ := (hwork.of_invokers hinvokers).afterPumped n
  obtain ⟨d₂, hd₂, hpaired₂, honstage₂, hsignalled₂, hcompletions₂, hwork₂⟩ :=
    hpaired.looped hth.atRest ((halted_eq honstage').trans hrunning')
      (hwork'.of_invokers hinvokers')
  have hgo := halone.give ((halted_eq honstage).trans hrunning)
  rw [show Frame.resume (.pumped i (.drained n)) .main s₁ .unit = _ from hpumped] at hgo
  have halone₂ := halone.apply (m := s₂.run (.pump i (.drained (n + 1))))
    (congrArg Desk.threads hbehind.desk) []
  refine ⟨_, d₁, d₂, .tail (.single hs₁) hgo, hd₁, .single hd₂, .between ⟨?_, ?_, tasks, htasks,
    hs₂.of_invokers rfl, hwork₂⟩ halone₂ hpaired₂ (hth.of_signalled (hsignalled₂.trans hsignalled))
    (hmade.of_eq (hcompletions₂.trans hcompletions) (hsignalled₂.trans hsignalled))⟩
  · exact (hbehind.onstage.trans honstage).trans
      (habreast.onstage.trans (honstage₂.trans honstage').symm)
  · exact (inOrder_iff (hbehind.onstage.trans honstage)).2 habreast.order

/-- The queue is empty in both, or the interpreter thread can step: then the next task begins, goes
on or is over in both. -/
theorem Draining.step (h : Draining i name r k s d) (hover : s.IsServedBy i) :
    Drained i name r k s d ∨
      ∃ s' d₁ d', TransGen Only s s' ∧ d.step (.interpreter i) = some d₁ ∧
        ReflTransGen Only d₁ d' ∧ Draining i name r k s' d' := by
  have honstage := h.onstage
  by_cases hhalted : s.halted = true
  · exact .inl (.halted honstage hhalted)
  have hrunning : s.halted = false := Bool.eq_false_iff.2 hhalted
  cases h with
  | between habreast hs hd hth hmade =>
    obtain ⟨tasks, htasks, hwork, hwork'⟩ := habreast.work
    cases tasks with
    | nil => exact .inl (.done honstage habreast.order hs hd hth hwork hwork' hmade)
    | cons task tasks =>
      obtain ⟨s', d', hs', hd', hnext⟩ :=
        begin honstage habreast.order htasks hwork hwork' hrunning hs hd hth hmade
      exact .inr ⟨s', d', d', hs', hd', .refl, hnext⟩
  | @inside control inner n sub sub' th hinner hs hd hth hsub hmade =>
    rcases hinner.step hover hrunning hs.main hd.interpreter with
      ⟨r', rfl, rfl⟩ | ⟨m, m', rest, hm, hm', hcontrol, hframes, hdesk, hdesk', hnext⟩
    · exact .inr (finish hinner.abreast hrunning hs hd hth hsub hmade)
    · have halone := hs.apply (congrArg Desk.threads hdesk)
        (rest ++ [.taskEnded i sub, .pumped i (.drained n)])
      have hpaired := hd.apply_interpreter (congrArg Desk.threads hdesk')
        (congrArg Desk.invokers hdesk') (rest ++ [.taskEnded i sub', .looped i])
      rw [← List.append_assoc] at halone hpaired
      rw [← hcontrol, ← hframes] at hpaired
      exact .inr ⟨_, _, _, .single (hs.only hm), hm', .refl, .inside hnext halone hpaired
        (hth.of_signalled (congrArg Desk.signalled hdesk')) hsub (hmade.apply hdesk' _ _)⟩

/-- The interpreter thread follows a pump. -/
theorem Draining.follow (h : Draining i name r k s d) (hover : s.IsServedBy i) :
    Drained i name r k s d ∨
      ∃ s' d', TransGen Only s s' ∧ ReflTransGen Goes d d' ∧ Draining i name r k s' d' := by
  obtain ⟨th, th', hd, hth⟩ := h.exists_paired
  refine (h.step hover).imp_right fun ⟨s', d₁, d', hs', hd₁, hd', hnext⟩ => ?_
  exact ⟨s', d', hs', .head (hd.goes_iff.2 (.inr ⟨hth.atRest, hd₁⟩)) (goes_of_only hd'), hnext⟩

/-- The main thread that is late goes on between two steps of the interpreter thread. -/
theorem Draining.catchUp (h : Draining i name r 1 s d) (hgoes : d.OthersAtRest .main)
    (hstep : d.step .main = some d₁) :
    ∃ d', ReflTransGen Only d₁ d' ∧ Draining i name r 0 s d' := by
  have hrunning : d.halted = false := by
    by_contra hhalted
    exact rests_of_halted (by simpa using hhalted) d₁ ⟨.main, hgoes, hstep⟩
  cases h with
  | between habreast hs hd hth hmade =>
    obtain ⟨tasks, htasks, hwork, hwork'⟩ := habreast.work
    obtain ⟨d₂, d', hd₂, hd', hpaired, honstage, hsignalled, hcompletions, hlet⟩ :=
      hd.catchUp hth rfl hwork' hrunning
    obtain rfl : d₁ = d₂ := Option.some.inj (hstep.symm.trans hd₂)
    exact ⟨d', hd', .between ⟨habreast.onstage.trans honstage.symm, habreast.order, tasks, htasks,
      hwork, hlet⟩ hs hpaired (.idle r) (hmade.of_eq hcompletions hsignalled)⟩
  | @inside control inner _ _ _ _ hinner hs hd hth hsub hmade =>
    obtain ⟨⟨hsame, horder, tasks, htasks, hwork, hwork'⟩, hcontrol, hframes⟩ := hinner
    rw [Nat.add_comm 1] at hwork'
    obtain ⟨d₂, d', hd₂, hd', hpaired, honstage, hsignalled, hcompletions, hlet⟩ :=
      hd.catchUp hth (hd.othersAtRest_main.1 hgoes) hwork' hrunning
    obtain rfl : d₁ = d₂ := Option.some.inj (hstep.symm.trans hd₂)
    rw [← Nat.zero_add (control.keeps + keepsOf inner)] at hlet
    exact ⟨d', hd', .inside ⟨⟨hsame.trans honstage.symm, horder, tasks, htasks, hwork, hlet⟩,
      hcontrol, hframes⟩ hs hpaired (.idle r) hsub (hmade.of_eq hcompletions hsignalled)⟩

/-- Whoever steps in the session with the interpreter thread, the pump follows, until the main
thread has replied and nothing is queued any more. -/
theorem Draining.advance (h : Draining i name r k s d) (hover : s.IsServedBy i) :
    Drained i name r 0 s d ∨ (∃ x, d.Goes x) ∧ ∀ x, d.Goes x →
      ∃ s' d', ReflTransGen Goes s s' ∧ ReflTransGen Only x d' ∧
        ∃ k', Draining i name r k' s' d' := by
  obtain ⟨th, th', hd, hth⟩ := h.exists_paired
  rcases h.step hover with hdone | ⟨s', d₁, d', hs', hd₁, hd', hnext⟩
  · cases hth with
    | idle => exact .inl hdone
    | late htail hc =>
      cases hdone with
      | halted honstage hs => exact .inl (.halted honstage hs)
      | done honstage horder hs hd hth hempty hempty' hmade =>
        by_cases hhalted : s.halted = true
        · exact .inl (.halted honstage hhalted)
        obtain ⟨d₁, -, hd₁, -⟩ :=
          hd.catchUp hth rfl hempty' (halted_eq honstage ▸ Bool.eq_false_iff.2 hhalted)
        refine .inr ⟨⟨d₁, hd.goes_iff.2 (.inl ⟨rfl, hd₁⟩)⟩, fun x hx => ?_⟩
        rcases hd.goes_iff.1 hx with ⟨-, hx⟩ | ⟨-, hx⟩
        · obtain ⟨d', hd', hnext⟩ := h.catchUp (hd.othersAtRest_main.2 rfl) hx
          exact ⟨s, d', .refl, hd', 0, hnext⟩
        · simp [hd.step_loop hempty'] at hx
  · refine .inr ⟨⟨d₁, hd.goes_iff.2 (.inr ⟨hth.atRest, hd₁⟩)⟩, fun x hx => ?_⟩
    rcases hd.goes_iff.1 hx with ⟨hrest, hx⟩ | ⟨-, hx⟩
    · cases hth with
      | idle => simp [step_idle hd.main] at hx
      | late htail hc =>
        obtain ⟨d', hd', hnext⟩ := h.catchUp (hd.othersAtRest_main.2 hrest) hx
        exact ⟨s, d', .refl, hd', 0, hnext⟩
    · obtain rfl : d₁ = x := Option.some.inj (hd₁.symm.trans hx)
      exact ⟨s', d', goes_of_only hs'.to_reflTransGen, hd', k, hnext⟩

end Session

end AddonHost
