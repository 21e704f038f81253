import AddonHost.Proofs.Function.Ledger
import AddonHost.Proofs.Interchange.Operating
import AddonHost.Proofs.Session.Onward

/-!
Exchanging invokers.

An addon is served by a queue that the main thread pumps, or by an interpreter thread.  The main
thread performs operations on threadsafe functions and on async work, callbacks perform some of
their own, and after each operation the queue is pumped or the interpreter thread is left to become
idle.  The two threads may step in any order, each finishing what it has begun (`Session.Settles`).

* `Reachable.interchangeable`: the operations have the same answers, the same events are seen on
  stage in the same order, callbacks and their arguments among them, and the functions and the jobs
  are the same in the end.

All functions have to be over the invoker.  One that is over none is torn down at once by whoever
closes it; its finalizer, which then runs on the main thread, may call another function first
without and then with waiting, and only the interpreter thread delivers the two items in order.
-/

namespace AddonHost

namespace Session

open Relation

variable {i : InvokerId} {name : String} {u v s s' s'' d d' d'' : Session} {a : Action}
  {x : Answer} {r : Reply} {n : ℕ} {w w' : List (Action × Answer)} {t : ThreadId}

/-- The main thread performs an action: threads step, in some order, until none can, the process is
not aborted, and the action has an answer. -/
structure Answers (s : Session) (a : Action) (x : Answer) (s' : Session) : Prop where
  settles : (s.beginAction a).Settles s'
  answer : s'.mainAnswer? = some x
  running : s'.halted = false

/-- The main thread performs actions, one after the other, and they have these answers. -/
inductive Performs : Session → List (Action × Answer) → Session → Prop where
  | nil (s : Session) : Performs s [] s
  | cons {s s' s'' : Session} {a : Action} {x : Answer} {w : List (Action × Answer)} :
    Answers s a x s' → Performs s' w s'' → Performs s ((a, x) :: w) s''

/-- The second list is the first with a pump of the invoker after each action, whatever the pumps
answer. -/
inductive Pumped (name : String) : List (Action × Answer) → List (Action × Answer) → Prop where
  | nil : Pumped name [] []
  | cons (p : Action × Answer) (n : ℕ) {w w' : List (Action × Answer)} :
    Pumped name w w' → Pumped name (p :: w) (p :: (.pump name (.drained 0), .count n) :: w')

/-! ### Functions over the invoker -/

theorem Reachable.of_goes (h : s.Reachable) (hs : ReflTransGen Goes s s') : s'.Reachable := by
  induction hs with
  | refl => exact h
  | tail _ hnext ih =>
    obtain ⟨t, hrest, ht⟩ := hnext
    exact ih.step t hrest ht

/-- A function is over the same invoker ever after. -/
theorem Reachable.isServedBy_of_goes (h : s.Reachable) (hs : ReflTransGen Goes s s')
    (hover : s'.IsServedBy i) : s.IsServedBy i := by
  induction hs with
  | refl => exact hover
  | @tail u v hu hnext ih =>
    refine ih fun f fn hf => ?_
    obtain ⟨t, -, hstep⟩ := hnext
    obtain ⟨th, below, m, own, works, ht⟩ := (h.of_goes hu).sound.exists_taken hstep
    obtain ⟨fn', hf', hinvoker, -⟩ := (ht.does.step f).exists_function hf
    rw [← hinvoker]
    exact hover f fn' (by rw [ht.result]; exact hf')

theorem mainIdle_of_mainAnswer? (h : s.mainAnswer? = some x) :
    s.threads.get? .main = some { control := .give (.answer x) } := by
  unfold mainAnswer? at h
  split at h
  · next a ha =>
    obtain rfl := Option.some.inj h
    exact ha
  · simp at h

theorem Answers.mainIdle (h : Answers s a x s') : s'.MainIdle :=
  ⟨_, mainIdle_of_mainAnswer? h.answer⟩

theorem Answers.reachable (h : Answers s a x s') (hs : s.Reachable) (hidle : s.MainIdle) :
    s'.Reachable :=
  (hs.act a hidle).of_goes h.settles.goes

theorem Answers.running_before (h : Answers s a x s') : s.halted = false :=
  h.settles.running h.running

theorem Performs.isServedBy (h : Performs s w s') (hs : s.Reachable) (hidle : s.MainIdle)
    (hover : s'.IsServedBy i) : s.IsServedBy i := by
  induction h with
  | nil => exact hover
  | @cons s s₁ s'' a x w ha _ ih =>
    have hfirst := ih (ha.reachable hs hidle) ha.mainIdle hover
    exact (hs.act a hidle).isServedBy_of_goes ha.settles.goes hfirst

/-! ### Between two operations -/

/-- Between two operations: the sessions are the same on stage, nothing is queued in either, and the
main threads are idle. -/
structure Alike (i : InvokerId) (name : String) (s d : Session) : Prop where
  onstage : s.onstage = d.onstage
  order : s.InOrder i name
  empty : s.Employs i .main [] 0
  empty' : d.Employs i (.interpreter i) [] 0
  alone : ∃ r, s.Alone { control := .give r }
  paired : ∃ r, d.Paired i { control := .give r } { control := .run (.loop i) }
  made : d.SignalsMade

theorem Alone.beginAction {th : Thread} (h : s.Alone th) (a : Action) :
    (s.beginAction a).Alone { control := .run (.perform a) } := by
  refine ⟨by simp [Session.beginAction, setThread, Assoc.get?_insert], fun t ht => ?_⟩
  simp [Session.beginAction, setThread, Assoc.get?_insert, Ne.symm ht, h.others t ht]

theorem Paired.beginAction {th th' : Thread} (h : d.Paired i th th') (a : Action) :
    (d.beginAction a).Paired i { control := .run (.perform a) } th' := by
  refine ⟨by simp [Session.beginAction, setThread, Assoc.get?_insert], ?_, fun t ht hti => ?_,
    h.placed⟩
  · simp [Session.beginAction, setThread, Assoc.get?_insert, h.interpreter]
  · simp [Session.beginAction, setThread, Assoc.get?_insert, Ne.symm ht, h.others t ht hti]

theorem Alike.operating (h : Alike i name s d) (ha : a.isOperation false = true) :
    Operating i name (s.beginAction a) (d.beginAction a) := by
  obtain ⟨r, hs⟩ := h.alone
  obtain ⟨r', hd⟩ := h.paired
  exact .acting (.perform ha) ⟨⟨h.onstage, h.order, [], by simp, h.empty.of_invokers rfl,
    h.empty'.of_invokers rfl⟩, hs.beginAction a, hd.beginAction a, h.made⟩
    (h.empty.of_invokers rfl) (h.empty'.of_invokers rfl)

/-! ### After an operation -/

/-- The main thread that is alone has given the reply `r`; the other one has, too, or it is late. -/
structure Replied (i : InvokerId) (name : String) (r : Reply) (k : ℕ) (s d : Session) : Prop where
  abreast : Abreast i name .main (.interpreter i) 0 k s d
  alone : s.Alone { control := .give r }
  paired : ∃ th, d.Paired i th { control := .run (.loop i) } ∧ d.Lags i r k th
  made : d.SignalsMade

/-- The main thread that is alone comes to a reply, if the process is not aborted and no main thread
waits for ever. -/
theorem Operated.exists_replied (h : Operated i name s d)
    (hstuck : (∀ u, ¬ s.Goes u) → (∀ u, ¬ d.Goes u) →
      s.halted = false ∧ (s.MainIdle ∨ d.MainIdle)) :
    ∃ s' r k, ReflTransGen Only s s' ∧ Replied i name r k s' d := by
  by_cases hhalted : s.halted = true
  · have hrunning := (hstuck (rests_of_halted hhalted)
      (rests_of_halted (halted_eq h.onstage ▸ hhalted))).1
    simp [hhalted] at hrunning
  cases h with
  | halted _ hs => exact absurd hs hhalted
  | waiting htogether hs hd =>
    obtain ⟨-, ⟨r, hr⟩ | ⟨r, hr⟩⟩ := hstuck hs hd
    · simp [htogether.alone.main] at hr
    · simp [htogether.paired.main] at hr
  | @replied r htogether =>
    exact ⟨s, r, 0, .refl, htogether.abreast, htogether.alone, ⟨_, htogether.paired, .idle r⟩,
      htogether.made⟩
  | delivered htail habreast hs hd hc hmade =>
    obtain ⟨tasks, htasks, hwork, hwork'⟩ := habreast.work
    obtain ⟨s', hmoved, hlet⟩ := exists_accepted hs.main htail
      (fun t _ ht => isBusy_eq_false (hs.others t ht)) hwork (Bool.eq_false_iff.2 hhalted)
    exact ⟨s', _, 1, hmoved.only, ⟨hmoved.onstage.trans habreast.onstage,
      (inOrder_iff hmoved.onstage).2 habreast.order, tasks, htasks, hlet, hwork'⟩,
      hs.of_moved hmoved, ⟨_, hd, .late htail hc⟩, hmade⟩

/-- A main thread that is late may go first. -/
theorem Replied.catchUp (h : Replied i name r k s d) (hrunning : s.halted = false) :
    ∃ d', ReflTransGen Goes d d' ∧ Replied i name r 0 s d' := by
  obtain ⟨th, hd, hth⟩ := h.paired
  cases hth with
  | idle => exact ⟨d, .refl, h⟩
  | late htail hc =>
    obtain ⟨tasks, htasks, hwork, hwork'⟩ := h.abreast.work
    obtain ⟨d₁, d', hd₁, hd', hpaired, honstage, hsignalled, hcompletions, hlet⟩ :=
      hd.catchUp (.late htail hc) rfl hwork' (halted_eq h.abreast.onstage ▸ hrunning)
    exact ⟨d', .head (hd.goes_iff.2 (.inl ⟨rfl, hd₁⟩)) (goes_of_only hd'),
      ⟨h.abreast.onstage.trans honstage.symm, h.abreast.order, tasks, htasks, hwork, hlet⟩, h.alone,
      ⟨_, hpaired, .idle _⟩, h.made.of_eq hcompletions hsignalled⟩

/-- A pump begins, while the interpreter thread takes what is queued beside it. -/
theorem Replied.pump (h : Replied i name r k s d) (hrunning : s.halted = false) :
    ∃ s', (s.beginAction (.pump name (.drained 0))).Only s' ∧ Draining i name r k s' d := by
  have hs := h.alone.beginAction (.pump name (.drained 0))
  obtain ⟨th, hd, hth⟩ := h.paired
  obtain ⟨tasks, htasks, hwork, hwork'⟩ := h.abreast.work
  obtain ⟨⟨holders, core⟩, hi, hrun, -⟩ := id hwork
  cases core with
  | thread r => exact absurd hrun.1 (by simp)
  | manual m =>
    have hfind : (s.beginAction (.pump name (.drained 0))).findInvoker? name
        = some (i, ⟨holders, .manual m⟩) := by
      simp [findInvoker?, beginAction, setThread, h.abreast.order.2.1, hi]
    have hproducers : (s.beginAction (.pump name (.drained 0))).producersInside = false := by
      simp [producersInside, beginAction, setThread, h.abreast.order.2.2.1]
    have hm : Code.step (.perform (.pump name (.drained 0))) .main
        (s.beginAction (.pump name (.drained 0)))
        = some (((s.beginAction (.pump name (.drained 0))).keepInvoker i).run
            (.pump i (.drained 0))) := by
      simp [Code.step, perform, pumpNamed, withInvoker, hfind, hproducers]
    have hbegun : (s.beginAction (.pump name (.drained 0))).Employs i .main
        (tasks.map (·, none)) 0 := hwork.of_invokers rfl
    have hbehind := behind_modifyInvoker (s.beginAction (.pump name (.drained 0))) i
      fun inv => { inv with holders := inv.holders + 1 }
    refine ⟨_, hs.run hrunning hm, .between ⟨hbehind.onstage.trans h.abreast.onstage, ?_, tasks,
      htasks, hbegun.keepInvoker.of_invokers rfl, hwork'⟩
      (hs.apply (congrArg Desk.threads hbehind.desk) []) hd hth h.made⟩
    exact (inOrder_iff hbehind.onstage).2 h.abreast.order

/-- A pump with nothing left to do answers. -/
theorem Alone.pumped (h : s.Alone { control := .run (.pump i (.drained n)) })
    (hempty : s.Employs i .main [] 1) (hrunning : s.halted = false) :
    ∃ s', ReflTransGen Only s s' ∧ s'.Alone { control := .give (.answer (.count n)) } ∧
      s'.onstage = s.onstage ∧ s'.Employs i .main [] 0 := by
  have hm : Code.step (.pump i (.drained n)) .main s
      = some (s.run (.letGo i (.answer (.count n)))) := congrArg some (hempty.pump_nil n)
  have hs₁ := h.run hrunning hm
  have halone := h.apply (m := s.run (.letGo i (.answer (.count n)))) rfl []
  have hempty₁ : (Session.apply (s.run (.letGo i (.answer (.count n)))) .main []).Employs i .main
      [] 1 := hempty.of_invokers rfl
  obtain ⟨s', hlet, hbehind, hwork⟩ := hempty₁.letGo .main (.answer (.count n))
  have hs₂ := halone.run ((halted_apply _ _ _).trans hrunning) (congrArg some hlet)
  have hdone := halone.apply (m := s'.give (.answer (.count n)))
    (congrArg Desk.threads hbehind.desk) []
  exact ⟨_, .tail (.single hs₁) hs₂, hdone, hbehind.onstage, hwork.of_invokers rfl⟩

/-! ### One operation -/

theorem mainAnswer?_eq (h : s.threads.get? .main = some { control := .give (.answer x) }) :
    s.mainAnswer? = some x := by
  simp [mainAnswer?, h]

/-- Where nothing is queued any more no thread can step, and when the pump has answered, the
sessions are alike. -/
theorem Drained.exists_alike (h : Drained i name r 0 s d) (hrunning : s.halted = false) :
    (∀ u, ¬ d.Goes u) ∧ d.threads.get? .main = some { control := .give r } ∧
      ∃ n s', ReflTransGen Only s s' ∧ s'.Alone { control := .give (.answer (.count n)) } ∧
        Alike i name s' d := by
  cases h with
  | halted _ hs => simp [hrunning] at hs
  | done honstage horder halone hpaired hth hempty hempty' hmade =>
    cases hth
    obtain ⟨s', hs', halone', honstage', hempty''⟩ := halone.pumped hempty hrunning
    exact ⟨hpaired.rests (step_idle hpaired.main) (hpaired.step_loop hempty'), hpaired.main, _, s',
      hs', halone', honstage'.trans honstage, (inOrder_iff honstage').2 horder, hempty'', hempty',
      ⟨_, halone'⟩, ⟨_, hpaired⟩, hmade⟩

/-- What the interpreter thread makes of an operation, in whatever order threads step, a pump makes
of it as well. -/
theorem Alike.exists_pumped (h : Alike i name s d) (hd : d.Reachable)
    (ha : a.isOperation false = true) (hanswers : Answers d a x d') (hover : d'.IsServedBy i) :
    ∃ s₁ n s₂, Answers s a x s₁ ∧ Answers s₁ (.pump name (.drained 0)) (.count n) s₂ ∧
      Alike i name s₂ d' := by
  obtain ⟨r', hidle⟩ := h.paired
  have hbegun : (d.beginAction a).Reachable := hd.act a ⟨r', hidle.main⟩
  obtain ⟨u, v, hu, hv, hsettles, hoperated⟩ := exists_of_settles (R := Operating i name)
    (Q := Operated i name) (P := (·.IsServedBy i))
    (fun u v huv hv => (huv.advance ((isServedBy_iff huv.onstage).2 hv)).imp_right
      fun ⟨u', v', hu', hv', hnext⟩ => ⟨(goes_of_transGen hv').1, fun w hw =>
        ⟨u', v', goes_of_only hu'.to_reflTransGen, (goes_of_transGen hv').2 w hw, hnext⟩⟩)
    (h.operating ha) (fun w hw hrest => (hbegun.of_goes hw).isServedBy_of_goes hrest.goes hover)
    hanswers.settles
  obtain ⟨s₁, r, k, hs₁, hreplied⟩ := hoperated.exists_replied fun _ hrest => by
    obtain rfl := hsettles.eq hrest
    exact ⟨(halted_eq hoperated.onstage).trans hanswers.running, .inr hanswers.mainIdle⟩
  have hrunning₁ : s₁.halted = false :=
    (halted_eq hreplied.abreast.onstage).trans (hsettles.running hanswers.running)
  obtain ⟨u₁, hu₁, hdraining⟩ := hreplied.pump hrunning₁
  obtain ⟨u₂, v₂, hu₂, hv₂, hsettles₂, hdrained⟩ := exists_of_settles
    (R := fun u v => ∃ k, Draining i name r k u v) (Q := Drained i name r 0) (P := (·.IsServedBy i))
    (fun u v ⟨k, huv⟩ hv => huv.advance ((isServedBy_iff huv.onstage).2 hv)) ⟨k, hdraining⟩
    (fun w hw hrest => (hbegun.of_goes (hv.trans hw)).isServedBy_of_goes hrest.goes hover) hsettles
  have hrunning₂ : u₂.halted = false :=
    (halted_eq hdrained.onstage).trans (hsettles₂.running hanswers.running)
  obtain ⟨hrest, hmain, n, s₂, hs₂, halone, halike⟩ := hdrained.exists_alike hrunning₂
  obtain rfl := hsettles₂.eq hrest
  have hx := mainIdle_of_mainAnswer? hanswers.answer
  obtain rfl : r = .answer x := by
    simpa [hmain] using hx
  have hs₁' : ReflTransGen Goes (s.beginAction a) s₁ := hu.trans (goes_of_only hs₁)
  have hs₂' : ReflTransGen Goes (s₁.beginAction (.pump name (.drained 0))) s₂ :=
    .head hu₁.goes (hu₂.trans (goes_of_only hs₂))
  exact ⟨s₁, n, s₂, ⟨⟨hs₁', hreplied.alone.rests⟩, mainAnswer?_eq hreplied.alone.main, hrunning₁⟩,
    ⟨⟨hs₂', halone.rests⟩, mainAnswer?_eq halone.main,
      (halted_eq halike.onstage).trans hanswers.running⟩, halike⟩

/-- What an operation and a pump come to, threads may make of the operation alone. -/
theorem Alike.exists_unpumped (h : Alike i name s d) (hs : s.Reachable)
    (ha : a.isOperation false = true) {s₁ s₂ : Session} (hanswers : Answers s a x s₁)
    (hpump : Answers s₁ (.pump name (.drained 0)) (.count n) s₂) (hover : s₂.IsServedBy i) :
    ∃ d', Answers d a x d' ∧ Alike i name s₂ d' := by
  obtain ⟨r', hidle⟩ := h.alone
  have hbegun : (s.beginAction a).Reachable := hs.act a ⟨r', hidle.main⟩
  have hbegun₁ : (s₁.beginAction (.pump name (.drained 0))).Reachable :=
    (hbegun.of_goes hanswers.settles.goes).act _ hanswers.mainIdle
  have hover₁ : s₁.IsServedBy i := hbegun₁.isServedBy_of_goes hpump.settles.goes hover
  obtain ⟨v, u, hv, hu, hsettles, hoperated⟩ := exists_of_settles
    (R := fun v u => Operating i name u v) (Q := fun v u => Operated i name u v)
    (P := (·.IsServedBy i))
    (fun v u huv hu => (huv.advance hu).imp_right
      fun ⟨u', v', hu', hv', hnext⟩ => ⟨(goes_of_transGen hu').1, fun w hw =>
        ⟨v', u', goes_of_only hv'.to_reflTransGen, (goes_of_transGen hu').2 w hw, hnext⟩⟩)
    (h.operating ha) (fun w hw hrest => (hbegun.of_goes hw).isServedBy_of_goes hrest.goes hover₁)
    hanswers.settles
  obtain ⟨u₁, r, k, hu₁, hreplied⟩ := hoperated.exists_replied fun hrest _ => by
    obtain rfl := hsettles.eq hrest
    exact ⟨hanswers.running, .inl hanswers.mainIdle⟩
  obtain rfl := (hsettles.of_only hu₁).eq hreplied.alone.rests
  obtain ⟨v₁, hv₁, hreplied₁⟩ := hreplied.catchUp hanswers.running
  obtain ⟨u₂, hu₂, hdraining⟩ := hreplied₁.pump hanswers.running
  have hfirst : ReflTransGen Only (s₁.beginAction (.pump name (.drained 0))) u₂ := .single hu₂
  obtain ⟨v₂, u₃, hv₂, hu₃, hsettles₂, hdrained⟩ := exists_of_settles
    (R := fun v u => Draining i name r 0 u v) (Q := fun v u => Drained i name r 0 u v)
    (P := (·.IsServedBy i))
    (fun v u huv hu => (huv.follow hu).imp_right
      fun ⟨u', v', hu', hv', hnext⟩ => ⟨(goes_of_transGen hu').1, fun w hw =>
        ⟨v', u', hv', (goes_of_transGen hu').2 w hw, hnext⟩⟩) hdraining
    (fun w hw hrest => (hbegun₁.of_goes ((goes_of_only hfirst).trans hw)).isServedBy_of_goes
      hrest.goes hover) (hpump.settles.of_only hfirst)
  obtain ⟨hrest, hmain, m, s₃, hs₃, halone, halike⟩ :=
    hdrained.exists_alike (hsettles₂.running hpump.running)
  obtain rfl := (hsettles₂.of_only hs₃).eq halone.rests
  have hx := mainIdle_of_mainAnswer? hanswers.answer
  obtain rfl : r = .answer x := by
    simpa [hreplied.alone.main] using hx
  exact ⟨v₂, ⟨⟨hv.trans (hv₁.trans hv₂), hrest⟩, mainAnswer?_eq hmain,
    (halted_eq halike.onstage).symm.trans hpump.running⟩, halike⟩

/-! ### Sequences of operations -/

theorem Alike.exists_performs_pumped (h : Alike i name s d) (hd : d.Reachable)
    (hw : ∀ p ∈ w, p.1.isOperation false = true) (hperforms : Performs d w d')
    (hover : d'.IsServedBy i) :
    ∃ w' s', Pumped name w w' ∧ Performs s w' s' ∧ Alike i name s' d' := by
  induction hperforms generalizing s with
  | nil d => exact ⟨[], s, .nil, .nil s, h⟩
  | @cons d d₁ d' a x w hanswers hrest ih =>
    obtain ⟨r, hidle⟩ := h.paired
    have hd₁ := hanswers.reachable hd ⟨r, hidle.main⟩
    obtain ⟨ha, hw⟩ := List.forall_mem_cons.1 hw
    obtain ⟨s₁, n, s₂, hs₁, hs₂, hnext⟩ := h.exists_pumped hd ha hanswers
      (hrest.isServedBy hd₁ hanswers.mainIdle hover)
    obtain ⟨w', s', hpumped, hs', hlast⟩ := ih hnext hd₁ hw hover
    exact ⟨_, s', .cons (a, x) n hpumped, .cons hs₁ (.cons hs₂ hs'), hlast⟩

theorem Alike.exists_performs (h : Alike i name s d) (hs : s.Reachable)
    (hw : ∀ p ∈ w, p.1.isOperation false = true) (hpumped : Pumped name w w')
    (hperforms : Performs s w' s') (hover : s'.IsServedBy i) :
    ∃ d', Performs d w d' ∧ Alike i name s' d' := by
  induction hpumped generalizing s d with
  | nil =>
    cases hperforms
    exact ⟨d, .nil d, h⟩
  | @cons p n w w' _ ih =>
    obtain ⟨r, hidle⟩ := h.alone
    obtain ⟨ha, hrestw⟩ := List.forall_mem_cons.1 hw
    cases hperforms with
    | @cons _ s₁ _ a x _ hs₁ hrest =>
      have hreach₁ := hs₁.reachable hs ⟨r, hidle.main⟩
      cases hrest with
      | @cons _ s₂ _ _ _ _ hs₂ hrest =>
        have hreach₂ := hs₂.reachable hreach₁ hs₁.mainIdle
        obtain ⟨d₁, hd₁, hnext⟩ := h.exists_unpumped hs ha hs₁ hs₂
          (hrest.isServedBy hreach₂ hs₂.mainIdle hover)
        obtain ⟨d', hd', hlast⟩ := ih hnext hreach₂ hrestw hrest
        exact ⟨d', .cons hd₁ hd', hlast⟩

/-! ### The invokers -/

/-- Nothing but the main thread was begun, which is idle, and there is no invoker yet; callbacks
were set up to perform operations only. -/
structure IsBare (name : String) (s : Session) : Prop where
  alone : ∃ r, s.Alone { control := .give r }
  invokers : s.invokers = []
  producers : s.producers = []
  unnamed : s.names.invokers.get? name = none
  scripts : ∀ key scripts, s.scripts.get? key = some scripts →
    (∀ actions ∈ scripts, Action.areNested actions = true) ∧ ∀ slot e, key ≠ .engine slot e
  made : s.SignalsMade

/-- What the creation of the only invoker leaves on stage. -/
def withInvokerNamed (s : Session) (name : String) : Session :=
  { s.onstage with
    invokers := [(0, default)]
    names := { s.names with invokers := s.names.invokers.insert name 0 } }

theorem IsBare.inOrder (h : u.IsBare name) (hs : s.onstage = u.withInvokerNamed name) :
    s.InOrder 0 name := by
  have hstage : (u.withInvokerNamed name).InOrder 0 name := by
    refine ⟨h.scripts, by simp [withInvokerNamed, Assoc.get?_insert], h.producers, fun j hj => ?_⟩
    by_contra hne
    simp [withInvokerNamed, Assoc.get?, Ne.symm hne] at hj
  exact (inOrder_iff (s := s.onstage) (d := s) (onstage_onstage s)).1 (hs ▸ hstage)

/-- A queue for the main thread is created. -/
theorem IsBare.createQueue (h : u.IsBare name)
    (hs : Answers u (.createInvoker name .unlimited) x s) :
    s.onstage = u.withInvokerNamed name ∧ s.Employs 0 .main [] 0 ∧
      ∃ r, s.Alone { control := .give r } := by
  obtain ⟨r, halone⟩ := h.alone
  have hbegun := halone.beginAction (.createInvoker name .unlimited)
  have hm : Code.step (.perform (.createInvoker name .unlimited)) .main
      (u.beginAction (.createInvoker name .unlimited))
      = some (reply { u.beginAction (.createInvoker name .unlimited) with
          invokers := [(0, { core := .manual { owner := .main } })]
          names := { u.names with invokers := u.names.invokers.insert name 0 } } .done) := by
    simp [Code.step, perform, createInvoker, InvokerSpec.unlimited, nameInvoker, beginAction,
      setThread, h.unnamed, h.invokers, Assoc.insert]
  have hdone := hbegun.apply (m := reply { u.beginAction (.createInvoker name .unlimited) with
      invokers := [(0, { core := .manual { owner := .main } })]
      names := { u.names with invokers := u.names.invokers.insert name 0 } } .done) rfl []
  obtain rfl := (hs.settles.of_only (.single (hbegun.run hs.running_before hm))).eq hdone.rests
  refine ⟨rfl, ⟨_, rfl, ⟨rfl, rfl, fun _ => rfl⟩, rfl, Nat.zero_lt_one⟩, _, hdone⟩

/-- An interpreter thread is started. -/
theorem createInvoker_thread {config : InvokerConfig} (hcheck : config.check = .ok ())
    (hspawn : config.spawnCheck = .ok ()) (hinvokers : s.invokers = [])
    (hunnamed : s.names.invokers.get? name = none) :
    ∃ told : Session, s.createInvoker .main name (.thread config)
        = reply { told with names := { s.names with invokers := s.names.invokers.insert name 0 } }
            .done ∧
      told.onstage = { s.onstage with invokers := [(0, default)] } ∧
      told.desk = { s.desk with
        threads := s.threads.insert (.interpreter 0) { control := .run (.loop 0) }
        invokers := 1 } ∧
      told.invokers = [(0, { core := .thread { name := config.threadName } })] := by
  generalize htold : (setThread
    { s with invokers := [(0, { core := .thread { name := config.threadName } })] }
    (.interpreter 0) { control := .run (.loop 0) }).log .debug
      ("interpreter thread '" ++ config.threadName ++ "' started") = told
  have hbackstage := backstage_log (setThread
    { s with invokers := [(0, { core := .thread { name := config.threadName } })] }
    (.interpreter 0) { control := .run (.loop 0) }) .debug
      ("interpreter thread '" ++ config.threadName ++ "' started")
  have honstage := onstage_log (setThread
    { s with invokers := [(0, { core := .thread { name := config.threadName } })] }
    (.interpreter 0) { control := .run (.loop 0) }) .debug
      ("interpreter thread '" ++ config.threadName ++ "' started")
  rw [htold] at hbackstage honstage
  have hnames : told.names = s.names := (names_eq honstage).trans rfl
  refine ⟨told, ?_, honstage, desk_of_backstage hbackstage, congrArg Backstage.invokers hbackstage⟩
  simp [createInvoker, hcheck, hspawn, nameInvoker, hinvokers, Assoc.insert, htold, hnames,
    hunnamed]

/-- An interpreter thread is created. -/
theorem IsBare.createThread (h : u.IsBare name) {config : InvokerConfig}
    (hd : Answers u (.createInvoker name (.thread config)) .done d) :
    d.onstage = u.withInvokerNamed name ∧ d.Employs 0 (.interpreter 0) [] 0 ∧ d.SignalsMade ∧
      ∃ r, d.Paired 0 { control := .give r } { control := .run (.loop 0) } := by
  obtain ⟨r, halone⟩ := h.alone
  have hbegun := halone.beginAction (.createInvoker name (.thread config))
  have hrunning : (u.beginAction (.createInvoker name (.thread config))).halted = false :=
    hd.running_before
  have hrefused (y : Answer) (hy : y ≠ .done)
      (hm : Code.step (.perform (.createInvoker name (.thread config))) .main
        (u.beginAction (.createInvoker name (.thread config)))
        = some ((u.beginAction (.createInvoker name (.thread config))).reply y)) : False := by
    have hdone := hbegun.apply
      (m := (u.beginAction (.createInvoker name (.thread config))).reply y) rfl []
    obtain rfl := (hd.settles.of_only (.single (hbegun.run hrunning hm))).eq hdone.rests
    have hmain := mainIdle_of_mainAnswer? hd.answer
    rw [hdone.main] at hmain
    exact hy (by simpa [reply, give] using hmain)
  cases hcheck : config.check with
  | error p =>
    exact (hrefused (.invokerProblem p) (by simp)
      (by simp [Code.step, perform, createInvoker, hcheck])).elim
  | ok v =>
    cases hspawn : config.spawnCheck with
    | error p =>
      exact (hrefused (.spawnProblem p) (by simp)
        (by simp [Code.step, perform, createInvoker, hcheck, hspawn])).elim
    | ok v' =>
      obtain ⟨told, hcreate, honstage, hdesk, hinvokers⟩ :=
        createInvoker_thread (s := u.beginAction (.createInvoker name (.thread config))) hcheck
          hspawn h.invokers h.unnamed
      have hm : Code.step (.perform (.createInvoker name (.thread config))) .main
          (u.beginAction (.createInvoker name (.thread config)))
          = some (reply { told with
              names := { u.names with invokers := u.names.invokers.insert name 0 } } .done) :=
        congrArg some hcreate
      have hpaired : (apply (reply { told with
          names := { u.names with invokers := u.names.invokers.insert name 0 } } .done) .main
            []).Paired 0 { control := .give (.answer .done) } { control := .run (.loop 0) } := by
        have hthreads : told.threads
            = (u.beginAction (.createInvoker name (.thread config))).threads.insert
              (.interpreter 0) { control := .run (.loop 0) } := congrArg Desk.threads hdesk
        refine ⟨threads_apply _ _ _, ?_, fun t ht hti => ?_, ?_⟩
        · simp [Session.apply, reply, give, setThread, Assoc.get?_insert, hthreads]
        · simp [Session.apply, reply, give, setThread, Assoc.get?_insert, hthreads, Ne.symm ht,
            Ne.symm hti, hbegun.others t ht]
        · have hlength : told.invokers.length = 1 := congrArg Desk.invokers hdesk
          exact hlength ▸ Nat.zero_lt_one
      have hempty : (apply (reply { told with
          names := { u.names with invokers := u.names.invokers.insert name 0 } } .done) .main
            []).Employs 0 (.interpreter 0) [] 0 := by
        refine ⟨{ core := .thread { name := config.threadName } }, ?_, ⟨rfl, rfl, rfl⟩, rfl,
          Nat.zero_lt_one⟩
        show told.invokers.get? 0 = _
        rw [hinvokers]
        rfl
      obtain rfl := (hd.settles.of_only (.single (hbegun.run hrunning hm))).eq
        (hpaired.rests (step_idle hpaired.main) (hpaired.step_loop hempty))
      refine ⟨?_, hempty, ?_, _, hpaired⟩
      · show ({ told.onstage with
          names := { u.names with invokers := u.names.invokers.insert name 0 } } : Session) = _
        rw [honstage]
        rfl
      · have hcompletions : told.completions = u.completions := congrArg Desk.completions hdesk
        have hsignalled : told.signalled = u.signalled := congrArg Desk.signalled hdesk
        show ∀ c ∈ told.signalled, c < told.completions
        rw [hcompletions, hsignalled]
        exact h.made

theorem IsBare.alike (h : u.IsBare name) {config : InvokerConfig}
    (hs : Answers u (.createInvoker name .unlimited) .done s)
    (hd : Answers u (.createInvoker name (.thread config)) .done d) : Alike 0 name s d := by
  obtain ⟨honstage, hempty, halone⟩ := h.createQueue hs
  obtain ⟨honstage', hempty', hmade, hpaired⟩ := h.createThread hd
  exact ⟨honstage.trans honstage'.symm, h.inOrder honstage, hempty, hempty', halone, hpaired, hmade⟩

theorem Alike.shown (h : Alike i name s d) :
    s.history.filter Event.isShown = d.history.filter Event.isShown ∧
      s.functions = d.functions ∧ s.jobs = d.jobs := by
  have hjournal : s.journal.filter Event.isShown = d.journal.filter Event.isShown :=
    congrArg journal h.onstage
  exact ⟨by simp [history, List.filter_reverse, hjournal], functions_eq h.onstage,
    jobs_eq h.onstage⟩

/-! ### Played operations -/

/-- The answers of actions that the main thread performs, one after the other. -/
def answersTo (s : Session) : List Action → List (Action × Answer)
  | [] => []
  | a :: rest =>
    (a, (s.performOnMain a).mainAnswer?.getD .nothing) :: (s.performOnMain a).answersTo rest

/-- Whether no thread can step. -/
def isStuck (s : Session) : Bool := s.threads.all fun p => (s.step p.1).isNone

/-- Whether each action has an answer when threads have stepped until none can. -/
def answersAll (s : Session) : List Action → Bool
  | [] => true
  | a :: rest =>
    (s.performOnMain a).isStuck && (s.performOnMain a).mainAnswer?.isSome &&
      !(s.performOnMain a).halted && (s.performOnMain a).answersAll rest

instance (s : Session) (i : InvokerId) : Decidable (s.IsServedBy i) :=
  decidable_of_iff (∀ p ∈ s.functions.objects, (s.functions.object? p.1).all (·.invoker = some i))
    ⟨fun h f fn hf => by simpa [hf] using h (f, fn) (Assoc.mem_of_get? hf), fun h p _ => by
      cases hp : s.functions.object? p.1 with
      | none => rfl
      | some fn => simpa using h p.1 fn hp⟩

theorem rests_of_isStuck (h : s.isStuck = true) (u : Session) : ¬ s.Goes u := by
  rintro ⟨t, -, ht⟩
  cases hth : s.threads.get? t with
  | none => simp [step_eq_none hth] at ht
  | some th =>
    have hnone := List.all_eq_true.1 h _ (Assoc.mem_of_get? hth)
    simp [ht] at hnone

theorem answers_performOnMain (hstuck : (s.performOnMain a).isStuck = true)
    (hx : (s.performOnMain a).mainAnswer? = some x)
    (hrunning : (s.performOnMain a).halted = false) :
    Answers s a x (s.performOnMain a) :=
  ⟨⟨goes_settle _ _, rests_of_isStuck hstuck⟩, hx, hrunning⟩

theorem performs_answersTo {actions : List Action} (h : s.answersAll actions = true) :
    Performs s (s.answersTo actions) (actions.foldl performOnMain s) := by
  induction actions generalizing s with
  | nil => exact .nil s
  | cons a rest ih =>
    simp only [answersAll, Bool.and_eq_true, Bool.not_eq_true', Option.isSome_iff_exists] at h
    obtain ⟨⟨⟨hstuck, x, hx⟩, hrunning⟩, hrest⟩ := h
    refine .cons (answers_performOnMain hstuck ?_ hrunning) (ih hrest)
    rw [hx]
    rfl

/-! ### Exchanging them -/

/-- It does not matter to an addon whether its invoker is a queue that the main thread pumps after
each operation, or an interpreter thread that is left to become idle. -/
theorem Reachable.interchangeable {config : InvokerConfig} (hu : u.Reachable)
    (hbare : u.IsBare name) (hs : Answers u (.createInvoker name .unlimited) .done s)
    (hd : Answers u (.createInvoker name (.thread config)) .done d)
    (hw : ∀ p ∈ w, p.1.isOperation false = true) :
    (∀ d', Performs d w d' → d'.IsServedBy 0 → ∃ w' s', Pumped name w w' ∧ Performs s w' s' ∧
      s'.history.filter Event.isShown = d'.history.filter Event.isShown ∧
      s'.functions = d'.functions ∧ s'.jobs = d'.jobs) ∧
    (∀ w' s', Pumped name w w' → Performs s w' s' → s'.IsServedBy 0 → ∃ d', Performs d w d' ∧
      s'.history.filter Event.isShown = d'.history.filter Event.isShown ∧
      s'.functions = d'.functions ∧ s'.jobs = d'.jobs) := by
  obtain ⟨r, hidle⟩ := hbare.alone
  have halike := hbare.alike hs hd
  refine ⟨fun d' hperforms hover => ?_, fun w' s' hpumped hperforms hover => ?_⟩
  · obtain ⟨w', s', hpumped, hs', hlast⟩ := halike.exists_performs_pumped
      (hd.reachable hu ⟨r, hidle.main⟩) hw hperforms hover
    exact ⟨w', s', hpumped, hs', hlast.shown⟩
  · obtain ⟨d', hd', hlast⟩ := halike.exists_performs (hs.reachable hu ⟨r, hidle.main⟩) hw hpumped
      hperforms hover
    exact ⟨d', hd', hlast.shown⟩

/-- A process with a queue. -/
def withQueue : Session := (start [] none).performOnMain (.createInvoker "queue" .unlimited)

/-- A process with an interpreter thread. -/
def withInterpreter : Session :=
  (start [] none).performOnMain (.createInvoker "queue" (.thread {}))

/-- A function that delivers at once is called; its callback calls it again and queues a job. -/
def callingBack : List Action :=
  [.createFunction
      { name := "f", callJs := true, delivery := some .sync, finalize := some (.word 9),
        invoker := some "queue" },
    .bind (.word 0) "queue", .createJob "j" (.word 0) (.word 5) true,
    .script (.callJs (.word 7))
      [.call (.named "f") (.word 8) .nonBlocking, .queueJob (.named "j") (.word 0) false],
    .call (.named "f") (.word 7) .blocking, .release (.named "f") .release]

theorem interchangeable_callingBack :
    ∃ w' s', Pumped "queue" (withInterpreter.answersTo callingBack) w' ∧
      Performs withQueue w' s' ∧
      s'.history.filter Event.isShown
        = (callingBack.foldl performOnMain withInterpreter).history.filter Event.isShown ∧
      s'.functions = (callingBack.foldl performOnMain withInterpreter).functions ∧
      s'.jobs = (callingBack.foldl performOnMain withInterpreter).jobs := by
  have hbare : (start [] none).IsBare "queue" := by
    refine ⟨⟨.unit, rfl, fun t ht => ?_⟩, rfl, rfl, rfl, fun key scripts h => ?_, fun c hc => ?_⟩
    · simp [start, setThread, Assoc.insert, Assoc.get?, Ne.symm ht]
    · simp [start, setThread] at h
    · simp [start, setThread] at hc
  have hs : Answers (start [] none) (.createInvoker "queue" .unlimited) .done withQueue :=
    answers_performOnMain (by decide +kernel) rfl rfl
  have hd : Answers (start [] none) (.createInvoker "queue" (.thread {})) .done withInterpreter :=
    answers_performOnMain (by decide +kernel) rfl rfl
  refine (Reachable.interchangeable (.start [] none) hbare hs hd ?_).1 _
    (performs_answersTo (by decide +kernel)) (by decide +kernel)
  have hoperations : (withInterpreter.answersTo callingBack).map Prod.fst = callingBack := rfl
  intro p hp
  have hp : p.1 ∈ callingBack := hoperations ▸ List.mem_map_of_mem hp
  revert hp
  generalize p.1 = a
  intro ha
  simp only [callingBack, List.mem_cons, List.not_mem_nil, or_false] at ha
  rcases ha with rfl | rfl | rfl | rfl | rfl | rfl <;> rfl

end Session

end AddonHost
