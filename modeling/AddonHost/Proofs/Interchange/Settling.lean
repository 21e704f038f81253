import AddonHost.Proofs.Interchange.Employer

/-!
Threads that step until none can.

`Session.Goes` says where threads may go on to, one at a time and each finishing what it has begun,
and `Session.Settles` where they come to when none can step any more; nothing is said about which of
them steps.  Mostly they can go on in one way only (`Session.Only`): the main thread is alone
(`Session.Alone`), or of the main thread and the interpreter thread beside it (`Session.Paired`) one
is in the middle of an operation, or has to wait.

`exists_of_settles` compares two sessions: if whatever threads do in the one can be followed in the
other, and the one settles, then on the way it comes to where the two part.
-/

namespace AddonHost

namespace Session

open Relation

variable {s s' u v d d' : Session} {t : ThreadId} {i : InvokerId} {th th' : Thread}

/-! ### Runs -/

/-- Some thread takes a step, while no other one is in the middle of an operation. -/
def Goes (s s' : Session) : Prop := ∃ t, s.OthersAtRest t ∧ s.step t = some s'

/-- Threads can go on in this way, and in no other. -/
structure Only (s s' : Session) : Prop where
  goes : s.Goes s'
  eq : ∀ u, s.Goes u → u = s'

/-- Threads step, in some order, until none can. -/
structure Settles (s s' : Session) : Prop where
  goes : ReflTransGen Goes s s'
  rests : ∀ u, ¬ s'.Goes u

theorem goes_of_only (h : ReflTransGen Only s u) : ReflTransGen Goes s u :=
  ReflTransGen.mono (fun _ _ => Only.goes) _ _ h

theorem Settles.of_only (h : s.Settles d) (hs : ReflTransGen Only s u) : u.Settles d := by
  induction hs with
  | refl => exact h
  | @tail u v _ huv ih =>
    rcases ReflTransGen.cases_head ih.goes with rfl | ⟨w, huw, hw⟩
    · exact (ih.rests _ huv.goes).elim
    · exact ⟨huv.eq w huw ▸ hw, ih.rests⟩

/-- Threads that cannot step have settled. -/
theorem Settles.eq (h : s.Settles d) (hs : ∀ u, ¬ s.Goes u) : d = s := by
  rcases ReflTransGen.cases_head h.goes with rfl | ⟨w, hw, -⟩
  · rfl
  · exact (hs w hw).elim

theorem rests_of_halted (h : s.halted = true) (u : Session) : ¬ s.Goes u := by
  rintro ⟨t, -, ht⟩
  simp [step, h] at ht

/-- A process that settles without being aborted was not aborted before. -/
theorem Settles.running (h : s.Settles d) (hd : d.halted = false) : s.halted = false := by
  by_contra hhalted
  obtain rfl := h.eq (rests_of_halted (by simpa using hhalted))
  exact hhalted hd

/-- Threads that can go on in one way only do so. -/
theorem goes_of_transGen (h : TransGen Only s u) :
    (∃ v, s.Goes v) ∧ ∀ v, s.Goes v → ReflTransGen Only v u := by
  obtain ⟨v, hv, hu⟩ := TransGen.head'_iff.1 h
  exact ⟨⟨v, hv.goes⟩, fun w hw => hv.eq w hw ▸ hu⟩

/-- Letting threads step is a run. -/
theorem goes_settle (s : Session) (n : ℕ) : ReflTransGen Goes s (s.settle n) := by
  induction n generalizing s with
  | zero => exact .refl
  | succ n ih =>
    cases hs : s.next? with
    | none =>
      simp only [settle, hs]
      exact .refl
    | some s' =>
      simp only [settle, hs]
      exact .head (exists_step_of_next? hs) (ih s')

/-- The threads of one session go on as they like and settle, and another session follows: they come
to where the two part. -/
theorem exists_of_settles {R Q : Session → Session → Prop} {P : Session → Prop}
    (hstep : ∀ u v, R u v → P v → Q u v ∨ (∃ x, v.Goes x) ∧ ∀ x, v.Goes x →
      ∃ u' v', ReflTransGen Goes u u' ∧ ReflTransGen Only x v' ∧ R u' v')
    (h : R s d) (hP : ∀ v, ReflTransGen Goes d v → v.Settles d' → P v) (hd : d.Settles d') :
    ∃ u v, ReflTransGen Goes s u ∧ ReflTransGen Goes d v ∧ v.Settles d' ∧ Q u v := by
  -- Along the run of the one session: from where it is, it can only come to `v`.
  suffices hfrom : ∀ a, ReflTransGen Goes a d' → ReflTransGen Goes d a → ∀ v,
      ReflTransGen Only a v → ∀ u, R u v →
        ∃ u' v', ReflTransGen Goes u u' ∧ ReflTransGen Goes d v' ∧ v'.Settles d' ∧ Q u' v' from
    hfrom d hd.goes .refl d .refl s h
  intro a ha
  induction ha using ReflTransGen.head_induction_on with
  | refl =>
    intro hda v hav u hu
    obtain rfl : d' = v := by
      rcases ReflTransGen.cases_head hav with rfl | ⟨x, hx, -⟩
      · rfl
      · exact (hd.rests x hx.goes).elim
    have hsettled : Settles d' d' := ⟨.refl, hd.rests⟩
    rcases hstep u d' hu (hP d' hda hsettled) with hdone | ⟨⟨x, hx⟩, -⟩
    · exact ⟨u, d', .refl, hda, hsettled, hdone⟩
    · exact (hd.rests x hx).elim
  | @head a b hab hbd ih =>
    intro hda v hav u hu
    rcases ReflTransGen.cases_head hav with rfl | ⟨x, hax, hxv⟩
    · have hsettles : a.Settles d' := ⟨.head hab hbd, hd.rests⟩
      rcases hstep u a hu (hP a hda hsettles) with hdone | ⟨-, hgo⟩
      · exact ⟨u, a, .refl, hda, hsettles, hdone⟩
      · obtain ⟨u', v', hu', hv', hnext⟩ := hgo b hab
        obtain ⟨u'', v'', hu'', hrest⟩ := ih (hda.tail hab) v' hv' u' hnext
        exact ⟨u'', v'', hu'.trans hu'', hrest⟩
    · obtain rfl := hax.eq b hab
      exact ih (hda.tail hab) v hxv u hu

/-! ### Which threads can step -/

/-- Only the main thread was begun, and this is what it is doing. -/
structure Alone (s : Session) (th : Thread) : Prop where
  main : s.threads.get? .main = some th
  others : ∀ t, t ≠ .main → s.threads.get? t = none

/-- Only the main thread and the interpreter thread of an invoker were begun, and this is what they
are doing. -/
structure Paired (s : Session) (i : InvokerId) (th th' : Thread) : Prop where
  main : s.threads.get? .main = some th
  interpreter : s.threads.get? (.interpreter i) = some th'
  others : ∀ t, t ≠ .main → t ≠ .interpreter i → s.threads.get? t = none
  placed : i < s.invokers.length

theorem step_eq_none (h : s.threads.get? t = none) : s.step t = none := by
  unfold step
  simp [h]

theorem isBusy_eq_false (h : s.threads.get? t = none) : s.isBusy t = false := by
  simp [isBusy, h]

theorem main_mem_precedence (s : Session) : .main ∈ s.precedence := List.mem_cons_self

/-- A thread that is in the middle of an operation goes on with it. -/
theorem only_of_isBusy (ht : t ∈ s.precedence) (hbusy : s.isBusy t = true)
    (hothers : s.OthersAtRest t) (hs : s.step t = some s') : s.Only s' := by
  refine ⟨⟨t, hothers, hs⟩, ?_⟩
  rintro u ⟨w, hw, hu⟩
  by_cases hwt : w = t
  · exact Option.some.inj (hu.symm.trans (hwt ▸ hs))
  · simp [hw t ht (Ne.symm hwt)] at hbusy

theorem Alone.goes_iff (h : s.Alone th) : s.Goes u ↔ s.step .main = some u := by
  constructor
  · rintro ⟨t, -, ht⟩
    by_cases htm : t = .main
    · rwa [htm] at ht
    · simp [step_eq_none (h.others t htm)] at ht
  · exact fun hs => ⟨.main, fun w _ hw => isBusy_eq_false (h.others w hw), hs⟩

theorem Alone.only (h : s.Alone th) (hs : s.step .main = some s') : s.Only s' :=
  ⟨h.goes_iff.2 hs, fun _ hu => Option.some.inj ((h.goes_iff.1 hu).symm.trans hs)⟩

theorem Alone.rests_of_step (h : s.Alone th) (hs : s.step .main = none) (u : Session) :
    ¬ s.Goes u := by
  rw [h.goes_iff, hs]
  simp

theorem Paired.mem_precedence (h : s.Paired i th th') : .interpreter i ∈ s.precedence := by
  simp [precedence, h.placed]

theorem Paired.isBusy_main (h : s.Paired i th th') : s.isBusy .main = !th.atRest := by
  simp [isBusy, h.main]

theorem Paired.isBusy_interpreter (h : s.Paired i th th') :
    s.isBusy (.interpreter i) = !th'.atRest := by
  simp [isBusy, h.interpreter]

theorem Paired.othersAtRest_main (h : s.Paired i th th') :
    s.OthersAtRest .main ↔ th'.atRest = true := by
  constructor
  · intro hrest
    simpa [h.isBusy_interpreter] using hrest _ h.mem_precedence (by simp)
  · intro hrest w _ hw
    by_cases hwi : w = .interpreter i
    · simp [hwi, h.isBusy_interpreter, hrest]
    · exact isBusy_eq_false (h.others w hw hwi)

theorem Paired.othersAtRest_interpreter (h : s.Paired i th th') :
    s.OthersAtRest (.interpreter i) ↔ th.atRest = true := by
  constructor
  · intro hrest
    simpa [h.isBusy_main] using hrest _ s.main_mem_precedence (by simp)
  · intro hrest w _ hw
    by_cases hwm : w = .main
    · simp [hwm, h.isBusy_main, hrest]
    · exact isBusy_eq_false (h.others w hwm hw)

/-- Each of the two threads can step while the other one is at rest. -/
theorem Paired.goes_iff (h : s.Paired i th th') :
    s.Goes u ↔ (th'.atRest = true ∧ s.step .main = some u) ∨
      (th.atRest = true ∧ s.step (.interpreter i) = some u) := by
  constructor
  · rintro ⟨t, hrest, ht⟩
    by_cases htm : t = .main
    · subst htm
      exact .inl ⟨h.othersAtRest_main.1 hrest, ht⟩
    by_cases hti : t = .interpreter i
    · subst hti
      exact .inr ⟨h.othersAtRest_interpreter.1 hrest, ht⟩
    · simp [step_eq_none (h.others t htm hti)] at ht
  · rintro (⟨hrest, hu⟩ | ⟨hrest, hu⟩)
    · exact ⟨.main, h.othersAtRest_main.2 hrest, hu⟩
    · exact ⟨.interpreter i, h.othersAtRest_interpreter.2 hrest, hu⟩

/-- The main thread steps while the interpreter thread has nothing to do. -/
theorem Paired.only_main (h : s.Paired i th th') (hrest : th'.atRest = true)
    (hidle : s.step (.interpreter i) = none) (hs : s.step .main = some s') : s.Only s' := by
  refine ⟨h.goes_iff.2 (.inl ⟨hrest, hs⟩), fun u hu => ?_⟩
  rcases h.goes_iff.1 hu with ⟨-, hu⟩ | ⟨-, hu⟩
  · exact Option.some.inj (hu.symm.trans hs)
  · simp [hidle] at hu

/-- The interpreter thread steps while the main thread has to wait. -/
theorem Paired.only_interpreter (h : s.Paired i th th') (hrest : th.atRest = true)
    (hwait : s.step .main = none) (hs : s.step (.interpreter i) = some s') : s.Only s' := by
  refine ⟨h.goes_iff.2 (.inr ⟨hrest, hs⟩), fun u hu => ?_⟩
  rcases h.goes_iff.1 hu with ⟨-, hu⟩ | ⟨-, hu⟩
  · simp [hwait] at hu
  · exact Option.some.inj (hu.symm.trans hs)

theorem Paired.rests (h : s.Paired i th th') (hmain : s.step .main = none)
    (hinterpreter : s.step (.interpreter i) = none) (u : Session) : ¬ s.Goes u := by
  rw [h.goes_iff]
  simp [hmain, hinterpreter]

/-! ### Moves of threads -/

theorem get?_threads_apply_of_ne {m : Move} {below : List Frame}
    (hm : m.session.threads = s.threads) {w : ThreadId} (hw : w ≠ t) :
    (apply m t below).threads.get? w = s.threads.get? w := by
  simp [apply, setThread, Assoc.get?_insert, Ne.symm hw, hm]

theorem Alone.apply (h : s.Alone th) {m : Move} (hm : m.session.threads = s.threads)
    (below : List Frame) :
    (Session.apply m .main below).Alone { control := m.control, stack := m.frames ++ below } :=
  ⟨threads_apply m .main below, fun t ht => (get?_threads_apply_of_ne hm ht).trans (h.others t ht)⟩

theorem Paired.apply_main (h : s.Paired i th th') {m : Move} (hm : m.session.threads = s.threads)
    (hplaced : m.session.invokers.length = s.invokers.length) (below : List Frame) :
    (Session.apply m .main below).Paired i { control := m.control, stack := m.frames ++ below }
      th' :=
  ⟨threads_apply m .main below,
    (get?_threads_apply_of_ne hm (by simp)).trans h.interpreter,
    fun t ht hti => (get?_threads_apply_of_ne hm ht).trans (h.others t ht hti),
    h.placed.trans_eq hplaced.symm⟩

theorem Paired.apply_interpreter (h : s.Paired i th th') {m : Move}
    (hm : m.session.threads = s.threads)
    (hplaced : m.session.invokers.length = s.invokers.length) (below : List Frame) :
    (Session.apply m (.interpreter i) below).Paired i th
      { control := m.control, stack := m.frames ++ below } :=
  ⟨(get?_threads_apply_of_ne hm (by simp)).trans h.main, threads_apply m _ below,
    fun t ht hti => (get?_threads_apply_of_ne hm hti).trans (h.others t ht hti),
    h.placed.trans_eq hplaced.symm⟩

section Going

variable {m : Move} {r : Reply} {fr : Frame} {c : Code} {below : List Frame}

theorem step_idle (h : s.threads.get? t = some { control := .give r }) : s.step t = none := by
  unfold step
  simp [h]

theorem Alone.rests (h : s.Alone { control := .give r }) (u : Session) : ¬ s.Goes u :=
  h.rests_of_step (step_idle h.main) u

variable (hrunning : s.halted = false)

include hrunning

/-- The main thread is alone and runs a piece of code. -/
theorem Alone.run (h : s.Alone { control := .run c, stack := below })
    (hm : c.step .main s = some m) : s.Only (Session.apply m .main below) :=
  h.only (step_run hrunning h.main hm)

/-- The main thread is alone and hands a reply to a frame. -/
theorem Alone.give (h : s.Alone { control := .give r, stack := fr :: below }) :
    s.Only (Session.apply (fr.resume .main s r) .main below) :=
  h.only (step_give hrunning h.main)

/-- The main thread runs a piece of code while the interpreter thread has nothing to do. -/
theorem Paired.run_main (h : s.Paired i { control := .run c, stack := below } th')
    (hrest : th'.atRest = true) (hidle : s.step (.interpreter i) = none)
    (hm : c.step .main s = some m) : s.Only (Session.apply m .main below) :=
  h.only_main hrest hidle (step_run hrunning h.main hm)

/-- The main thread hands a reply to a frame. -/
theorem Paired.give_main (h : s.Paired i { control := .give r, stack := fr :: below } th')
    (hrest : th'.atRest = true) : s.Only (Session.apply (fr.resume .main s r) .main below) :=
  only_of_isBusy s.main_mem_precedence h.isBusy_main (h.othersAtRest_main.2 hrest)
    (step_give hrunning h.main)

/-- The interpreter thread runs a piece of code while the main thread waits. -/
theorem Paired.run_interpreter (h : s.Paired i th { control := .run c, stack := below })
    (hrest : th.atRest = true) (hwait : s.step .main = none)
    (hm : c.step (.interpreter i) s = some m) :
    s.Only (Session.apply m (.interpreter i) below) :=
  h.only_interpreter hrest hwait (step_run hrunning h.interpreter hm)

/-- The interpreter thread hands a reply to a frame. -/
theorem Paired.give_interpreter (h : s.Paired i th { control := .give r, stack := fr :: below })
    (hrest : th.atRest = true) :
    s.Only (Session.apply (fr.resume (.interpreter i) s r) (.interpreter i) below) :=
  only_of_isBusy h.mem_precedence h.isBusy_interpreter (h.othersAtRest_interpreter.2 hrest)
    (step_give hrunning h.interpreter)

end Going

end Session

end AddonHost
