import AddonHost.Proofs.Finalization
import AddonHost.Proofs.Reference.Exchange

/-!
What becomes of a function's reference.

A function holds its reference from its creation until its finalizer has returned, and gives it up
in the step that deletes it; nothing else changes it, nor the env.  Of what the function itself
does, only a delivery asks for the value behind the reference, and only the end of the finalizer
deletes it; both name the reference that the function holds (`Moves.refers?`).  When a finalizer has
returned, the teardown has started, is not over, and has called the addon's finalizer
(`Reachable.finalizerOver`).
-/

namespace AddonHost

namespace Activity

/-- Whether a teardown is on its way that has deleted the reference. -/
def isUnregistering : Activity → Bool
  | unregistering _ => true
  | _ => false

end Activity

namespace Life

variable {f : HandleId} {alone : Prop} {l l' : Life} {doing : Multiset Activity}
  {fn fn' : ThreadsafeFunction} {own own' : List Activity} {es : List Event}

/-- A function keeps its env, its finalizer and its reference, which it gives up when the finalizer
has returned. -/
theorem Step.exists_reference (h : Step f l own l' own') (hl : l.function = some fn) :
    ∃ fn', l'.function = some fn' ∧ fn'.env = fn.env ∧ fn'.finalizer = fn.finalizer ∧
      (fn'.reference = fn.reference ∨
        fn'.reference = 0 ∧ ∃ atOnce, own = [.finalizing atOnce]) := by
  cases h with
  | absent own hnone => simp [hnone] at hl
  | create env reference spec delivery invoker hnone => simp [hnone] at hl
  | acquire hl' | mark on hl' | appendLost data hl' | appendQueued data i hl'
  | appendInline data i hl' | sleep t hl' | dropHolder hl' =>
    obtain rfl := Option.some.inj (hl'.symm.trans hl)
    exact ⟨_, rfl, rfl, rfl, .inl rfl⟩
  | closeAgain hl' hc | closeQueued i hl' hc | closeAtOnce hl' hc =>
    obtain rfl := Option.some.inj (hl'.symm.trans hl)
    obtain ⟨n, a, c, sl, rfl⟩ := hc.eq
    exact ⟨_, rfl, rfl, rfl, .inl rfl⟩
  | drain i hl' =>
    obtain rfl := Option.some.inj (hl'.symm.trans hl)
    refine ⟨_, rfl, ?_⟩
    rw [pop_snd]
    exact ⟨rfl, rfl, .inl rfl⟩
  | finalized atOnce hl' =>
    obtain rfl := Option.some.inj (hl'.symm.trans hl)
    exact ⟨_, rfl, rfl, rfl, .inr ⟨rfl, atOnce, rfl⟩⟩
  | _ => exact ⟨fn, hl, rfl, rfl, .inl rfl⟩

/-- The reference that the function holds; null for none. -/
def reference (l : Life) : Word := (l.function.map ThreadsafeFunction.reference).getD 0

/-- A step to the end of a teardown gives the reference up, or is made by a teardown that has given
it up. -/
theorem Step.isUnregistering_or (h : Step f l own l' own') (hl : l.function ≠ none)
    (hend : 0 < own'.countP Activity.isUnregistering ∨
      .teardownEnded ∈ l'.marks f ∧ .teardownEnded ∉ l.marks f) :
    l'.reference = 0 ∨ 0 < own.countP Activity.isUnregistering := by
  cases h with
  | absent own hnone => exact absurd hnone hl
  | create env reference spec delivery invoker hnone => exact absurd hnone hl
  | aside own hn | displace own hn => exact .inr (hend.resolve_right fun h => h.2 h.1)
  | finalized atOnce hfn => exact .inl rfl
  | unregister atOnce hfn => exact .inr (by simp [Activity.isUnregistering])
  | closeAgain hfn hc | closeQueued i hfn hc | closeAtOnce hfn hc =>
    cases hc <;> simp_all [Event.mark?, Activity.isUnregistering]
  | @start i k rest hq => cases k <;> simp_all [Activity.ofTask, Activity.isUnregistering]
  | discard i hrest hsubs =>
    have hended (tasks : List FunctionTask) : .teardownEnded ∉ tasks.map FunctionTask.lost :=
      notMem_lost (by simp) (by simp) tasks
    simp_all [filterMap_mark?_discarded]
  | @drain fn i hfn =>
    rw [marks_tell, filterMap_takenEvents] at hend
    unfold deliveries at hend
    cases hqueue : fn.queue <;> split at hend <;>
      simp_all [pop_fst, pop_snd, Activity.isUnregistering]
  | @teardown fn atOnce hfn =>
    rcases finalizersDue_eq fn with hdue | ⟨calls, hdue⟩ <;>
      simp_all [Event.mark?, Activity.isUnregistering]
  | _ => simp_all [Event.mark?, Activity.isUnregistering]

/-- Once a teardown has deleted the reference, the function holds none. -/
theorem Run.reference_eq_zero (h : Run f alone l doing)
    (hend : 0 < tally Activity.isUnregistering doing ∨ .teardownEnded ∈ l.marks f) :
    l.reference = 0 := by
  induction h with
  | unborn n => rfl
  | @step l l' own own' kept hr hs _ ih =>
    by_cases hl : l.function = none
    · -- there is no teardown yet
      obtain ⟨hunborn, rfl, rfl⟩ := hr.eq_nil_of_absent hl
      cases hs with
      | create =>
        rw [hunborn] at hend
        exact absurd hend (by simp [Life.unborn, Life.marks])
      | _ =>
        clear hunborn ih
        simp_all [reference]
    rw [tally_add] at ih hend
    -- the step gives the reference up, or it was given up before
    by_cases hbefore :
        0 < own.countP Activity.isUnregistering + tally Activity.isUnregistering kept ∨
          .teardownEnded ∈ l.marks f
    · have hzero := ih hbefore
      obtain ⟨fn, hfn⟩ := Option.ne_none_iff_exists'.1 hl
      obtain ⟨fn', hfn', -, -, href⟩ := hs.exists_reference hfn
      simp only [reference, hfn, hfn', Option.map_some, Option.getD_some] at hzero ⊢
      exact href.elim (·.trans hzero) (·.1)
    · obtain ⟨hnone, hended⟩ := not_or.1 hbefore
      exact (hs.isUnregistering_or hl (hend.imp (by omega) (⟨·, hended⟩))).resolve_right (by omega)

end Life

namespace Session

variable {s s' : Session} {t : ThreadId} {f next : HandleId} {fn : ThreadsafeFunction} {th : Thread}
  {m : Move} {below : List Frame}

/-! ### What a function's own moves ask -/

@[simp] theorem refers?_give (s : Session) (r : Reply) : (s.give r).refers? = none := rfl

theorem refers?_appendItem (s : Session) (t : ThreadId) (f : HandleId) (fn : ThreadsafeFunction)
    (data : Word) : (s.appendItem t f fn data).refers? = none := by
  unfold appendItem
  dsimp only
  split
  · rfl
  · split <;> rfl

theorem refers?_call (s : Session) (t : ThreadId) (f : HandleId) (data : Word) (mode : CallMode) :
    (s.call t f data mode).refers? = none := by
  unfold call
  split
  · rfl
  · split
    · rfl
    · rfl
    · exact refers?_appendItem ..

theorem refers?_awaitSpace {data : Word} (hm : s.awaitSpace t f data = some m) :
    m.refers? = none := by
  unfold awaitSpace at hm
  split at hm
  · obtain rfl := Option.some.inj hm
    rfl
  · split at hm
    · simp at hm
    · split at hm
      · obtain rfl := Option.some.inj hm
        rfl
      · split at hm <;> obtain rfl := Option.some.inj hm
        · rfl
        · exact refers?_appendItem ..

theorem refers?_closeThen (s : Session) (t : ThreadId) (f : HandleId) (r : Reply) :
    (s.closeThen t f r).refers? = none := by
  unfold closeThen
  split
  · rfl
  · split
    · rfl
    · dsimp only
      split
      · rfl
      · split <;> rfl

theorem refers?_release (s : Session) (t : ThreadId) (f : HandleId) (mode : ReleaseMode) :
    (s.release t f mode).refers? = none := by
  unfold release
  split
  · rfl
  · split
    · rfl
    · split
      · exact refers?_closeThen ..
      · dsimp only
        split
        · exact refers?_closeThen ..
        · rfl

theorem refers?_drain (s : Session) (f : HandleId) : (s.drain f).refers? = none := by
  unfold drain
  split
  · rfl
  · dsimp only
    split
    · rfl
    · split <;> rfl

theorem refers?_teardown (s : Session) (f : HandleId) : (s.teardown f).refers? = none := by
  unfold teardown
  split
  · rfl
  · dsimp only
    split <;> rfl

theorem refers?_finalizer (s : Session) (owner : Option HandleId) (fin : Finalizer)
    (env hint : Word) : (s.finalizer owner fin env hint).refers? = none := by
  unfold finalizer
  split <;> rfl

theorem refers?_deliverWith (s : Session) (f : HandleId) (fn : ThreadsafeFunction)
    (func data : Word) : (s.deliverWith f fn func data).refers? = none := by
  unfold deliverWith
  split
  · rfl
  · split <;> rfl

/-- A delivery asks for the value behind the reference, if the function holds one. -/
theorem refers?_deliver (hf : s.functions.object? f = some fn) (data : Word) :
    (s.deliver f data).refers?
      = if fn.reference ≠ 0 then some (.getReferenceValue fn.env fn.reference true) else none := by
  unfold deliver
  rw [hf]
  dsimp only
  split_ifs with hzero
  · rfl
  · exact refers?_deliverWith ..

/-- The end of a finalizer deletes the reference, if the function holds one. -/
theorem refers?_afterFinalizer (hf : s.functions.object? f = some fn) :
    (s.afterFinalizer f).refers?
      = if fn.reference ≠ 0 then some (.deleteReference fn.env fn.reference) else none := by
  unfold afterFinalizer
  rw [hf]
  dsimp only
  split_ifs <;> rfl

/-- Of the code of a function that was created, only a delivery asks about the reference. -/
theorem refers?_code {c : Code} (hc : c.function? next = some f) (hnext : next ≠ f)
    (hf : s.functions.object? f = some fn) (hm : c.step t s = some m) :
    m.refers? = none ∨ fn.reference ≠ 0 ∧
      m.refers? = some (.getReferenceValue fn.env fn.reference true) := by
  cases c with
  | createFunction => exact absurd (Option.some.inj hc) hnext
  | call g data mode =>
    obtain rfl := Option.some.inj hm
    exact .inl (refers?_call ..)
  | awaitSpace g data => exact .inl (refers?_awaitSpace hm)
  | release g mode =>
    obtain rfl := Option.some.inj hm
    exact .inl (refers?_release ..)
  | deliver g data =>
    obtain rfl : g = f := Option.some.inj hc
    obtain rfl := Option.some.inj hm
    rw [refers?_deliver hf]
    split_ifs with hzero
    · exact .inr ⟨hzero, rfl⟩
    · exact .inl rfl
  | teardown g =>
    obtain rfl := Option.some.inj hm
    exact .inl (refers?_teardown ..)
  | finalizer owner fin env hint =>
    obtain rfl := Option.some.inj hm
    exact .inl (refers?_finalizer ..)
  | task i task =>
    obtain rfl := Option.some.inj hm
    cases task with
    | drain g => exact .inl (refers?_drain ..)
    | teardown g => exact .inl rfl
    | _ => simp [Code.function?] at hc
  | _ => simp [Code.function?] at hc

/-- Of the frames of a function that was created, only that below the finalizer asks about the
reference. -/
theorem refers?_resume {fr : Frame} (hfr : fr.function? next = some f) (hnext : next ≠ f)
    (hne : fr ≠ .finalized f) (r : Reply) : (fr.resume t s r).refers? = none := by
  cases fr with
  | referenced => exact absurd (Option.some.inj hfr) hnext
  | gotFunction g data =>
    simp only [Frame.resume, afterReference]
    split
    · rfl
    · split <;> exact refers?_deliverWith ..
  | gotReceiver g func =>
    simp only [Frame.resume, afterReceiver]
    split <;> rfl
  | gotResult g =>
    simp only [Frame.resume, afterResult]
    split <;> rfl
  | drained g wasEmpty =>
    simp only [Frame.resume, afterDrain]
    split
    · rfl
    · split
      · exact refers?_closeThen ..
      · rfl
  | finalized g => exact absurd (congrArg Frame.finalized (Option.some.inj hfr)) hne
  | unreferenced g =>
    simp only [Frame.resume, unregisterFunction]
    split <;> rfl
  | _ => simp [Frame.function?] at hfr

/-- The end of a finalizer makes the function give its reference up. -/
theorem object?_afterFinalizer (hf : s.functions.object? f = some fn) :
    (s.afterFinalizer f).session.functions.object? f = some { fn with reference := 0 } := by
  unfold afterFinalizer
  rw [hf]
  dsimp only
  split_ifs <;> simp [give, run, modifyFunction, Registry.object?_modify, hf]

/-- A failure asks nothing. -/
theorem refers?_unwind (s : Session) (fr : Frame) : (fr.unwind s).refers? = none := by
  cases fr with
  | performed owner => cases owner <;> rfl
  | _ => rfl

/-- Of the moves of a function that was created, apart from the end of its finalizer, only a
delivery asks about the reference. -/
theorem Moves.refers? (hm : s.Moves t th m below) (hth : th.function? next = some f)
    (hnext : next ≠ f) (hf : s.functions.object? f = some fn)
    (hover : ¬∃ r, th = { control := .give r, stack := .finalized f :: below }) :
    m.refers? = none ∨ fn.reference ≠ 0 ∧
      m.refers? = some (.getReferenceValue fn.env fn.reference true) := by
  cases hm with
  | run hm => exact refers?_code hth hnext hf hm
  | give r fr =>
    refine .inl (refers?_resume hth hnext ?_ r)
    rintro rfl
    exact hover ⟨r, rfl⟩
  | unwind fr => exact .inl (refers?_unwind s fr)
  | refuse => exact .inl rfl

/-! ### A step of a thread -/

/-- A move is a step in the life of every function, and one that ends a finalizer is made by the
frame below the finalizer. -/
theorem Sound.exists_lifeStep (h : s.Sound) (hth : s.threads.get? t = some th)
    (hm : s.Moves t th m below) (f : HandleId) :
    ∃ own, Life.Step f (s.life f) own (m.session.life f) (m.activities f t below) ∧
      ∀ atOnce, .finalizing atOnce ∈ own →
        ∃ r, th = { control := .give r, stack := .finalized f :: below } := by
  have hguarded := h.guarded _ (Assoc.mem_of_get? hth)
  cases hm with
  | @run c m _ hm =>
    refine ⟨_, (Code.step_does h.sane hguarded hm).step f, fun atOnce hmem => ?_⟩
    cases c with
    | task i task => cases task <;> simp_all [Code.activities]
    | finalizer owner => cases owner <;> simp_all [Code.activities]
    | _ => simp_all [Code.activities]
  | give r fr =>
    refine ⟨_, (Frame.resume_does h.sane hguarded.stack r).step f, fun atOnce hmem => ⟨r, ?_⟩⟩
    cases fr <;> simp_all [Frame.activities]
  | unwind fr =>
    refine ⟨_, (Frame.unwind_does h.sane (hguarded.control rfl) hguarded.stack).step f,
      fun atOnce hmem => ?_⟩
    have hcaught := hguarded.control rfl
    cases fr <;> simp_all [Frame.activities, caught]
  | refuse =>
    have hplain : (s.refuse .unknownAction).Plain s := (plain_refuse _).2 (.refl s)
    exact ⟨[], (hplain.does h.sane rfl).step f, by simp⟩

end Session

/-- No frame is about to call a finalizer. -/
theorem isFinalizerDue_framesOver {f : HandleId} {frames below : List Frame} :
    ∀ a ∈ framesOver f frames below, a.isFinalizerDue = false := by
  induction frames with
  | nil => simp [framesOver]
  | cons fr frames ih =>
    intro a ha
    rcases List.mem_append.1 ha with ha | ha
    · cases fr <;> simp_all [Frame.activities, Activity.isFinalizerDue]
    · exact ih a ha

/-- A finalizer is called by a thread that is about to do nothing else. -/
theorem Thread.exists_of_isFinalizerDue {f : HandleId} {t : ThreadId} {th : Thread} {a : Activity}
    (ha : a ∈ th.activities f t) (hdue : a.isFinalizerDue = true) :
    ∃ owner fin env hint, th.control = .run (.finalizer owner fin env hint) := by
  obtain ⟨control, stack⟩ := th
  rcases List.mem_append.1 ha with ha | ha
  · cases control with
    | run c =>
      cases c with
      | finalizer owner fin env hint => exact ⟨owner, fin, env, hint, rfl⟩
      | task i task =>
        cases task <;> simp_all [Control.activities, Code.activities, Activity.isFinalizerDue]
      | _ => simp_all [Control.activities, Code.activities, Activity.isFinalizerDue]
    | _ => simp [Control.activities] at ha
  · simp [isFinalizerDue_framesOver a ha] at hdue

/-- What the journal tells of a function whose finalizer, if it has one, has returned, and whose
teardown is not over. -/
structure FinalizerOver (finalizer : Option Finalizer) (told : List Mark) : Prop where
  started : .teardownStarted ∈ told
  pending : .teardownEnded ∉ told
  called (data : Word) : finalizer.bind Finalizer.data? = some data → .finalizerCalled ∈ told

namespace Session

variable {s s' : Session} {t : ThreadId} {f : HandleId} {fn : ThreadsafeFunction}
  {below : List Frame}

/-- The frame below a finalizer gets its reply when the finalizer is over. -/
theorem Reachable.finalizerOver (h : s.Reachable) (hrest : s.OthersAtRest t) {r : Reply}
    (hth : s.threads.get? t = some { control := .give r, stack := .finalized f :: below })
    (hf : s.functions.object? f = some fn) : FinalizerOver fn.finalizer (s.marks f) := by
  have hrun := h.run f id
  have hl : (s.life f).function = some fn := hf
  have hmem := Assoc.mem_of_get? hth
  have hfinalizing : .finalizing (runsAtOnce below) ∈ s.doing f :=
    mem_doingOf.2 ⟨_, hmem, by simp [Thread.activities, framesOver, Frame.activities]⟩
  have hteardown : 0 < tally Activity.isTeardown (s.doing f) :=
    Multiset.countP_pos.2 ⟨_, hfinalizing, rfl⟩
  have hstarted : 0 < tally Activity.isTeardownStarted (s.doing f) :=
    Multiset.countP_pos.2 ⟨_, hfinalizing, rfl⟩
  -- nobody else is in the middle of an operation, so that no finalizer is about to be called
  have hdue : tally Activity.isFinalizerDue (s.doing f) = 0 := by
    refine Multiset.countP_eq_zero.2 fun a ha hdue => ?_
    obtain ⟨⟨u, th⟩, hp, ha⟩ := mem_doingOf.1 ha
    have hu := Assoc.get?_of_mem h.sound.sane.keys hp
    obtain ⟨owner, fin, env, hint, hcontrol⟩ := Thread.exists_of_isFinalizerDue ha hdue
    by_cases hut : u = t
    · subst hut
      obtain rfl := Option.some.inj (hu.symm.trans hth)
      simp at hcontrol
    · have hbusy := hrest u (h.sound.sane.placed _ hp) hut
      obtain ⟨control, stack⟩ := th
      obtain rfl : control = _ := hcontrol
      simp [isBusy, hu, Thread.atRest] at hbusy
  have hclosed := hrun.teardowns.closed
  rw [hrun.flags.closed] at hclosed
  have hle := Bool.toNat_le (s.life f).closing
  have hcount := hrun.teardowns.started
  have hended : ((s.life f).marks f).count .teardownEnded = 0 := by omega
  rw [marks_life] at hcount hended
  refine ⟨List.count_pos_iff.1 (by omega), List.count_eq_zero.1 hended, fun data hdata => ?_⟩
  have hcalled := hrun.count_finalizerCalled (by simp [Life.finalizerData?, hl, hdata])
  rw [marks_life] at hcalled
  exact List.count_pos_iff.1 (by omega)

/-- What a step makes of the reference that a function holds, and what it asks about it: it asks for
the value behind it, or it deletes the reference and gives it up after the finalizer, or neither. -/
theorem Reachable.reference_step (h : s.Reachable) (hrest : s.OthersAtRest t)
    (hstep : s.step t = some s') (hf : s.functions.object? f = some fn) :
    ∃ fn', s'.functions.object? f = some fn' ∧ fn'.env = fn.env ∧ fn'.finalizer = fn.finalizer ∧
      (fn'.reference = fn.reference ∧
          (references (s.exchanges t s' f) = [] ∨ fn.reference ≠ 0 ∧
            references (s.exchanges t s' f)
              = [(.getReferenceValue fn.env fn.reference true, s.marks f)]) ∨
        fn'.reference = 0 ∧ FinalizerOver fn.finalizer (s.marks f) ∧
          references (s.exchanges t s' f)
            = if fn.reference ≠ 0 then [(.deleteReference fn.env fn.reference, s.marks f)]
              else []) := by
  obtain ⟨th, hth⟩ : ∃ th, s.threads.get? t = some th := by
    cases hget : s.threads.get? t with
    | none => simp [Session.step, running_of_step hstep, hget] at hstep
    | some th => exact ⟨th, rfl⟩
  obtain ⟨m, below, hm, rfl⟩ := exists_moves hstep hth
  obtain ⟨own, hlife, hown⟩ := h.sound.exists_lifeStep hth hm f
  obtain ⟨fn', hf', henv, hfinalizer, hreference⟩ := hlife.exists_reference hf
  have hnext : (⟨s.ids.next⟩ : HandleId) ≠ f := by
    have hbelow := h.sound.sane.functions (f := f) (.inl (by simp [hf]))
    rintro rfl
    exact lt_irrefl _ hbelow.2
  refine ⟨fn', hf', henv, hfinalizer, ?_⟩
  by_cases hover : ∃ r, th = { control := .give r, stack := .finalized f :: below }
  · -- the end of the finalizer
    obtain ⟨r, rfl⟩ := hover
    obtain rfl : m = s.afterFinalizer f := by
      cases hm
      rfl
    refine .inr ⟨?_, h.finalizerOver hrest hth hf, ?_⟩
    · have hf' := hf'.symm.trans (object?_afterFinalizer hf)
      obtain rfl := Option.some.inj hf'
      rfl
    · rw [references_exchanges hth rfl, refers?_afterFinalizer hf]
      split_ifs <;> rfl
  · have hsame : fn'.reference = fn.reference := hreference.resolve_right fun hzero => by
      obtain ⟨-, atOnce, rfl⟩ := hzero
      exact hover (hown atOnce (List.mem_singleton.2 rfl))
    refine .inl ⟨hsame, ?_⟩
    by_cases hpart : th.function? ⟨s.ids.next⟩ = some f
    · rw [references_exchanges hth hpart]
      rcases hm.refers? hpart hnext hf hover with hnone | ⟨hheld, hvalue⟩
      · exact .inl (by rw [hnone]; rfl)
      · exact .inr ⟨hheld, by rw [hvalue]; rfl⟩
    · exact .inl (by rw [exchanges_eq_nil hth hpart]; rfl)

end Session

end AddonHost
