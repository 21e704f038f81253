import AddonHost.Proofs.Session.Observed

/-!
No function is left behind.

A function without holders is closed by whoever finds its queue empty: the release that dropped the
last holder, or else the dispatch task that took the last item.  So while such a function is open,
either its queue holds an item or a dispatch task that emptied the queue is under way
(`Life.Run.queue_or_draining`).  A holder that is added and dropped again in a callback does not
change this, as each release looks at the queue anew.  The count of holders starts at zero for a
function that is created without holders, and comes back to zero if it wraps; neither makes the
function close, so that a release is required, and no `acquired` event with a count of zero.

When nothing is queued and nothing is under way, the function is therefore closing, and its teardown
is over, unless a task was lost (`Reachable.finalized`).
-/

namespace AddonHost

namespace Life

variable {f : HandleId} {alone : Prop} {l l' : Life} {doing : Multiset Activity}
  {fn fn' : ThreadsafeFunction} {own own' : List Activity} {es : List Event}

/-! ### Who is responsible for closing -/

/-- Whether a dispatch task is under way that has emptied the queue. -/
def EmptiedQueue (doing : Multiset Activity) : Prop := ∃ i, .draining i true ∈ doing

theorem EmptiedQueue.of_add {kept : Multiset Activity} (h : EmptiedQueue (own + kept))
    (hown : ∀ i, .draining i true ∉ own) : EmptiedQueue (own' + kept) := by
  obtain ⟨i, hi⟩ := h
  have hi := (Multiset.mem_add.1 hi).resolve_left (by simpa using hown i)
  exact ⟨i, Multiset.mem_add.2 (.inr hi)⟩

/-- While a function that was released is open and has no holder, an item is queued or a dispatch
task that emptied the queue is under way. -/
theorem Run.queue_or_draining (h : Run f alone l doing) (hl : l.function = some fn)
    (hreleased : ∃ n, .released f n ∈ l.told) (hwrap : .acquired f 0 ∉ l.told)
    (hopen : fn.closing = false) (hcount : fn.threadCount = 0) :
    fn.queue ≠ [] ∨ EmptiedQueue doing := by
  induction h generalizing fn with
  | unborn n => simp [Life.unborn] at hl
  | @step l l' own own' kept hr hs _ ih =>
    cases hs with
    | create env reference spec delivery invoker hnone =>
      obtain ⟨hunborn, -, -⟩ := hr.eq_nil_of_absent hnone
      rw [hunborn] at hreleased
      obtain ⟨n, hn⟩ := hreleased
      exact absurd hn List.not_mem_nil
    | absent own hnone => simp [hnone] at hl
    | acquire hfn hopen' =>
      -- the count has not wrapped
      obtain rfl := Option.some.inj hl
      simp [hcount] at hwrap
    | appendLost data hfn | appendQueued data i hfn | appendInline data i hfn =>
      obtain rfl := Option.some.inj hl
      exact .inl (by simp)
    | @dropHolder fn₀ hfn hopen' hspent =>
      -- the release has seen that something is queued
      obtain rfl := Option.some.inj hl
      refine .inl fun hqueue => ?_
      simp [ThreadsafeFunction.isSpent, hcount, hqueue] at hspent
    | closeQueued i hfn hc hs hi | closeAtOnce hfn hc hs =>
      obtain rfl := Option.some.inj hl
      exact absurd hopen (by simp [ThreadsafeFunction.close, ThreadsafeFunction.wakeAll])
    | closeAgain hfn hc hs =>
      -- the end of an open function is not scheduled
      have hflags := hr.flags.scheduled
      simp only [scheduled, closing, hfn, Option.map_some, Option.getD_some, hc.isOpen] at hflags
      cases hc <;>
        simp_all [ThreadsafeFunction.abort, ThreadsafeFunction.wakeAll,
          ThreadsafeFunction.dropHolder]
    | @drain fn₀ i hfn =>
      obtain rfl := Option.some.inj hl
      refine or_iff_not_imp_left.2 fun hqueue => ⟨i, ?_⟩
      simp [not_not.1 hqueue]
    | @drained fn₀ i wasEmpty hfn hstay =>
      obtain rfl := Option.some.inj (hfn.symm.trans hl)
      refine (ih hfn hreleased hwrap hopen hcount).imp_right fun h => h.of_add fun j hj => ?_
      -- had it emptied the queue, it would have closed the function
      obtain ⟨rfl, rfl⟩ : j = i ∧ wasEmpty = true := by simpa [eq_comm] using hj
      simp [hstay rfl hcount] at hopen
    | aside | displace => exact ih hl hreleased hwrap hopen hcount
    | sleep t hfn hopen' hfull hown =>
      obtain rfl := Option.some.inj hl
      refine (ih hfn hreleased hwrap hopen hcount).imp_right fun h => h.of_add fun i => ?_
      rcases hown with rfl | ⟨rfl, -⟩ <;> simp
    | mark on hfn | finalized atOnce hfn =>
      obtain rfl := Option.some.inj hl
      exact (ih hfn hreleased hwrap hopen hcount).imp_right fun h => h.of_add (by simp)
    | _ =>
      -- nothing is told of holders, and no dispatch task ends
      refine (ih (by simpa using hl) (by simpa using hreleased) (by simpa using hwrap) hopen
        hcount).imp_right fun h => h.of_add (by simp)

/-! ### The finalizer -/

/-- The data of the addon's finalizer, if there is one. -/
def finalizerData? (l : Life) : Option Word :=
  l.function.bind fun fn => fn.finalizer.bind Finalizer.data?

theorem countP_isFinalizerDue (fn : ThreadsafeFunction) :
    (finalizersDue fn).countP Activity.isFinalizerDue
      = if (fn.finalizer.bind Finalizer.data?).isSome then 1 else 0 := by
  unfold finalizersDue
  cases fn.finalizer with
  | none => rfl
  | some fin =>
    rw [List.countP_singleton]
    rfl

/-- The finalizer of a function is never changed. -/
theorem Step.finalizerData?_eq (h : Step f l own l' own') (hl : l.function ≠ none) :
    l'.finalizerData? = l.finalizerData? := by
  cases h with
  | closeAgain hfn hc | closeQueued i hfn hc | closeAtOnce hfn hc =>
    obtain ⟨n, a, c, sl, rfl⟩ := hc.eq
    simp [finalizerData?, hfn, ThreadsafeFunction.close, ThreadsafeFunction.wakeAll]
  | drain i hfn => simp [finalizerData?, hfn, pop_snd]
  | create env reference spec delivery invoker hnone => exact absurd hnone hl
  | _ =>
    simp_all [finalizerData?, ThreadsafeFunction.acquire, ThreadsafeFunction.push,
      ThreadsafeFunction.sleep, ThreadsafeFunction.dropHolder]

/-- If the addon has given a finalizer, each teardown that has started has called it, or is about
to. -/
theorem Run.count_finalizerCalled (h : Run f alone l doing) (hdata : l.finalizerData? ≠ none) :
    (l.marks f).count .finalizerCalled + tally Activity.isFinalizerDue doing
      = (l.marks f).count .teardownStarted := by
  induction h with
  | unborn n => rfl
  | @step l l' own own' kept hr hs _ ih =>
    by_cases hl : l.function = none
    · -- there is nothing to tear down yet
      obtain ⟨hunborn, rfl, rfl⟩ := hr.eq_nil_of_absent hl
      cases hs with
      | create => rw [hunborn]; rfl
      | _ =>
        clear hunborn
        simp_all [finalizerData?]
    have ih := ih (hs.finalizerData?_eq hl ▸ hdata)
    rw [hs.finalizerData?_eq hl] at hdata
    rw [tally_add] at ih ⊢
    cases hs with
    | appendLost data hl _ _ hown | appendQueued data i hl _ _ hown hi
    | appendInline data i hl _ _ hown hi =>
      rcases hown with rfl | ⟨t, rfl, -⟩ <;> simp_all [Event.mark?, Activity.isFinalizerDue]
    | sleep t hl _ _ hown =>
      rcases hown with rfl | ⟨rfl, -⟩ <;> simp_all [Activity.isFinalizerDue]
    | closeAgain hl hc hs | closeQueued i hl hc hs hi | closeAtOnce hl hc hs =>
      cases hc <;> simp_all [Event.mark?, Activity.isFinalizerDue]
    | @start i k rest hq =>
      cases k <;> simp_all [Activity.ofTask, Activity.isFinalizerDue]
    | discard i hrest hsubs =>
      obtain ⟨lost, -, -, hlost⟩ := hr.tasks_discard hrest hsubs
      simp only [marks_tell, marks_requeue, hlost, List.count_append, ne_eq, reduceCtorEq,
        not_false_eq_true, count_lost, Nat.add_zero]
      exact ih
    | @drain fn i hl =>
      rw [marks_tell, filterMap_takenEvents]
      unfold deliveries
      cases hqueue : fn.queue <;> split <;> simp_all [pop_fst, pop_snd, Activity.isFinalizerDue]
    | @teardown fn atOnce hl =>
      have hsome : (fn.finalizer.bind Finalizer.data?).isSome = true := by
        rw [finalizerData?, hl, Option.bind_some] at hdata
        exact Option.isSome_iff_ne_none.2 hdata
      rw [List.countP_append, countP_isFinalizerDue, if_pos hsome]
      simp [Event.mark?, Activity.isFinalizerDue] at ih ⊢
      omega
    | callFinalizer =>
      simp [Event.mark?, Activity.isFinalizerDue] at ih ⊢
      omega
    | _ => simp_all [Event.mark?, Activity.isFinalizerDue]

end Life

/-- Whether a thread is in the middle of no operation: it has ended, an interpreter thread is about
to look for a task, or a spawned producer has yet to call or waits for space. -/
def Thread.isIdle (th : Thread) : Bool :=
  match th.control, th.stack with
  | .give _, [] | .run (.loop _), [] => true
  | .run (.call ..), [.spawned _] | .run (.submit ..), [.spawned _]
  | .run (.awaitSpace ..), [.spawned _] => true
  | _, _ => false

/-- An idle thread does nothing for a function but wait for space. -/
theorem isWaiting_of_isIdle {f : HandleId} {t : ThreadId} {th : Thread} (h : th.isIdle = true) :
    ∀ a ∈ th.activities f t, a.isWaiting = true := by
  intro a ha
  obtain ⟨control, stack⟩ := th
  unfold Thread.isIdle at h
  split at h <;> simp_all [Thread.activities, Control.activities, Code.activities, framesOver,
    Frame.activities, Activity.isWaiting]

namespace Session

variable {s : Session} {f : HandleId} {fn : ThreadsafeFunction}

/-- Whether no operation is in progress, but for calls that wait for space. -/
def Idle (s : Session) : Prop := ∀ p ∈ s.threads, p.2.isIdle = true

instance (s : Session) : Decidable s.Idle :=
  inferInstanceAs (Decidable (∀ p ∈ s.threads, p.2.isIdle = true))

/-- While no operation is in progress, nothing is done for a function but to wait for space. -/
theorem Idle.tally_eq_zero (h : s.Idle) {p : Activity → Bool}
    (hp : ∀ a, p a = true → a.isWaiting = false) : tally p (s.doing f) = 0 := by
  refine Multiset.countP_eq_zero.2 fun a ha hpa => ?_
  obtain ⟨q, hq, ha⟩ := mem_doingOf.1 ha
  have hwaiting := isWaiting_of_isIdle (h q hq) a ha
  simp [hp a hpa] at hwaiting

/-- An event about a function is told of it when it is in the journal. -/
theorem mem_told_iff {e : Event} (he : e.concerns f = true) : e ∈ s.told f ↔ e ∈ s.history := by
  rw [told, List.mem_filter]
  exact and_iff_left he

/-- A function that was released and has no holder is closing once nothing is queued and no
operation is in progress. -/
theorem Reachable.closing_of_idle (h : s.Reachable) (hf : s.functions.object? f = some fn)
    (hkept : .drainLost ∉ s.marks f) (hwrap : 0 ∉ s.acquisitions f)
    (hreleased : s.releases f ≠ []) (hpending : s.pendingTasks f = [])
    (hidle : s.Idle) (hcount : fn.threadCount = 0) : fn.closing = true := by
  have hl : (s.life f).function = some fn := hf
  have hstarting : tally Activity.isStarting (s.doing f) = 0 :=
    hidle.tally_eq_zero fun a ha => by cases a <;> simp_all [Activity.isStarting, Activity.isWaiting]
  have hlength := (h.run f id).length_queue
  rw [pendingTasks] at hpending
  rw [marks_life, List.count_eq_zero.2 hkept, hstarting, hpending, Life.queue, hl] at hlength
  have hqueue : fn.queue = [] := List.length_eq_zero_iff.1 hlength
  by_contra hopen
  have hreleased : ∃ n, .released f n ∈ s.told f := by
    obtain ⟨n, hn⟩ := List.exists_mem_of_ne_nil _ hreleased
    exact ⟨n, (mem_told_iff (by simp [Event.concerns])).2 (mem_releases.1 hn)⟩
  have hwrap : .acquired f 0 ∉ s.told f := by
    rwa [mem_told_iff (by simp [Event.concerns]), ← mem_acquisitions]
  rcases (h.run f id).queue_or_draining hl hreleased hwrap (by simpa using hopen) hcount with
    hqueued | ⟨i, hi⟩
  · exact hqueued hqueue
  · obtain ⟨q, hq, ha⟩ := mem_doingOf.1 hi
    simpa [Activity.isWaiting] using isWaiting_of_isIdle (hidle q hq) _ ha

/-- A function that was released and has no holder is finalized once nothing is queued and no
operation is in progress: its teardown is over, the addon's finalizer was called once, if there is
one, and no handle resolves to it any more.  Its tasks must not have been lost, and the count of
holders must not have wrapped. -/
theorem Reachable.finalized (h : s.Reachable) (hf : s.functions.object? f = some fn)
    (hkept : .drainLost ∉ s.marks f) (hlost : .teardownLost ∉ s.marks f)
    (hwrap : 0 ∉ s.acquisitions f) (hreleased : s.releases f ≠ [])
    (hpending : s.pendingTasks f = []) (hidle : s.Idle) (hcount : fn.threadCount = 0) :
    .teardownEnded ∈ s.marks f ∧
      (∀ data, fn.finalizer.bind Finalizer.data? = some data →
        (s.marks f).count .finalizerCalled = 1) ∧
      (∀ handle fn', s.functions.entry? handle ≠ some (f, fn')) ∧
      (s.ids.next ≤ 2 ^ 64 → s.functions.entry? f = none) := by
  have hl : (s.life f).function = some fn := hf
  have hrun := h.run f id
  have hclosing := h.closing_of_idle hf hkept hwrap hreleased hpending hidle hcount
  -- the one teardown is neither queued, nor under way, nor lost
  have hclosed := hrun.flags.closed
  have hteardowns := hrun.teardowns.closed
  have hstarted := hrun.teardowns.started
  rw [Life.closing, hl, Option.map_some, Option.getD_some, hclosing] at hclosed
  rw [pendingTasks] at hpending
  rw [hclosed, hpending, hidle.tally_eq_zero fun a ha => by
    cases a <;> simp_all [Activity.isTeardown, Activity.isWaiting]] at hteardowns
  rw [hidle.tally_eq_zero fun a ha => by
    cases a <;> simp_all [Activity.isTeardownStarted, Activity.isWaiting]] at hstarted
  rw [marks_life] at hclosed hteardowns hstarted
  rw [List.count_eq_zero.2 hlost] at hteardowns
  have hended : (s.marks f).count .teardownEnded = 1 := by simpa using hteardowns.symm
  have hmem : .teardownEnded ∈ s.marks f := List.count_pos_iff.1 (by omega)
  have howns : s.functions.owns f = false := by
    by_contra howns
    have hregistered := hrun.registered.notMem (by simpa [life] using howns)
    rw [marks_life] at hregistered
    exact hregistered hmem
  have hnone (handle : HandleId) (fn' : ThreadsafeFunction) :
      s.functions.entry? handle ≠ some (f, fn') := fun hentry => by
    obtain ⟨hids, -, -⟩ := Registry.entry?_eq_some hentry
    simp [Registry.owns, hids] at howns
  refine ⟨hmem, fun data hdata => ?_, hnone, fun hids => ?_⟩
  · have hcalled := hrun.count_finalizerCalled (by simp [Life.finalizerData?, hl, hdata])
    rw [hidle.tally_eq_zero fun a ha => by
      cases a <;> simp_all [Activity.isFinalizerDue, Activity.isWaiting], marks_life] at hcalled
    omega
  · -- another object with the same handle has the same number
    cases hentry : s.functions.entry? f with
    | none => rfl
    | some p =>
      obtain ⟨own, fn'⟩ := p
      obtain ⟨hown, hvalue, -⟩ := Registry.entry?_eq_some hentry
      have hlt := (h.sound.sane.functions (f := own) (.inr (by simpa [Registry.owns] using hown))).2
      have hlt' := (h.sound.sane.functions (f := f) (.inl (by simp [hf]))).2
      obtain rfl := (HandleId.value_inj (by omega) (by omega)).1 hvalue
      exact absurd hentry (hnone own fn')

/-- A session in which the only holder of a function gives it up while an item is queued, and a
callback that is handed the item adds a holder, calls the function and gives it up again. -/
def releasedWithItem : Session :=
  ((start [] none).performed?
    [.createInvoker "queue" .unlimited,
      .createFunction
        { name := "f", callJs := true, finalize := some (.word 9), invoker := some "queue" },
      .call (.named "f") (.word 1) .nonBlocking,
      .release (.named "f") .release,
      .script (.callJs (.word 1))
        [.acquire (.named "f"), .call (.named "f") (.word 2) .nonBlocking,
          .release (.named "f") .release],
      .pump "queue" (.drained 0)]).get (by decide +kernel)

theorem finalized_releasedWithItem :
    releasedWithItem.deliveredFor ⟨1⟩ = [1, 2] ∧
      (releasedWithItem.marks ⟨1⟩).count .finalizerCalled = 1 ∧
      releasedWithItem.functions.entry? ⟨1⟩ = none := by
  have hreachable : releasedWithItem.Reachable :=
    (Reachable.start [] none).performed? (Option.some_get _).symm
  have hfunction : releasedWithItem.functions.object? ⟨1⟩ = some _ :=
    (Option.some_get (by decide +kernel)).symm
  obtain ⟨-, hfinalizer, -, hhandle⟩ := hreachable.finalized hfunction (by decide +kernel)
    (by decide +kernel) (by decide +kernel) (by decide +kernel) (by decide +kernel)
    (by decide +kernel) (by decide +kernel)
  exact ⟨by decide +kernel, hfinalizer 9 (by decide +kernel), hhandle (by decide +kernel)⟩

end Session

end AddonHost
