import AddonHost.Proofs.Function.Ledger

/-!
How a function closes, and what becomes of its teardown.

A function closes once: the flags that tell of it agree with each other and with what was told
(`Life.Flags`).  Closing brings one teardown into existence, and from then on the teardown is
queued, under way, over or lost; one that was handed back runs at once, as a part of the operation
that closed the function (`Life.Teardowns`).
-/

namespace AddonHost

namespace Activity

/-- Whether a teardown that an invoker took is on its way. -/
def isTeardownLater : Activity → Bool
  | ending b | finalizing b | unregistering b => !b
  | _ => false

/-- Whether the addon's finalizer is about to be called. -/
def isFinalizerDue : Activity → Bool
  | finalizerDue calls => calls
  | _ => false

end Activity

namespace Life

variable {f : HandleId} {alone : Prop} {l l' : Life} {doing : Multiset Activity}
  {own own' : List Activity} {fn fn' : ThreadsafeFunction} {es : List Event}

/-- Whether the function was aborted. -/
def aborted (l : Life) : Bool := (l.function.map ThreadsafeFunction.aborted).getD false

/-- Whether the function is closing. -/
def closing (l : Life) : Bool := (l.function.map ThreadsafeFunction.closing).getD false

/-- Whether the end of the function is scheduled. -/
def scheduled (l : Life) : Bool :=
  (l.function.map ThreadsafeFunction.finalizeScheduled).getD false

/-- The flags of a function agree with what was told of it. -/
@[mk_iff]
structure Flags (f : HandleId) (l : Life) : Prop where
  scheduled : l.scheduled = l.closing
  aborted : .aborted ∈ l.marks f ↔ l.aborted = true
  closing : l.aborted = true → l.closing = true
  closed : (l.marks f).count .closed = l.closing.toNat

theorem Run.flags (h : Run f alone l doing) : l.Flags f := by
  induction h with
  | unborn n => exact ⟨rfl, ⟨nofun, nofun⟩, nofun, rfl⟩
  | @step l l' own own' kept hr hs _ ih =>
    rw [flags_iff] at ih ⊢
    cases hs with
    | create env reference spec delivery invoker hl hn =>
      obtain ⟨hunborn, -, -⟩ := hr.eq_nil_of_absent hl
      rw [hunborn]
      exact ⟨rfl, ⟨nofun, nofun⟩, nofun, rfl⟩
    | closeAgain hl hc hs | closeQueued i hl hc hs hi | closeAtOnce hl hc hs =>
      cases hc <;>
        simp_all [aborted, closing, scheduled, Event.mark?, ThreadsafeFunction.close,
          ThreadsafeFunction.wakeAll, ThreadsafeFunction.abort, ThreadsafeFunction.dropHolder]
    | discard i hrest hsubs =>
      obtain ⟨lost, -, -, hlost⟩ := hr.tasks_discard hrest hsubs
      have haborted : .aborted ∉ lost.map FunctionTask.lost :=
        notMem_lost (by simp) (by simp) lost
      have hclosed : (lost.map FunctionTask.lost).count .closed = 0 :=
        count_lost (by simp) (by simp) lost
      simp only [marks_tell, marks_requeue, hlost, List.mem_append, haborted, or_false,
        List.count_append, hclosed, Nat.add_zero]
      exact ih
    | @drain fn i hl =>
      cases hqueue : fn.queue <;>
        simp_all [aborted, closing, scheduled, filterMap_takenEvents, pop_snd]
    | _ =>
      simp_all [aborted, closing, scheduled, Event.mark?, ThreadsafeFunction.acquire,
        ThreadsafeFunction.push, ThreadsafeFunction.dropHolder, ThreadsafeFunction.sleep]

/-! ### What becomes of the teardown -/

theorem count_lost_teardown (lost : List FunctionTask) :
    (lost.map FunctionTask.lost).count .teardownLost = lost.count .teardown := by
  induction lost with
  | nil => rfl
  | cons k lost ih => cases k <;> simp_all [FunctionTask.lost]

/-- What is told of teardowns agrees with the teardowns that are queued and under way. -/
@[mk_iff]
structure Teardowns (f : HandleId) (l : Life) (doing : Multiset Activity) : Prop where
  /-- Closing brings a teardown into existence, which is queued, under way, over or lost. -/
  closed : (l.marks f).count .closed = l.tasks.count .teardown + tally Activity.isTeardown doing
    + (l.marks f).count .teardownEnded + (l.marks f).count .teardownLost
  offered : (l.marks f).count .closed
    = (l.marks f).count (.teardownOffered true) + (l.marks f).count (.teardownOffered false)
  /-- Teardowns that were handed back are not queued, and run at once. -/
  accepted : l.tasks.count .teardown + tally Activity.isTeardownLater doing
    + (l.marks f).count .teardownLost ≤ (l.marks f).count (.teardownOffered true)
  started : (l.marks f).count .teardownStarted
    = tally Activity.isTeardownStarted doing + (l.marks f).count .teardownEnded
  finalizer : (l.marks f).count .finalizerCalled + tally Activity.isFinalizerDue doing
    ≤ (l.marks f).count .teardownStarted

theorem Run.teardowns (h : Run f alone l doing) : Teardowns f l doing := by
  induction h with
  | unborn n => exact ⟨rfl, rfl, le_rfl, rfl, le_rfl⟩
  | @step l l' own own' kept hr hs _ ih =>
    simp only [teardowns_iff, tally_add] at ih ⊢
    cases hs with
    | absent own hl =>
      obtain ⟨-, rfl, rfl⟩ := hr.eq_nil_of_absent hl
      exact ih
    | create env reference spec delivery invoker hl hn =>
      obtain ⟨hunborn, -, rfl⟩ := hr.eq_nil_of_absent hl
      rw [hunborn]
      cases invoker <;> exact ⟨rfl, rfl, le_rfl, rfl, le_rfl⟩
    | appendLost data hl _ _ hown | appendQueued data i hl _ _ hown hi
    | appendInline data i hl _ _ hown hi =>
      rcases hown with rfl | ⟨t, rfl, -⟩ <;>
        simp_all [tasks, invoker?, Event.mark?, Activity.isTeardown, Activity.isTeardownLater,
          Activity.isTeardownStarted, Activity.isFinalizerDue, ThreadsafeFunction.push] <;>
        omega
    | sleep t hl _ _ hown =>
      rcases hown with rfl | ⟨rfl, -⟩ <;>
        simp_all [tasks, invoker?, Activity.isTeardown, Activity.isTeardownLater,
          Activity.isTeardownStarted, Activity.isFinalizerDue, ThreadsafeFunction.sleep] <;>
        omega
    | closeAgain hl hc hs | closeQueued i hl hc hs hi | closeAtOnce hl hc hs =>
      cases hc <;>
        simp_all [tasks, invoker?, Event.mark?, Activity.isTeardown, Activity.isTeardownLater,
          Activity.isTeardownStarted, Activity.isFinalizerDue, ThreadsafeFunction.close,
          ThreadsafeFunction.wakeAll, ThreadsafeFunction.abort, ThreadsafeFunction.dropHolder] <;>
        omega
    | @start i k rest hq =>
      obtain ⟨htasks, htasks'⟩ := hr.tasks_start hq
      rw [htasks] at ih
      rw [htasks']
      cases k <;>
        simp_all [Activity.ofTask, Activity.isTeardown, Activity.isTeardownLater,
          Activity.isTeardownStarted, Activity.isFinalizerDue] <;>
        omega
    | discard i hrest hsubs =>
      obtain ⟨lost, -, hperm, hlost⟩ := hr.tasks_discard hrest hsubs
      have hcount := hperm.count_eq .teardown
      have hlosses := count_lost_teardown lost
      rw [List.count_append] at hcount
      simp only [marks_tell, marks_requeue, hlost, List.count_append, tasks_tell, hlosses, ne_eq,
        reduceCtorEq, not_false_eq_true, count_lost]
      omega
    | @drain fn i hl =>
      rw [marks_tell, filterMap_takenEvents]
      unfold deliveries
      cases hqueue : fn.queue <;> split <;>
        simp_all [tasks, invoker?, pop_fst, pop_snd, Activity.isTeardown,
          Activity.isTeardownLater, Activity.isTeardownStarted, Activity.isFinalizerDue] <;>
        omega
    | @teardown fn atOnce hl =>
      rcases finalizersDue_eq fn with hdue | ⟨_ | _, hdue⟩ <;> cases atOnce <;>
        simp_all [List.countP_cons, tasks, invoker?, Event.mark?, Activity.isTeardown,
          Activity.isTeardownLater, Activity.isTeardownStarted, Activity.isFinalizerDue] <;>
        omega
    | finalized atOnce hl | unregister atOnce hl =>
      cases atOnce <;>
        simp_all [tasks, invoker?, Event.mark?, Activity.isTeardown, Activity.isTeardownLater,
          Activity.isTeardownStarted, Activity.isFinalizerDue] <;>
        omega
    | _ =>
      simp_all [tasks, invoker?, Event.mark?, Activity.isTeardown, Activity.isTeardownLater,
        Activity.isTeardownStarted, Activity.isFinalizerDue,
        ThreadsafeFunction.acquire, ThreadsafeFunction.dropHolder]
      try omega

/-! ### The registration -/

/-- The function is registered from its creation to the end of its teardown, unless another object
took its handle, which takes more objects than there are handles. -/
@[mk_iff]
structure Registered (f : HandleId) (l : Life) : Prop where
  exists_function : l.registered = true → l.function ≠ none
  notMem : l.registered = true → .teardownEnded ∉ l.marks f
  registered : l.function ≠ none → .teardownEnded ∉ l.marks f → l.nextId ≤ 2 ^ 64 →
    l.registered = true

theorem Run.registered (h : Run f alone l doing) : Registered f l := by
  induction h with
  | unborn n => exact ⟨nofun, nofun, fun h => absurd rfl h⟩
  | @step l l' own own' kept hr hs _ ih =>
    rw [registered_iff] at ih ⊢
    cases hs with
    | aside own hn => exact ⟨ih.1, ih.2.1, fun hl hm h => ih.2.2 hl hm (hn.trans h)⟩
    | displace own hn hout => exact ⟨nofun, nofun, fun _ _ h => absurd hout (not_lt.2 h)⟩
    | create env reference spec delivery invoker hl hn =>
      obtain ⟨hunborn, -, -⟩ := hr.eq_nil_of_absent hl
      rw [hunborn]
      exact ⟨fun _ => nofun, fun _ => nofun, fun _ _ _ => rfl⟩
    | discard i hrest hsubs =>
      obtain ⟨lost, -, -, hlost⟩ := hr.tasks_discard hrest hsubs
      have hended : .teardownEnded ∉ lost.map FunctionTask.lost :=
        notMem_lost (by simp) (by simp) lost
      simp only [marks_tell, marks_requeue, hlost, List.mem_append, hended, or_false]
      exact ih
    | @drain fn i hl =>
      rw [marks_tell, filterMap_takenEvents]
      cases hqueue : fn.queue <;> simp_all
    | closeAgain hl hc hs | closeQueued i hl hc hs hi | closeAtOnce hl hc hs =>
      cases hc <;> simp_all [Event.mark?]
    | _ => simp_all [Event.mark?]

end Life

end AddonHost
