import AddonHost.Proofs.Function.Closing

/-!
Producers that wait for space.

A producer that waits is asleep, or it was woken and has yet to go on.  A producer sleeps only while
the queue is full but for the slots that were freed for those woken (`Life.Waiting`): every freed
slot wakes one.  So while a producer sleeps, as many dispatch tasks as the queue has slots are
queued or about to run, less those that were lost and those whose slots the woken producers have yet
to fill (`Run.maxQueueSize_le`).
-/

namespace AddonHost

namespace Activity

@[simp] theorem waiter?_waiting (t : ThreadId) : (waiting t).waiter? = some t := rfl

@[simp] theorem waiter?_eq_none_iff {a : Activity} : a.waiter? = none ↔ ∀ t, a ≠ waiting t := by
  cases a <;> simp [waiter?]

end Activity

/-- The threads that wait for space, asleep or woken. -/
def waiters (doing : Multiset Activity) : Multiset ThreadId := doing.filterMap Activity.waiter?

theorem waiters_add (own : List Activity) (kept : Multiset Activity) :
    waiters (own + kept) = own.filterMap Activity.waiter? + waiters kept := by
  rw [waiters, Multiset.filterMap_add, Multiset.filterMap_coe]
  rfl

namespace Life

variable {f : HandleId} {alone : Prop} {l l' : Life} {doing : Multiset Activity}
  {own own' : List Activity} {fn fn' : ThreadsafeFunction} {es : List Event}

/-- The producers that sleep. -/
def sleepers (l : Life) : List ThreadId :=
  (l.function.map ThreadsafeFunction.sleepers).getD []

/-- The bound of the queue; zero for none. -/
def maxQueueSize (l : Life) : ℕ := (l.function.map fun fn => fn.maxQueueSize.toNat).getD 0

/-- Producers that sleep are waiting, and they sleep for a reason. -/
@[mk_iff]
structure Waiting (l : Life) (doing : Multiset Activity) : Prop where
  sleepers : (l.sleepers : Multiset ThreadId) ≤ waiters doing
  closing : l.closing = true → l.sleepers = []
  /-- The queue is full, but for the slots of the producers that were woken. -/
  space : l.sleepers ≠ [] → 0 < l.maxQueueSize ∧
    l.maxQueueSize + l.sleepers.length ≤ l.queue.length + (waiters doing).card

theorem isFull_iff (fn : ThreadsafeFunction) :
    fn.isFull = true ↔ 0 < fn.maxQueueSize.toNat ∧ fn.maxQueueSize.toNat ≤ fn.queue.length := by
  rw [ThreadsafeFunction.isFull, Bool.and_eq_true, bne_iff_ne, decide_eq_true_iff,
    Nat.pos_iff_ne_zero, ne_eq, ne_eq, ← UInt64.toNat_inj]
  rfl

/-- A producer that is awake waits beside those that sleep. -/
theorem sleepers_le {kept : Multiset Activity}
    (h : (fn.sleepers : Multiset ThreadId) ≤ own.filterMap Activity.waiter? + waiters kept)
    (hown : Arrives fn own) : (fn.sleepers : Multiset ThreadId) ≤ waiters kept := by
  rcases hown with rfl | ⟨t, rfl, ht⟩
  · simpa using h
  · have h : (fn.sleepers : Multiset ThreadId) ≤ t ::ₘ waiters kept := by simpa using h
    exact (Multiset.le_cons_of_notMem ht).1 h

theorem card_le_one (hown : Arrives fn own) : (own.filterMap Activity.waiter?).length ≤ 1 := by
  rcases hown with rfl | ⟨t, rfl, ht⟩ <;> simp

/-- A dispatch task does not wait for space. -/
theorem filterMap_waiter?_deliveries (fn : ThreadsafeFunction) (i : Option InvokerId) (b : Bool) :
    (deliveries fn i ++ [Activity.draining i b]).filterMap Activity.waiter? = [] := by
  rw [List.filterMap_eq_nil_iff]
  intro a ha
  rcases List.mem_append.1 ha with ha | ha
  · obtain ⟨data, rfl⟩ := exists_of_mem_deliveries ha
    rfl
  · obtain rfl := List.mem_singleton.1 ha
    rfl

theorem Run.waiting (h : Run f alone l doing) : l.Waiting doing := by
  induction h with
  | unborn n => exact ⟨Multiset.zero_le _, fun _ => rfl, fun h => absurd rfl h⟩
  | @step l l' own own' kept hr hs _ ih =>
    rw [waiting_iff, waiters_add] at ih ⊢
    cases hs with
    | absent own hl =>
      obtain ⟨-, rfl, rfl⟩ := hr.eq_nil_of_absent hl
      exact ih
    | create env reference spec delivery invoker hl hn =>
      obtain ⟨hunborn, -, rfl⟩ := hr.eq_nil_of_absent hl
      rw [hunborn]
      exact ⟨Multiset.zero_le _, fun _ => rfl, fun h => absurd rfl h⟩
    | appendLost data hl hopen hfull hown | appendQueued data i hl hopen hfull hown hi
    | appendInline data i hl hopen hfull hown hi =>
      have hcard := card_le_one hown
      obtain ⟨hle, -, hspace⟩ := ih
      simp only [sleepers, queue, maxQueueSize, hl, Option.map_some, Option.getD_some,
        Multiset.card_add, Multiset.coe_card] at hle hspace
      refine ⟨?_, fun hclosing => ?_, fun hne => ⟨(hspace hne).1, ?_⟩⟩
      · simpa [sleepers, ThreadsafeFunction.push] using sleepers_le hle hown
      · simp [closing, ThreadsafeFunction.push, hopen] at hclosing
      · have := (hspace hne).2
        simp [sleepers, queue, maxQueueSize, ThreadsafeFunction.push]
        omega
    | @sleep fn own t hl hopen hfull hown =>
      have hown' : Arrives fn own := hown.imp_right fun h => ⟨t, h⟩
      obtain ⟨hle, -, -⟩ := ih
      rw [sleepers, hl] at hle
      have hle := sleepers_le hle hown'
      obtain ⟨hpos, hlength⟩ := (isFull_iff fn).1 hfull
      refine ⟨?_, fun hclosing => ?_, fun _ => ⟨hpos, ?_⟩⟩
      · have hsleepers : ((fn.sleep t).sleepers : Multiset ThreadId) = t ::ₘ ↑fn.sleepers := by
          rw [ThreadsafeFunction.sleep, ← Multiset.coe_add, add_comm]
          rfl
        have hwaiters : (([Activity.waiting t].filterMap Activity.waiter? : List ThreadId) :
            Multiset ThreadId) + waiters kept = t ::ₘ waiters kept := by simp
        simp only [function_become, sleepers, Option.map_some, Option.getD_some, hsleepers,
          hwaiters]
        exact (Multiset.cons_le_cons_iff t).2 hle
      · simp [closing, ThreadsafeFunction.sleep, hopen] at hclosing
      · have := Multiset.card_le_card hle
        rw [Multiset.coe_card] at this
        simp [sleepers, queue, maxQueueSize, ThreadsafeFunction.sleep]
        omega
    | closeAgain hl hc hs =>
      have hflags := hr.flags.scheduled
      cases hc <;>
        simp_all [scheduled, closing, ThreadsafeFunction.abort, ThreadsafeFunction.dropHolder,
          ThreadsafeFunction.wakeAll]
    | closeQueued i hl hc hs hi | closeAtOnce hl hc hs =>
      exact ⟨Multiset.zero_le _, fun _ => rfl, fun h => absurd rfl h⟩
    | @start i k rest hq => 
      cases k <;> simp_all [Activity.ofTask, sleepers, closing, maxQueueSize, queue]
    | discard i hrest hsubs => exact ih
    | @drain fn i hl =>
      rw [filterMap_waiter?_deliveries]
      have hstarting : ([Activity.starting i].filterMap Activity.waiter?) = [] := by simp
      rw [hstarting] at ih
      obtain ⟨hle, hclosing, hspace⟩ := ih
      simp only [sleepers, closing, queue, maxQueueSize, hl, Option.map_some, Option.getD_some]
        at hle hclosing hspace
      by_cases hstay : fn.queue = [] ∨ fn.maxQueueSize = 0
      · simp_all [sleepers, closing, queue, maxQueueSize, pop_snd]
        intro hne
        obtain ⟨hpos, hspace⟩ := hspace hne
        rcases hstay with hq | hmax
        · simpa [hq] using hspace
        · simp [hmax] at hpos
      · simp_all [sleepers, closing, queue, maxQueueSize, pop_snd]
        have hlength := List.length_pos_iff.2 hstay.1
        refine ⟨(Multiset.coe_le.2 (List.tail_sublist _).subperm).trans hle, fun hne => ?_⟩
        have hne : fn.sleepers ≠ [] := fun h => hne (by rw [h]; rfl)
        obtain ⟨hpos, hspace⟩ := hspace hne
        have := List.length_pos_iff.2 hne
        omega
    | giveUp => simp_all [sleepers, closing]
    | @teardown fn =>
      rcases finalizersDue_eq fn with hdue | ⟨calls, hdue⟩ <;>
        simp_all [sleepers, closing, maxQueueSize, queue]
    | _ =>
      simp_all [sleepers, closing, maxQueueSize, queue, ThreadsafeFunction.acquire,
        ThreadsafeFunction.dropHolder]

/-- How many producers were woken and have yet to go on. -/
def woken (l : Life) (doing : Multiset Activity) : ℕ :=
  ((waiters doing) - (l.sleepers : Multiset ThreadId)).card

/-- While a producer sleeps, there is a dispatch task for each slot of the queue, but for those that
were lost and those whose slots are left to producers that were woken. -/
theorem Run.maxQueueSize_le (h : Run f alone l doing) (hne : l.sleepers ≠ []) :
    0 < l.maxQueueSize ∧ l.maxQueueSize ≤ l.tasks.count .drain + tally Activity.isStarting doing
      + (l.marks f).count .drainLost + l.woken doing := by
  have hwaiting := h.waiting
  obtain ⟨hpos, hspace⟩ := hwaiting.space hne
  have hlength := h.length_queue
  have hcard := Multiset.card_sub hwaiting.sleepers
  have hle := Multiset.card_le_card hwaiting.sleepers
  rw [Multiset.coe_card] at hcard hle
  refine ⟨hpos, ?_⟩
  rw [woken, hcard]
  omega

end Life

end AddonHost
