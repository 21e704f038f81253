import AddonHost.Proofs.Sleepers

/-!
Bounded queues.

`Reachable.queue_bound` says what the bound of a queue means to those who call the function:

* the queue never holds more items than its bound;
* a call that may not wait is refused as `queueFull` exactly when the function is open and its queue
  is at the bound, and then it changes nothing;
* once no producer that waits can go on, the queue of a producer that still waits is at the bound,
  and the function is open;
* nobody waits for space in an unbounded queue, and no call to it is refused as `queueFull`.

The first and the last are kept by every step (`Life.Run.bounded`).  For the third, a producer that
cannot go on is asleep, and while a producer sleeps the queue is full but for the slots of those
that were woken (`Life.Waiting`), of whom there are none.
-/

namespace AddonHost

namespace Life

variable {f : HandleId} {alone : Prop} {l : Life} {doing : Multiset Activity}
  {fn fn' : ThreadsafeFunction} {own : List Activity} {es : List Event}

/-- A bounded queue is within its bound, and who waits for space waits on a bounded queue. -/
@[mk_iff]
structure Bounded (l : Life) (doing : Multiset Activity) : Prop where
  length : 0 < l.maxQueueSize → l.queue.length ≤ l.maxQueueSize
  waiters : waiters doing ≠ 0 → 0 < l.maxQueueSize

theorem Run.bounded (h : Run f alone l doing) : l.Bounded doing := by
  induction h with
  | unborn n => exact ⟨nofun, fun h => absurd rfl h⟩
  | @step l l' own own' kept hr hs _ ih =>
    rw [bounded_iff, waiters_add] at ih ⊢
    cases hs with
    | absent own hl =>
      obtain ⟨-, rfl, rfl⟩ := hr.eq_nil_of_absent hl
      exact ih
    | create env reference spec delivery invoker hl hn =>
      obtain ⟨-, -, rfl⟩ := hr.eq_nil_of_absent hl
      exact ⟨fun _ => Nat.zero_le _, fun h => absurd rfl h⟩
    | appendLost data hl hopen hfull hown | appendQueued data i hl hopen hfull hown hi
    | appendInline data i hl hopen hfull hown hi =>
      obtain ⟨-, hwaiters⟩ := ih
      rw [← Bool.not_eq_true, isFull_iff] at hfull
      simp only [maxQueueSize, hl, Option.map_some, Option.getD_some] at hwaiters
      refine ⟨fun hpos => ?_, fun hne => hwaiters fun h0 => hne ?_⟩
      · simp only [maxQueueSize, queue, function_tell, function_enqueue, function_become,
          Option.map_some, Option.getD_some, ThreadsafeFunction.push, List.length_append,
          List.length_singleton] at hpos ⊢
        omega
      · simpa using (add_eq_zero.1 h0).2
    | sleep t hl hopen hfull hown =>
      obtain ⟨hpos, -⟩ := (isFull_iff _).1 hfull
      simp_all [maxQueueSize, queue, ThreadsafeFunction.sleep]
    | closeAgain hl hc hs | closeQueued i hl hc hs hi | closeAtOnce hl hc hs =>
      cases hc <;>
        simp_all [maxQueueSize, queue, ThreadsafeFunction.close, ThreadsafeFunction.abort,
          ThreadsafeFunction.dropHolder, ThreadsafeFunction.wakeAll]
    | @start i k rest hq => 
      cases k <;> simp_all [Activity.ofTask, maxQueueSize, queue]
    | @drain fn i hl =>
      rw [filterMap_waiter?_deliveries]
      obtain ⟨hlength, hwaiters⟩ := ih
      simp only [maxQueueSize, queue, hl, Option.map_some, Option.getD_some] at hlength hwaiters
      refine ⟨fun hpos => ?_, fun hne => ?_⟩
      · simp only [maxQueueSize, queue, function_tell, function_become, pop_snd, Option.map_some,
          Option.getD_some, List.length_tail] at hpos ⊢
        have := hlength hpos
        omega
      · simpa [maxQueueSize, pop_snd] using hwaiters (by simpa using hne)
    | aside | displace | discard => exact ih
    | @teardown fn =>
      rcases finalizersDue_eq fn with hdue | ⟨calls, hdue⟩ <;> simp_all [maxQueueSize, queue]
    | _ =>
      simp_all [maxQueueSize, queue, ThreadsafeFunction.acquire, ThreadsafeFunction.dropHolder]

end Life

namespace ThreadsafeFunction

/-- A call that may not wait is refused for lack of space exactly when the queue of an open function
is full. -/
theorem admission_nonBlocking_eq_queueFull_iff (fn : ThreadsafeFunction) :
    fn.admission .nonBlocking = .refuse .queueFull ↔
      fn.aborted = false ∧ fn.closing = false ∧ fn.isFull = true := by
  unfold admission
  cases fn.aborted <;> cases fn.closing <;> cases fn.isFull <;> simp

/-- A call to a function with an unbounded queue is refused because the function is closing, or
appends its item. -/
theorem admission_of_unbounded {fn : ThreadsafeFunction} (h : fn.maxQueueSize = 0)
    (mode : CallMode) :
    fn.admission mode = .refuse .closing ∨ fn.admission mode = .append := by
  have hfull : fn.isFull = false := by simp [isFull, h]
  unfold admission
  rw [hfull]
  split <;> simp

end ThreadsafeFunction

/-- What a call answers in the end when it makes a move: what the move gives, or success after the
task that it runs or waits for.  None while the call waits for space. -/
def Move.outcome? (m : Move) : Option Outcome :=
  match m.frames.getLast?, m.control with
  | some (.called _), _ => some (.ok ())
  | none, .give (.outcome r) => some r
  | _, _ => none

namespace Session

variable {s : Session} {f : HandleId} {fn : ThreadsafeFunction} {t : ThreadId}

@[simp] theorem outcome?_give (s : Session) (r : Outcome) :
    (s.give (.outcome r)).outcome? = some r := rfl

/-- A call that appends its item succeeds, whatever becomes of the dispatch task. -/
theorem outcome?_appendItem (s : Session) (t : ThreadId) (f : HandleId) (fn : ThreadsafeFunction)
    (data : Word) : (s.appendItem t f fn data).outcome? = some (.ok ()) := by
  unfold appendItem
  simp only
  split
  · rfl
  · split <;> rfl

/-- A call is refused for lack of space when it is not admitted for that reason. -/
theorem outcome?_call_eq_queueFull_iff (hf : s.functions.object? f = some fn) (t : ThreadId)
    (data : Word) (mode : CallMode) :
    (s.call t f data mode).outcome? = some (.error .queueFull) ↔
      fn.admission mode = .refuse .queueFull := by
  simp only [call, hf]
  cases fn.admission mode with
  | refuse e => simp
  | wait => simp [run, Move.outcome?]
  | append => simp [outcome?_appendItem]

/-- Whether no producer that waits for space in the queue of a function can go on. -/
def ProducersStuck (s : Session) (f : HandleId) : Prop :=
  ∀ t ∈ s.waitingProducers f, s.step t = none

instance (s : Session) (f : HandleId) : Decidable (s.ProducersStuck f) :=
  decidable_of_iff (∀ t ∈ s.waitingProducers f, (s.step t).isNone = true) (by simp [ProducersStuck])

/-- A producer that cannot go on is asleep. -/
theorem Reachable.mem_sleepers (h : s.Reachable) (hf : s.functions.object? f = some fn)
    (hrunning : s.halted = false) (ht : t ∈ s.waitingProducers f) (hstuck : s.step t = none) :
    t ∈ fn.sleepers := by
  obtain ⟨⟨u, th⟩, hmem, rfl⟩ := List.mem_map.1 ht
  obtain ⟨hmem, hwaits⟩ := List.mem_filter.1 hmem
  have hthread := Assoc.get?_of_mem h.sound.sane.keys hmem
  obtain ⟨control, stack⟩ := th
  obtain ⟨data, rfl⟩ : ∃ data, control = .run (.awaitSpace f data) := by
    unfold Thread.waitsFor at hwaits
    split at hwaits
    · next g data heq =>
      obtain rfl : g = f := by simpa using hwaits
      exact ⟨data, heq⟩
    · simp at hwaits
  rw [step_eq_map hrunning hthread, Option.map_eq_none_iff] at hstuck
  simp only [Code.step, awaitSpace, hf] at hstuck
  by_contra hawake
  simp only [List.contains_iff_mem, hawake, if_false] at hstuck
  split at hstuck
  · simp at hstuck
  · split at hstuck <;> simp at hstuck

/-- When no producer that waits can go on, the queue of one that still waits is full, and the
function is open. -/
theorem Reachable.length_queue_of_stuck (h : s.Reachable) (hf : s.functions.object? f = some fn)
    (hrunning : s.halted = false) (hstuck : s.ProducersStuck f) (hne : s.waitingProducers f ≠ []) :
    fn.maxQueueSize.toNat ≤ fn.queue.length ∧ fn.closing = false := by
  have hl : (s.life f).function = some fn := hf
  obtain ⟨-, hclosing, hspace⟩ := (h.run f id).waiting
  simp only [Life.sleepers, Life.closing, Life.maxQueueSize, Life.queue, hl, Option.map_some,
    Option.getD_some, waiters_doing, Multiset.coe_card] at hclosing hspace
  have hasleep : ∀ t ∈ s.waitingProducers f, t ∈ fn.sleepers := fun t ht =>
    h.mem_sleepers hf hrunning ht (hstuck t ht)
  have hsleepers : fn.sleepers ≠ [] := by
    obtain ⟨t, ht⟩ := List.exists_mem_of_ne_nil _ hne
    exact List.ne_nil_of_mem (hasleep t ht)
  -- everyone who waits is asleep, so no slot is left to a producer that was woken
  have hlength : (s.waitingProducers f).length ≤ fn.sleepers.length :=
    ((h.sound.sane.nodup_waitingProducers f).subperm hasleep).length_le
  refine ⟨?_, ?_⟩
  · have := (hspace hsleepers).2
    omega
  · by_contra hclosed
    exact hsleepers (hclosing (by simpa using hclosed))

/-- The bound of a queue is kept, producers are refused or wait only at the bound, and a producer
that waits is let go on as soon as there is space. -/
theorem Reachable.queue_bound (h : s.Reachable) (hf : s.functions.object? f = some fn) :
    (fn.maxQueueSize ≠ 0 →
      fn.queue.length ≤ fn.maxQueueSize.toNat ∧
      (∀ t data,
        ((s.call t f data .nonBlocking).outcome? = some (.error .queueFull) ↔
          fn.closing = false ∧ fn.queue.length = fn.maxQueueSize.toNat) ∧
        ((s.call t f data .nonBlocking).outcome? = some (.error .queueFull) →
          s.call t f data .nonBlocking = s.give (.outcome (.error .queueFull)))) ∧
      (s.halted = false → s.ProducersStuck f → s.waitingProducers f ≠ [] →
        fn.queue.length = fn.maxQueueSize.toNat ∧ fn.closing = false)) ∧
    (fn.maxQueueSize = 0 →
      s.waitingProducers f = [] ∧
      ∀ t data mode, ∃ r, (s.call t f data mode).outcome? = some r ∧ r ≠ .error .queueFull) := by
  have hl : (s.life f).function = some fn := hf
  have hrun := h.run f id
  obtain ⟨hlength, hwaiters⟩ := hrun.bounded
  simp only [Life.maxQueueSize, Life.queue, hl, Option.map_some, Option.getD_some, waiters_doing]
    at hlength hwaiters
  have haborted : fn.closing = false → fn.aborted = false := fun hopen => by
    have := hrun.flags.closing
    simp only [Life.aborted, Life.closing, hl, Option.map_some, Option.getD_some, hopen] at this
    simpa using this
  constructor
  · intro hbounded
    have hpos : 0 < fn.maxQueueSize.toNat := by
      rw [Nat.pos_iff_ne_zero, ne_eq, ← UInt64.toNat_zero, UInt64.toNat_inj]
      exact hbounded
    have hle := hlength hpos
    refine ⟨hle, fun t data => ?_, fun hrunning hstuck hne => ?_⟩
    · have hfull : fn.isFull = true ↔ fn.queue.length = fn.maxQueueSize.toNat := by
        rw [Life.isFull_iff]
        omega
      have hrefused := outcome?_call_eq_queueFull_iff hf t data .nonBlocking
      rw [hrefused, fn.admission_nonBlocking_eq_queueFull_iff, hfull]
      refine ⟨⟨And.right, fun hcall => ⟨haborted hcall.1, hcall⟩⟩, fun hcall => ?_⟩
      rw [← hfull, ← fn.admission_nonBlocking_eq_queueFull_iff] at hcall
      simp only [call, hf, hcall]
    · obtain ⟨hge, hopen⟩ := h.length_queue_of_stuck hf hrunning hstuck hne
      exact ⟨le_antisymm hle hge, hopen⟩
  · intro hunbounded
    constructor
    · by_contra hne
      have hpos := hwaiters (by simpa using hne)
      simp [hunbounded] at hpos
    · intro t data mode
      rcases fn.admission_of_unbounded hunbounded mode with hrefuse | happend
      · exact ⟨.error .closing, by simp [call, hf, hrefuse], by simp⟩
      · exact ⟨.ok (), by simp [call, hf, happend, outcome?_appendItem], by simp⟩

/-- A session in which two producers have filled a queue with two slots, a third one sleeps, and the
call of a fourth one that may not wait was refused. -/
def queueAtBound : Session :=
  ((start [] none).performed?
    [.createInvoker "queue" .unlimited,
      .createFunction { name := "f", max := 2, callJs := true, invoker := some "queue" },
      .call (.named "f") (.word 1) .nonBlocking,
      .spawnCall "p" (.named "f") (.word 2) .blocking,
      .spawnCall "q" (.named "f") (.word 3) .blocking,
      .call (.named "f") (.word 4) .nonBlocking]).get (by decide +kernel)

theorem queue_bound_queueAtBound :
    ∃ fn, queueAtBound.functions.object? ⟨1⟩ = some fn ∧ fn.queue.length = 2 ∧
      queueAtBound.call .main ⟨1⟩ 4 .nonBlocking
        = queueAtBound.give (.outcome (.error .queueFull)) := by
  have hreachable : queueAtBound.Reachable :=
    (Reachable.start [] none).performed? (Option.some_get _).symm
  have hfunction : queueAtBound.functions.object? ⟨1⟩ = some _ :=
    (Option.some_get (by decide +kernel)).symm
  obtain ⟨-, hcalls, hstuck⟩ := (hreachable.queue_bound hfunction).1 (by decide +kernel)
  obtain ⟨hlength, hopen⟩ := hstuck (by decide +kernel) (by decide +kernel) (by decide +kernel)
  refine ⟨_, hfunction, hlength.trans (by decide +kernel), ?_⟩
  exact (hcalls .main 4).2 ((hcalls .main 4).1.2 ⟨hopen, hlength⟩)

end Session

end AddonHost
