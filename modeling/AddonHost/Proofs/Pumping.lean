import AddonHost.Proofs.Invoker.Order
import AddonHost.Proofs.Invoker.Tended

/-!
Invokers that their owner pumps.

In every run, with any threads interleaved, tasks that submit, pump and fail included, the following
holds of an invoker that its owner pumps (`Session.Pumps`).

* Tasks start in the order in which they were queued, each at most once.  As long as someone has the
  invoker, what is queued is what was queued so far without what has started.
* A task that has started has returned or failed, once, or a thread is in the middle of it.
* The invoker counts each task that has returned, a synchronous one of its own thread included: a
  pumped one when it is back at the pump, which is the very next that its thread does.
* A task that fails was taken off the queue, and leaves the queue and the count alone.
* A pump that drains the queue returns when the queue is empty, and not before.
* Whoever waits for a task goes on when this very task has started, and has returned or failed.

`Session.Interleaves.pumps` puts this together.  The order of tasks is read off the service of the
invokers (`Service.Run.fair`), the count and who has the invoker off the threads
(`Session.Interleaves.tended`).
-/

namespace AddonHost

namespace Session

open Event

variable {s s' : Session} {t : ThreadId} {i : InvokerId} {inv : Invoker} {m : ManualInvoker}
  {sub : Submission} {below : List Frame}

/-- How many threads are on their way back from a pumped task of an invoker to the pump, which
counts the task when they arrive. -/
def lateOn (s : Session) (i : InvokerId) : ℕ := (s.threads.map fun p => p.2.late i).sum

/-- Whether someone has an invoker: there is a name for it, or a thread that lets go of it later. -/
def InUse (s : Session) (i : InvokerId) : Prop :=
  (∃ name, s.names.invokers.get? name = some i) ∨
    ∃ t th, s.threads.get? t = some th ∧ i ∈ th.owes

/-- What is known of an invoker that its owner pumps. -/
structure Pumps (s : Session) (i : InvokerId) (inv : Invoker) (m : ManualInvoker) : Prop where
  /-- Tickets tell in which order tasks were queued. -/
  tickets : (queuedOn i s.history).Pairwise fun sub sub' => sub.ticket < sub'.ticket
  /-- Each task is queued once. -/
  distinct : (queuedOn i s.history).Nodup
  /-- Tasks start in the order in which they were queued, each at most once. -/
  order : (startedOn i s.history).Sublist (queuedOn i s.history)
  pending : s.InUse i → queuedOn i s.history = startedOn i s.history ++ m.queue.pending
  /-- A task that has started is over, or a thread is in the middle of it. -/
  started (sub : Submission) : sub ∈ startedOn i s.history ↔
    sub ∈ finishedOn i s.history ∨ ∃ t, .running i sub ∈ s.duties t
  /-- No task is over twice. -/
  once : (finishedOn i s.history).Nodup
  returned : (endedOn i s.history).Sublist (finishedOn i s.history)
  /-- Tasks that have returned are counted, but for those that are on their way to the pump. -/
  executed : m.executed + s.lateOn i = (endedOn i s.history).length + inlineOn i s.history
  /-- Between operations, all of them are. -/
  atRest : (∀ p ∈ s.threads, p.2.atRest = true) →
    m.executed = (endedOn i s.history).length + inlineOn i s.history
  /-- A task that has returned is counted next by the thread that was in it. -/
  counts (t : ThreadId) (r : Reply) (goal : PumpGoal) (below : List Frame) (s' : Session) :
    s.threads.get? t = some { control := .give r, stack := .pumped i goal :: below } →
      s.step t = some s' → ∃ inv', s'.invokers.get? i = some inv' ∧
        inv'.core = .manual { m with executed := m.executed + 1 }
  /-- A task that has failed is off the queue. -/
  consumed (sub : Submission) : .failed i sub ∈ s.history →
    sub ∈ startedOn i s.history ∧ sub ∉ m.queue.pending
  /-- A failure that is passed on leaves the invoker alone. -/
  failing (t : ThreadId) (stack : List Frame) (s' : Session) :
    s.threads.get? t = some { control := .fail, stack } → s.step t = some s' →
      s'.invokers.get? i = some inv
  /-- Whoever returns how many tasks a pump has run has found the queue empty. -/
  drained (t : ThreadId) (n : ℕ) (below : List Frame) (s' : Session) : s.step t = some s' →
    s'.threads.get? t = some { control := .run (.letGo i (.answer (.count n))), stack := below } →
      s.threads.get? t = some { control := .run (.pump i (.drained n)), stack := below } ∧
        m.queue.pending = [] ∧ s'.invokers.get? i = some inv
  /-- From another thread a synchronous task is queued, if it is taken, and is waited for. -/
  awaits (t : ThreadId) (task : Task) : t ≠ m.owner → m.takes m.offered = true →
    (s.offer t i true task).1 = .awaited s.completions ∧
      (s.offer t i true task).2.history
        = s.history ++ [.queued i (m.queue.submission task (some s.completions))]
  /-- Whoever waits has queued the one task that was queued with this completion, and goes on when
  this task has started and is over. -/
  waited (t : ThreadId) (completion : ℕ) (below : List Frame) :
    s.threads.get? t = some { control := .run (.awaitTask i completion), stack := below } →
      ∃ sub, (∀ j sub', .queued j sub' ∈ s.history ∧ sub'.completion = some completion ↔
          j = i ∧ sub' = sub) ∧
        ((s.step t).isSome = true → sub ∈ startedOn i s.history ∧
          (.ended i sub ∈ s.history ∨ .failed i sub ∈ s.history))

/-! ### Who has the invoker -/

theorem Tended.holders_ne_zero (h : s.Tended i) (hi : s.invokers.get? i = some inv)
    (huse : s.InUse i) : inv.holders ≠ 0 := by
  have hclaims := h.claims
  have hholders : (s.upkeep i).holders = inv.holders := by simp [Upkeep.holders, held_upkeep hi]
  have hpos : 0 < (s.upkeep i).claims i := by
    rcases huse with ⟨name, hname⟩ | ⟨t, th, hth, hmem⟩
    · exact claims_pos_of_named hname
    · refine Nat.add_pos_right _ (List.sum_pos_iff_exists_pos_nat.2 ?_)
      exact ⟨_, List.mem_map_of_mem (Assoc.mem_of_get? hth), List.count_pos_iff.2 hmem⟩
  omega

theorem not_isThread (hi : s.invokers.get? i = some inv) (hm : inv.core = .manual m) :
    ¬(s.upkeep i).IsThread := by
  simp [Upkeep.IsThread, held_upkeep hi, Invoker.counted?, hm]

/-- Nothing was dropped as long as someone has the invoker. -/
theorem Tended.discarded_eq_nil (h : s.Tended i) (hi : s.invokers.get? i = some inv)
    (hm : inv.core = .manual m) (huse : s.InUse i) : discardedOn i s.history = [] := by
  refine h.kept (not_isThread hi hm) fun hgone => h.holders_ne_zero hi huse ?_
  simpa [Upkeep.IsGone, held_upkeep hi] using hgone

theorem inUse_of_awaiting (h : s.Tended i) (hi : s.invokers.get? i = some inv)
    (hm : inv.core = .manual m) {completion : ℕ}
    (hth : s.threads.get? t = some { control := .run (.awaitTask i completion), stack := below }) :
    s.InUse i := by
  have horder := h.order (not_isThread hi hm) _ (Assoc.mem_of_get? hth)
  cases horder with
  | plain _ hwaits =>
    obtain ⟨fr, rest, rfl, hfr⟩ := hwaits completion rfl
    exact .inr ⟨t, _, hth, by simp [Thread.owes, hfr]⟩
  | between hcontrol => exact absurd rfl (hcontrol _)

/-! ### Counting -/

theorem endedOn_sublist (i : InvokerId) (es : List Event) :
    (endedOn i es).Sublist (finishedOn i es) := by
  have hended : endedOn i es = (es.filter fun e => (e.endedOn? i).isSome).filterMap
      (finishedOn? i) := by
    rw [List.filterMap_filter]
    refine List.filterMap_congr fun e _ => ?_
    cases e with
    | ended j sub => by_cases hj : j = i <;> simp [endedOn?, hj]
    | _ => rfl
  rw [hended]
  exact (List.filter_sublist ..).filterMap _

theorem late_of_atRest {th : Thread} (h : th.atRest = true) : th.late i = 0 := by
  obtain ⟨control, stack⟩ := th
  cases control with
  | run c | fail => rfl
  | give r =>
    cases stack with
    | nil => rfl
    | cons fr below => simp [Thread.atRest] at h

theorem counts_of_step {r : Reply} {goal : PumpGoal} (hi : s.invokers.get? i = some inv)
    (hm : inv.core = .manual m)
    (hth : s.threads.get? t = some { control := .give r, stack := .pumped i goal :: below })
    (hstep : s.step t = some s') :
    ∃ inv', s'.invokers.get? i = some inv' ∧
      inv'.core = .manual { m with executed := m.executed + 1 } := by
  have hgive := step_give (running_of_step hstep) hth
  obtain rfl := Option.some.inj (hstep.symm.trans hgive)
  have hcounted : (s.countExecuted i).invokers.get? i
      = some (inv.mapManual fun m => { m with executed := m.executed + 1 }) := by
    simp [countExecuted, modifyInvoker, Assoc.get?_modify, hi]
  have hinvokers : (s.afterPumped i goal).session.invokers = (s.countExecuted i).invokers := by
    cases goal <;> rfl
  refine ⟨_, (congrArg (Assoc.get? · i) hinvokers).trans hcounted, ?_⟩
  rw [Invoker.core_mapManual, hm]
  rfl

/-- A failure that is passed on, or arrives where it is answered, changes no manual invoker. -/
theorem get?_of_failing {stack : List Frame} (hi : s.invokers.get? i = some inv)
    (hm : inv.core = .manual m) (hth : s.threads.get? t = some { control := .fail, stack })
    (hstep : s.step t = some s') : s'.invokers.get? i = some inv := by
  obtain ⟨move, below, hmoves, rfl⟩ := exists_moves hstep hth
  cases hmoves with
  | refuse => exact hi
  | unwind fr =>
    cases fr with
    | performed owner a rest => cases owner <;> exact hi
    | taskEnded j sub =>
      obtain ⟨ticket, task, completion⟩ := sub
      cases completion <;> exact hi
    | looped j =>
      have hsame : inv.mapThread (fun r => { r with phase := .failed }) = inv := by
        simp [Invoker.mapThread, hm]
      show Assoc.get? (Assoc.modify _ _ _) i = some inv
      rw [Assoc.get?_modify]
      split_ifs <;> simp [hi, hsame]
    | _ => exact hi

/-! ### Draining the queue -/

variable {move : Move} {n : ℕ}

/-- Whether a move lets go of an invoker, to answer then how many tasks a pump has run. -/
def Reports (i : InvokerId) (n : ℕ) (move : Move) : Prop :=
  move.control = .run (.letGo i (.answer (.count n)))

@[simp] theorem not_reports_give (r : Reply) : ¬Reports i n (s.give r) := nofun

@[simp] theorem reports_run (c : Code) (frames : List Frame) :
    Reports i n (s.run c frames) ↔ c = .letGo i (.answer (.count n)) :=
  ⟨Control.run.inj, congrArg Control.run⟩

theorem not_reports_of_owes (h : move.owes = []) : ¬Reports i n move := by
  intro hreports
  have hcontrol := (List.append_eq_nil_iff.1 h).1
  rw [show move.control = _ from hreports] at hcontrol
  exact List.cons_ne_nil _ _ hcontrol

theorem not_reports_submit (j : InvokerId) (sync : Bool) (actions : List Action)
    (rejected : Rejected) : ¬Reports i n (s.submit t j sync actions rejected) := by
  unfold submit
  split
  · simp
  · simp
  · simp
  · split <;> simp

theorem not_reports_appendItem (f : HandleId) (fn : ThreadsafeFunction) (data : Word) :
    ¬Reports i n (s.appendItem t f fn data) := by
  unfold appendItem
  simp only
  split
  · simp
  · split <;> simp

theorem not_reports_call (f : HandleId) (data : Word) (mode : CallMode) :
    ¬Reports i n (s.call t f data mode) := by
  unfold call
  split
  · exact not_reports_give _
  · split
    · exact not_reports_give _
    · simp
    · exact not_reports_appendItem _ _ _

theorem not_reports_awaitSpace {f : HandleId} {data : Word}
    (hmove : s.awaitSpace t f data = some move) : ¬Reports i n move := by
  unfold awaitSpace at hmove
  split at hmove
  · obtain rfl := Option.some.inj hmove
    exact not_reports_give _
  · split_ifs at hmove <;> obtain rfl := Option.some.inj hmove
    · exact not_reports_give _
    · simp
    · exact not_reports_appendItem _ _ _

theorem not_reports_nameInvoker (name : String) (j : InvokerId) :
    ¬Reports i n (s.nameInvoker name j) := by
  unfold nameInvoker
  simp only
  split <;> simp [reply]

/-- No action answers at once how many tasks a pump has run. -/
theorem not_reports_perform (a : Action) : ¬Reports i n (s.perform t a) := by
  by_cases hinvolves : a.involves = false
  · exact not_reports_of_owes (uninvolved_perform t hinvolves).owes
  · cases a with
    | createInvoker name spec =>
      simp only [perform, createInvoker]
      split
      · exact not_reports_nameInvoker _ _
      · split
        · exact not_reports_give _
        · exact not_reports_give _
        · exact not_reports_nameInvoker _ _
    | dropInvoker name =>
      simp only [perform, dropInvoker]
      split
      · exact not_reports_give _
      · simp
    | submit invoker sync actions rejected =>
      simp only [perform, withInvoker]
      split
      · exact not_reports_give _
      · exact not_reports_submit _ _ _ _
    | spawnSubmit name invoker actions =>
      simp only [perform, withInvoker]
      split <;> exact not_reports_give _
    | pump invoker goal =>
      simp only [perform, pumpNamed, withInvoker]
      split
      · exact not_reports_give _
      · split
        · exact not_reports_give _
        · split
          · exact not_reports_give _
          · simp
    | _ => exact absurd rfl hinvolves

/-- A pump answers how many tasks it has run when it finds no further one. -/
theorem reports_pump {j : InvokerId} {goal : PumpGoal} (h : Reports i n (s.pump j goal)) :
    j = i ∧ goal = .drained n ∧ s.pump j goal = s.run (.letGo i (.answer (.count n))) ∧
      ∀ inv, s.invokers.get? i = some inv → inv.queue.pending = [] := by
  unfold pump at h ⊢
  split at h
  · exact absurd h (not_reports_give _)
  · next inv hj =>
    split at h
    · next m hm =>
      obtain ⟨sub, rest, -, rfl⟩ := runNext_eq_some_iff.1 hm
      simp at h
    · next hnone =>
      have hempty : inv.queue.pending = [] := by
        cases hq : inv.queue.pending with
        | nil => rfl
        | cons sub rest => simp [runNext, startTask, TaskQueue.pop, hq] at hnone
      cases goal with
      | drained n' =>
        obtain ⟨rfl, rfl⟩ : j = i ∧ n' = n := by simpa using h
        refine ⟨rfl, rfl, rfl, fun inv' hj' => ?_⟩
        obtain rfl := Option.some.inj (hj.symm.trans hj')
        exact hempty
      | polls n' =>
        simp only at h
        split_ifs at h <;> simp at h
      | _ => simp at h

/-- What answers how many tasks a pump has run. -/
theorem reports_of_step {c : Code} (hmove : c.step t s = some move) (h : Reports i n move) :
    c = .pump i (.drained n) ∧ move = s.run (.letGo i (.answer (.count n))) ∧
      ∀ inv, s.invokers.get? i = some inv → inv.queue.pending = [] := by
  cases c with
  | perform a =>
    obtain rfl := Option.some.inj hmove
    exact absurd h (not_reports_perform a)
  | call f data mode =>
    obtain rfl := Option.some.inj hmove
    exact absurd h (not_reports_call f data mode)
  | awaitSpace f data => exact absurd h (not_reports_awaitSpace hmove)
  | submit j sync actions rejected =>
    obtain rfl := Option.some.inj hmove
    exact absurd h (not_reports_submit _ _ _ _)
  | pump j goal =>
    obtain rfl := Option.some.inj hmove
    obtain ⟨rfl, rfl, hpump, hempty⟩ := reports_pump h
    exact ⟨rfl, hpump, hempty⟩
  | letGo j r =>
    obtain rfl := Option.some.inj hmove
    rcases (letGo_leaves s t j r).2 with hcontrol | hcontrol <;>
      rw [Reports, hcontrol] at h <;> simp at h
  | _ => exact absurd h (not_reports_of_owes (uninvolved_step rfl (by simp) hmove).owes)

theorem not_reports_resume (fr : Frame) (r : Reply) : ¬Reports i n (fr.resume t s r) := by
  by_cases howes : fr.owes = []
  · exact not_reports_of_owes (uninvolved_resume t howes r).owes
  · cases fr with
    | pumped j goal => cases goal <;> simp [Frame.resume, afterPumped]
    | called j | submitted j | ranRejected j => simp [Frame.resume]
    | _ => exact absurd rfl howes

theorem not_reports_unwind (fr : Frame) : ¬Reports i n (fr.unwind s) := by
  by_cases howes : fr.owes = []
  · exact not_reports_of_owes (uninvolved_unwind howes).owes
  · cases fr with
    | pumped j | submitted j | ranRejected j => simp [Frame.unwind]
    | called j =>
      intro hreports
      cases hreports
    | _ => exact absurd rfl howes

/-- Whoever answers how many tasks a pump has run has found the queue empty. -/
theorem Sound.drained (hs : s.Sound) (hi : s.invokers.get? i = some inv) (hm : inv.core = .manual m)
    (hstep : s.step t = some s')
    (hth' : s'.threads.get? t
      = some { control := .run (.letGo i (.answer (.count n))), stack := below }) :
    s.threads.get? t = some { control := .run (.pump i (.drained n)), stack := below } ∧
      m.queue.pending = [] ∧ s'.invokers.get? i = some inv := by
  obtain ⟨th, _, _, _, _, htaken⟩ := hs.exists_taken hstep
  have hth := htaken.thread
  obtain ⟨move, below', hmoves, rfl⟩ := exists_moves hstep hth
  rw [threads_apply, Option.some.injEq, Thread.mk.injEq] at hth'
  obtain ⟨hreports, hstack⟩ := hth'
  cases hmoves with
  | @run c move _ hmove =>
    obtain ⟨rfl, rfl, hempty⟩ := reports_of_step hmove hreports
    obtain rfl : below' = below := hstack
    refine ⟨hth, ?_, hi⟩
    have hpending := hempty inv hi
    rwa [Invoker.queue, hm] at hpending
  | give r fr => exact absurd hreports (not_reports_resume fr r)
  | unwind fr => exact absurd hreports (not_reports_unwind fr)
  | refuse => exact absurd hreports (not_reports_give _)

/-! ### Waiting -/

theorem offer_manual (hi : s.invokers.get? i = some inv) (hm : inv.core = .manual m) (task : Task)
    (hne : t ≠ m.owner) (htakes : m.takes m.offered = true) :
    (s.offer t i true task).1 = .awaited s.completions ∧
      (s.offer t i true task).2.history
        = s.history ++ [.queued i (m.queue.submission task (some s.completions))] := by
  simp only [offer, hi, hm, hne, htakes, Bool.not_true, Bool.false_eq_true, if_false,
    enqueueAwaited, enqueue, Invoker.queue, history_emit]
  exact ⟨rfl, rfl⟩

theorem signalled_of_step {completion : ℕ}
    (hth : s.threads.get? t = some { control := .run (.awaitTask i completion), stack := below })
    (hi : s.invokers.get? i = some inv) (hm : inv.core = .manual m)
    (hstep : (s.step t).isSome = true) : completion ∈ s.service.signalled := by
  obtain ⟨s', hs'⟩ := Option.isSome_iff_exists.1 hstep
  rw [step_eq_map (running_of_step hs') hth] at hs'
  obtain ⟨move, hmove, -⟩ := Option.map_eq_some_iff.1 hs'
  simp only [Code.step, awaitTask, hi, Option.map_some, hm] at hmove
  split at hmove
  · next hsignalled => exact List.contains_iff_mem.1 hsignalled
  · simp at hmove

/-- Whoever goes on after waiting for a task of a manual invoker has waited for one task, and this
task has started and is over. -/
theorem Served.waited (hs : Served False s) (htended : s.Tended i)
    (hi : s.invokers.get? i = some inv) (hm : inv.core = .manual m) {completion : ℕ}
    (hth : s.threads.get? t = some { control := .run (.awaitTask i completion), stack := below }) :
    ∃ sub, (∀ j sub', .queued j sub' ∈ s.history ∧ sub'.completion = some completion ↔
        j = i ∧ sub' = sub) ∧
      ((s.step t).isSome = true → sub ∈ startedOn i s.history ∧
        (.ended i sub ∈ s.history ∨ .failed i sub ∈ s.history)) := by
  have hcompletions := hs.run.completions
  have hawaiting : .awaiting i completion ∈ s.duties t := by
    rw [duties_eq hth]
    simp [Thread.duties, Control.duties, Code.duties]
  obtain ⟨sub, hqueued, hsub⟩ := hcompletions.awaiting hawaiting
  refine ⟨sub, fun j sub' => ⟨fun hother => ?_, ?_⟩, fun hstep => ?_⟩
  · obtain ⟨hqueued', hsub'⟩ := hother
    exact hcompletions.unique ((mem_told rfl).2 hqueued') hqueued hsub' hsub
  · rintro ⟨rfl, rfl⟩
    exact ⟨(mem_told rfl).1 hqueued, hsub⟩
  · have hover := hs.run.isOver_of_signalled hqueued hsub (signalled_of_step hth hi hm hstep)
    -- the task was not dropped, as the one who waits keeps the invoker
    have hkept : discardedOn i s.service.told = [] := by
      rw [discardedOn_told]
      exact htended.discarded_eq_nil hi hm (inUse_of_awaiting htended hi hm hth)
    have hfinished : sub ∈ finishedOn i s.service.told := by
      simpa [hkept] using Service.isOver_iff.1 hover
    refine ⟨startedOn_told s i ▸ (hs.run.fair i).begun hfinished, ?_⟩
    rcases hover with hover | hover | hover
    · exact .inl ((mem_told rfl).1 hover)
    · exact .inr ((mem_told rfl).1 hover)
    · have hdiscarded : sub ∈ discardedOn i s.service.told :=
        List.mem_filterMap.2 ⟨_, hover, by simp⟩
      simp [hkept] at hdiscarded

/-- An invoker that its owner pumps, in every run, with any threads interleaved and any tasks
failing. -/
theorem Interleaves.pumps {vars : Log.Variables} {level : Option Log.Level}
    (h : Interleaves False (start vars level) s) (hi : s.invokers.get? i = some inv)
    (hm : inv.core = .manual m) : s.Pumps i inv m := by
  have hs := h.served
  have htended := h.tended i
  have hqueue : (s.service.record i).queue? = some m.queue := by
    rw [Service.record, cores_eq hi, hm]
    rfl
  obtain ⟨htickets, -, -, hqueued, horder, hrunning, -, -, honce, hbegun, hgoesOn⟩ := hs.run.fair i
  have hdistinct := (hs.run.fair i).nodup_queued
  rw [hqueue, Option.map_some, Option.getD_some] at hqueued
  simp only [Service.record, queuedOn_told, startedOn_told, finishedOn_told] at *
  have hcounted :
      m.executed + s.lateOn i = (endedOn i s.history).length + inlineOn i s.history := by
    have hexecuted : (s.upkeep i).executed = m.executed := by
      simp [Upkeep.executed, held_upkeep hi, Invoker.counted?, hm]
    rw [← hexecuted]
    exact htended.counted (not_isThread hi hm)
  refine ⟨htickets, hdistinct, ?_, fun huse => ?_, fun sub => ⟨fun hsub => ?_, ?_⟩, honce,
    endedOn_sublist i _, hcounted, fun hrest => ?_,
    fun t r goal below s' hth hstep => counts_of_step hi hm hth hstep,
    fun sub hfailed => ?_, fun t stack s' hth hstep => get?_of_failing hi hm hth hstep,
    fun t n below s' hstep hth => hs.sound.drained hi hm hstep hth,
    fun t task hne htakes => offer_manual hi hm task hne htakes,
    fun t completion below hth => hs.waited htended hi hm hth⟩
  · rw [hqueued]
    exact horder.trans (List.sublist_append_left ..)
  · have hkept : discardedOn i s.service.told = [] := by
      rw [discardedOn_told]
      exact htended.discarded_eq_nil hi hm huse
    rw [hqueued, takenOn_eq_startedOn hkept, startedOn_told]
  · exact (hgoesOn hsub).imp_right (Exists.imp fun t => Duty.mem_runningOn.1)
  · rintro (hsub | ⟨t, ht⟩)
    · exact hbegun hsub
    · exact (hrunning (Duty.mem_runningOn.2 ht)).1
  · have hlate : s.lateOn i = 0 := by
      refine List.sum_eq_zero fun n hn => ?_
      obtain ⟨p, hp, rfl⟩ := List.mem_map.1 hn
      exact late_of_atRest (hrest p hp)
    omega
  · have hfinished : sub ∈ finishedOn i s.history := List.mem_filterMap.2 ⟨_, hfailed, by simp⟩
    have hstarted := hbegun hfinished
    rw [hqueued] at hdistinct
    exact ⟨hstarted, fun hpending =>
      (List.nodup_append.1 hdistinct).2.2 sub (horder.subset hstarted) sub hpending rfl⟩

/-- Four tasks for a manual invoker, and a fifth that the first one queues: the first one also runs
a synchronous one inside and pumps the second one, which fails, and a producer waits for the
third. -/
def fiveTasks : List Action :=
  [.createInvoker "queue" (.manual fun _ => true),
    .submit "queue" false
      [.submit "queue" false [] .dropped, .submit "queue" true [] .dropped, .pump "queue" .one]
      .dropped,
    .submit "queue" false [.fail] .dropped,
    .spawnSubmit "producer" "queue" [],
    .submit "queue" false [] .dropped,
    .pump "queue" .one,
    .pump "queue" .one]

/-- The main thread drains the queue, has returned from the fourth task, and is about to count
it. -/
def draining : Session :=
  ((start [] none).during? fiveTasks (.pump "queue" (.drained 0)) 5).get (by decide +kernel)

/-- Of the five tasks four have started, one has failed and one is pending; of the three that have
returned and the synchronous one, all but the last are counted, and the next step counts it. -/
theorem pumps_draining :
    ∃ inv m s', draining.invokers.get? 0 = some inv ∧ inv.core = .manual m ∧
      draining.Pumps 0 inv m ∧
      (startedOn 0 draining.history).map Submission.ticket = [0, 1, 2, 3] ∧
      m.queue.pending.map Submission.ticket = [4] ∧
      m.executed = 3 ∧ (endedOn 0 draining.history).length + inlineOn 0 draining.history = 4 ∧
      draining.step .main = some s' ∧
      ∃ inv', s'.invokers.get? 0 = some inv' ∧ inv'.core = .manual { m with executed := 4 } := by
  obtain ⟨inv, m, hinv, hm, hexecuted⟩ : ∃ inv m, draining.invokers.get? 0 = some inv ∧
      inv.core = .manual m ∧ m.executed = 3 := ⟨_, _, rfl, rfl, rfl⟩
  have hmain : draining.threads.get? .main
      = some { control := .give .unit, stack := [.pumped 0 (.drained 0)] } := rfl
  have hrun : Interleaves False (start [] none) draining :=
    Interleaves.refl.during? (Option.some_get _).symm False.elim
  obtain ⟨s', hstep⟩ : ∃ s', draining.step .main = some s' :=
    Option.isSome_iff_exists.1 (by decide +kernel)
  have hpumps := hrun.pumps hinv hm
  have huse : draining.InUse 0 := .inl ⟨"queue", by decide +kernel⟩
  have hqueued : (queuedOn 0 draining.history).map Submission.ticket = [0, 1, 2, 3, 4] := by
    decide +kernel
  have hstarted : (startedOn 0 draining.history).map Submission.ticket = [0, 1, 2, 3] := by
    decide +kernel
  have hpending : m.queue.pending.map Submission.ticket = [4] := by
    rw [hpumps.pending huse, List.map_append, hstarted] at hqueued
    simpa using hqueued
  have hcounted := hpumps.counts .main .unit (.drained 0) [] s' hmain hstep
  rw [hexecuted] at hcounted
  exact ⟨inv, m, s', hinv, hm, hpumps, hstarted, hpending, hexecuted, by decide +kernel, hstep,
    hcounted⟩

end Session

end AddonHost
