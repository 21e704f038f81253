import Mathlib
import AddonHost.Stress.State

/-!
What every interleaving of a stress run keeps.

Producers and the interpreter thread take turns in any order, one whole operation at a time
(`State.Reachable`).  A tag holds its producer and its sequence number, as long as both are in range
(`Plan.Fits`, `tagProducer_tag`, `tagSequence_tag`).  `State.Consistent` is what holds in between:

* what a producer has sent is what the sink has received of it and what is queued, in order
  (`State.Ordered`);
* nothing is lost, refused or out of order (`State.Counted`);
* each queued item has a task.  The function closes with the last release or the last item,
  whichever comes later, so when no holder is left and nothing is queued; only then its teardown is
  queued (`State.Phase`).

Each operation keeps it (`Consistent.step`), and so does every interleaving (`Reachable.consistent`).
-/

namespace AddonHost.Stress

variable {plan : Plan} {p q seq : ℕ}

/-- The plans whose items have room in their tags, and whose total has room in a word. -/
structure Plan.Fits (plan : Plan) : Prop where
  pos : 0 < plan.producers
  producers : plan.producers ≤ 2 ^ 24
  items : plan.items ≤ 2 ^ 40
  total : plan.producers * plan.items < UInt64.size

/-! ### Tags -/

theorem toNat_tag (hp : p < 2 ^ 24) (hseq : seq < 2 ^ 40) : (tag p seq).toNat = 2 ^ 40 * p + seq := by
  have hword : p % 2 ^ 64 = p := Nat.mod_eq_of_lt (by omega)
  have hword' : seq % 2 ^ 64 = seq := Nat.mod_eq_of_lt (by omega)
  have hshifted : p <<< 40 % 2 ^ 64 = 2 ^ 40 * p := by
    rw [Nat.shiftLeft_eq, Nat.mod_eq_of_lt (by omega), Nat.mul_comm]
  have hshift : tagShift.toNat % 64 = 40 := rfl
  rw [tag, UInt64.toNat_or, UInt64.toNat_shiftLeft, Nat.toUInt64_eq, Nat.toUInt64_eq,
    UInt64.toNat_ofNat', UInt64.toNat_ofNat', hword, hword', hshift, hshifted,
    Nat.two_pow_add_eq_or_of_lt hseq]

/-- An item decodes to its producer. -/
theorem tagProducer_tag (hp : p < 2 ^ 24) (hseq : seq < 2 ^ 40) : tagProducer (tag p seq) = p := by
  have hshift : tagShift.toNat % 64 = 40 := rfl
  rw [tagProducer, UInt64.toNat_shiftRight, toNat_tag hp hseq, hshift, Nat.shiftRight_eq_div_pow]
  omega

/-- An item decodes to its sequence number. -/
theorem tagSequence_tag (hp : p < 2 ^ 24) (hseq : seq < 2 ^ 40) :
    (tagSequence (tag p seq)).toNat = seq := by
  have hmask : ((1 : Word) <<< tagShift - 1).toNat = 2 ^ 40 - 1 := rfl
  rw [tagSequence, UInt64.toNat_and, toNat_tag hp hseq, hmask, Nat.and_two_pow_sub_one_eq_mod]
  omega

namespace State

variable {s s' : State} {g : Progress} {item : Word} {rest : List Word}

/-- The states that some interleaving of a run arrives at. -/
inductive Reachable (plan : Plan) : State → Prop where
  | start : Reachable plan (start plan)
  | act {s s' : State} (a : Actor) : Reachable plan s → s.act plan a = some s' → Reachable plan s'

/-! ### Sums over the producers -/

/-- The number of calls that were made. -/
def calls (s : State) : ℕ := (s.progress.toList.map Progress.called).sum

/-- The number of producers that have yet to release the function. -/
def holders (s : State) : ℕ := s.progress.toList.countP fun g => !g.released

/-- The sequence number that the sink expects of a producer. -/
def awaited (s : State) (p : ℕ) : ℕ := (s.expected[p]?.getD 0).toNat

/-- The items of a producer that are queued. -/
def queuedFrom (s : State) (p : ℕ) : List Word :=
  s.function.queue.filter fun item => tagProducer item = p

theorem exists_progress (hg : s.progress[p]? = some g) :
    ∃ before after, s.progress.toList = before ++ g :: after ∧
      ∀ f, (s.progress.modify p f).toList = before ++ f g :: after := by
  have hp : p < s.progress.toList.length := (List.getElem?_eq_some_iff.1 (by simpa using hg)).1
  obtain ⟨before, g', after, hlist, hlength, -⟩ := List.exists_of_modify (id : Progress → _) hp
  obtain rfl : g' = g := by
    have : s.progress.toList[p]? = s.progress[p]? := Array.getElem?_toList
    rw [hlist, hg, ← hlength] at this
    simpa using this
  refine ⟨before, after, hlist, fun f => ?_⟩
  rw [Array.toList_modify, hlist, ← hlength, List.modify_eq_take_cons_drop (by simp)]
  simp

/-- A producer that has not released the function holds it. -/
theorem holders_pos (hg : s.progress[p]? = some g) (hholds : g.released = false) : 0 < s.holders := by
  obtain ⟨before, after, hlist, -⟩ := exists_progress hg
  rw [holders, hlist]
  simp [hholds]

/-! ### The invariant -/

/-- Producers call as often as planned before they release the function. -/
structure Paced (plan : Plan) (s : State) : Prop where
  size : s.progress.size = plan.producers
  called_le (p : ℕ) (g : Progress) : s.progress[p]? = some g → g.called ≤ plan.items
  called_eq (p : ℕ) (g : Progress) :
    s.progress[p]? = some g → g.released = true → g.called = plan.items

/-- What a producer has sent was received or is queued, in order. -/
structure Ordered (plan : Plan) (s : State) : Prop where
  size : s.expected.size = plan.producers
  sent : ∀ item ∈ s.function.queue, tagProducer item < plan.producers
  awaited_le (p : ℕ) : p < plan.producers → s.awaited p ≤ s.called p
  queuedFrom (p : ℕ) : p < plan.producers →
    s.queuedFrom p = (List.range' (s.awaited p) (s.called p - s.awaited p)).map (tag p)

/-- Nothing is lost, and nothing was refused or out of order. -/
structure Counted (s : State) : Prop where
  holders : s.function.threadCount.toNat = s.holders
  aborted : s.function.aborted = false
  delivered : s.delivered + s.function.queue.length = s.calls
  failedCalls : s.failedCalls = 0
  outOfOrder : s.outOfOrder = 0

/-- The function is open, and each queued item has a task. -/
structure IsOpen (s : State) : Prop where
  closing : s.function.closing = false
  scheduled : s.function.finalizeScheduled = false
  tasks : s.tasks = List.replicate s.function.queue.length .drain
  tasksRun : s.tasksRun = s.delivered
  finalizerRuns : s.finalizerRuns = 0

/-- The function is closed, with no holder and nothing queued. -/
structure IsClosed (s : State) : Prop where
  closing : s.function.closing = true
  holders : s.holders = 0
  queue : s.function.queue = []

/-- How far the function has come: it is open as long as there is a holder or something queued, then
its teardown is queued, and then that was run. -/
inductive Phase (s : State) : Prop where
  | running : s.IsOpen → s.holders ≠ 0 ∨ s.function.queue ≠ [] → Phase s
  | closing : s.IsClosed → s.tasks = [.teardown] → s.finalizerRuns = 0 →
    s.tasksRun = s.delivered → Phase s
  | ended : s.IsClosed → s.tasks = [] → s.finalizerRuns = 1 → s.tasksRun = s.delivered + 1 → Phase s

/-- What holds between two operations of a run. -/
structure Consistent (plan : Plan) (s : State) : Prop where
  paced : s.Paced plan
  ordered : s.Ordered plan
  counted : s.Counted
  phase : s.Phase

theorem Paced.lt (h : s.Paced plan) (hg : s.progress[p]? = some g) : p < plan.producers :=
  h.size ▸ (Array.getElem?_eq_some_iff.1 hg).1

theorem Paced.called_le_items (h : s.Paced plan) (p : ℕ) : s.called p ≤ plan.items := by
  cases hg : s.progress[p]? with
  | none => simp [called, hg]
  | some g => simpa [called, hg] using h.called_le p g hg

theorem called_eq (hg : s.progress[p]? = some g) : s.called p = g.called := by
  simp [called, hg]

/-- A function that someone holds is open. -/
theorem Phase.isOpen (h : s.Phase) (hg : s.progress[p]? = some g) (hholds : g.released = false) :
    s.IsOpen := by
  have hholders := holders_pos hg hholds
  cases h with
  | running hopen => exact hopen
  | closing hclosed | ended hclosed =>
    have := hclosed.holders
    omega

/-! ### The beginning -/

theorem Consistent.start (hfits : plan.Fits) : Consistent plan (start plan) := by
  have hholders : (State.start plan).holders = plan.producers := by
    simp [State.start, State.holders, List.countP_replicate]
  have hqueue : (State.start plan).function.queue = [] := rfl
  have hpos := hfits.pos
  have hfew := hfits.producers
  refine ⟨⟨Array.size_replicate, fun p g hg => ?_, fun p g hg => ?_⟩,
    ⟨Array.size_replicate, by simp [hqueue], fun p hp => ?_, fun p hp => ?_⟩,
    ⟨?_, rfl, by simp [State.start, ThreadsafeFunction.create, calls], rfl, rfl⟩,
    .running ⟨rfl, rfl, rfl, rfl, rfl⟩ (.inl (by omega))⟩
  · obtain ⟨-, rfl⟩ := Array.getElem?_eq_some_iff.1 hg
    simp [State.start]
  · obtain ⟨-, rfl⟩ := Array.getElem?_eq_some_iff.1 hg
    simp [State.start]
  · simp [awaited, State.start, hp]
  · rw [queuedFrom, hqueue]
    simp [called, State.start, hp]
  · rw [hholders]
    show (plan.producers.toUInt64).toNat = _
    simp
    omega

/-! ### Calls -/

section call

variable (h : s.Consistent plan) (hfits : plan.Fits) (hg : s.progress[p]? = some g)
  (hholds : g.released = false) (hlt : g.called < plan.items)
  (hspace : s.function.admission .blocking ≠ .wait)
include h hg hholds hspace

/-- A call of a producer, when there is space, appends its item. -/
theorem Consistent.call_eq : s.call p g.called =
    { s with
      function := s.function.push (tag p g.called)
      tasks := s.tasks ++ [.drain]
      progress := s.progress.modify p fun g => { g with called := g.called + 1 } } := by
  have hadmission : s.function.admission .blocking = .append := by
    have hopen := (h.phase.isOpen hg hholds).closing
    unfold ThreadsafeFunction.admission at hspace ⊢
    simp_all [h.counted.aborted]
  rw [State.call, hadmission]
  rfl

theorem Consistent.called_call (q : ℕ) :
    (s.call p g.called).called q = s.called q + if q = p then 1 else 0 := by
  simp only [h.call_eq hg hholds hspace, called, Array.getElem?_modify]
  by_cases hqp : q = p
  · subst hqp
    simp [hg]
  · simp [hqp, Ne.symm hqp]

include hlt in
theorem Consistent.paced_call : (s.call p g.called).Paced plan := by
  have hprogress (q : ℕ) (g' : Progress) (hg' : (s.call p g.called).progress[q]? = some g') :
      s.progress[q]? = some g' ∨ g' = { g with called := g.called + 1 } := by
    rw [h.call_eq hg hholds hspace, Array.getElem?_modify] at hg'
    split_ifs at hg' <;> simp_all
  refine ⟨?_, fun q g' hg' => ?_, fun q g' hg' hreleased => ?_⟩
  · rw [h.call_eq hg hholds hspace]
    simp [h.paced.size]
  · rcases hprogress q g' hg' with hold | rfl
    · exact h.paced.called_le q g' hold
    · exact hlt
  · rcases hprogress q g' hg' with hold | rfl
    · exact h.paced.called_eq q g' hold hreleased
    · simp [hholds] at hreleased

include hfits hlt in
theorem Consistent.ordered_call : (s.call p g.called).Ordered plan := by
  have hp := h.paced.lt hg
  have hproducer : tagProducer (tag p g.called) = p :=
    tagProducer_tag (lt_of_lt_of_le hp hfits.producers) (lt_of_lt_of_le hlt hfits.items)
  have hcalled := h.called_call hg hholds hspace
  have hawaited (q : ℕ) : (s.call p g.called).awaited q = s.awaited q := by
    rw [h.call_eq hg hholds hspace]
    rfl
  have hqueued (q : ℕ) : (s.call p g.called).queuedFrom q
      = s.queuedFrom q ++ if p = q then [tag p g.called] else [] := by
    rw [h.call_eq hg hholds hspace]
    simp [queuedFrom, List.filter_cons, hproducer]
  refine ⟨?_, ?_, fun q hq => ?_, fun q hq => ?_⟩
  · rw [h.call_eq hg hholds hspace]
    exact h.ordered.size
  · rw [h.call_eq hg hholds hspace]
    intro item hitem
    rcases List.mem_append.1 hitem with hold | hnew
    · exact h.ordered.sent item hold
    · rwa [List.mem_singleton.1 hnew, hproducer]
  · rw [hawaited, hcalled]
    exact (h.ordered.awaited_le q hq).trans (Nat.le_add_right ..)
  · rw [hqueued, hawaited, hcalled, h.ordered.queuedFrom q hq]
    have hle := h.ordered.awaited_le q hq
    by_cases hpq : p = q
    · subst hpq
      rw [if_pos rfl, if_pos rfl, State.called_eq hg] at *
      rw [Nat.sub_add_comm hle, List.range'_concat, List.map_append]
      simp [Nat.add_sub_cancel' hle]
    · simp [hpq, Ne.symm hpq]

theorem Consistent.counted_call : (s.call p g.called).Counted := by
  obtain ⟨before, after, hlist, hmodify⟩ := exists_progress hg
  have hdelivered := h.counted.delivered
  have hholders := h.counted.holders
  rw [calls, hlist] at hdelivered
  rw [State.holders, hlist] at hholders
  rw [h.call_eq hg hholds hspace]
  refine ⟨?_, h.counted.aborted, ?_, h.counted.failedCalls, h.counted.outOfOrder⟩
  · simp only [State.holders, hmodify, List.countP_append, List.countP_cons] at hholders ⊢
    exact hholders
  · simp only [calls, hmodify, ThreadsafeFunction.queue_push]
    simp at hdelivered ⊢
    omega

theorem Consistent.phase_call : (s.call p g.called).Phase := by
  have hopen := h.phase.isOpen hg hholds
  rw [h.call_eq hg hholds hspace]
  refine .running ⟨hopen.closing, hopen.scheduled, ?_, hopen.tasksRun, hopen.finalizerRuns⟩
    (.inr (by simp))
  simp [hopen.tasks, List.replicate_succ']

end call

/-! ### Releases and deliveries -/

theorem close_eq (hscheduled : s.function.finalizeScheduled = false) : s.close =
    { s with function := s.function.close, tasks := s.tasks ++ [.teardown] } := by
  rw [close, hscheduled]
  rfl

/-- A function that is spent closes, which changes nothing but its flags and the tasks. -/
theorem Counted.consistent (h : s.Counted) (hopen : s.IsOpen) (hpaced : s.Paced plan)
    (hordered : s.Ordered plan) : (if s.function.isSpent then s.close else s).Consistent plan := by
  have hholders := h.holders
  by_cases hspent : s.function.isSpent = true
  · have hspent' := hspent
    rw [ThreadsafeFunction.isSpent, Bool.and_eq_true, beq_iff_eq, List.isEmpty_iff] at hspent'
    obtain ⟨hnone, hqueue⟩ := hspent'
    have hholders' : s.holders = 0 := by simpa [hnone] using hholders.symm
    rw [if_pos hspent, close_eq hopen.scheduled]
    exact ⟨⟨hpaced.size, hpaced.called_le, hpaced.called_eq⟩,
      ⟨hordered.size, hordered.sent, hordered.awaited_le, hordered.queuedFrom⟩,
      ⟨h.holders, h.aborted, h.delivered, h.failedCalls, h.outOfOrder⟩,
      .closing ⟨rfl, hholders', hqueue⟩ (by simp [hopen.tasks, hqueue]) hopen.finalizerRuns
        hopen.tasksRun⟩
  · rw [if_neg hspent]
    refine ⟨hpaced, hordered, h, .running hopen ?_⟩
    rw [ThreadsafeFunction.isSpent, Bool.and_eq_true, beq_iff_eq, List.isEmpty_iff, not_and_or]
      at hspent
    refine hspent.imp_left fun hsome hnone => hsome ?_
    rw [hnone] at hholders
    exact UInt64.toNat_inj.1 hholders

/-- A producer that has made its calls releases the function. -/
theorem Consistent.release (h : s.Consistent plan) (hg : s.progress[p]? = some g)
    (hholds : g.released = false) (hdone : g.called = plan.items) :
    (s.release p).Consistent plan := by
  obtain ⟨before, after, hlist, hmodify⟩ := exists_progress hg
  have hopen := h.phase.isOpen hg hholds
  -- the session after the release, before the function closes
  obtain ⟨u, hu⟩ : ∃ u : State, u =
      { s with
        function := s.function.dropHolder
        progress := s.progress.modify p fun g => { g with released := true } } := ⟨_, rfl⟩
  have hrelease : s.release p = if u.function.isSpent then u.close else u := by
    simp only [State.release, hopen.closing, hu]
    rfl
  have hprogress (q : ℕ) (g' : Progress) (hg' : u.progress[q]? = some g') :
      s.progress[q]? = some g' ∨ g' = { g with released := true } := by
    rw [hu, Array.getElem?_modify] at hg'
    split_ifs at hg' <;> simp_all
  have hcalled (q : ℕ) : u.called q = s.called q := by
    simp only [hu, called, Array.getElem?_modify]
    split_ifs <;> simp [Function.comp_def]
  have hpaced : u.Paced plan := by
    refine ⟨by simp [hu, h.paced.size], fun q g' hg' => ?_, fun q g' hg' hreleased => ?_⟩
    · rcases hprogress q g' hg' with hold | rfl
      · exact h.paced.called_le q g' hold
      · exact hdone.le
    · rcases hprogress q g' hg' with hold | rfl
      · exact h.paced.called_eq q g' hold hreleased
      · exact hdone
  have hordered : u.Ordered plan := by
    have hqueued (q : ℕ) : u.queuedFrom q = s.queuedFrom q := by rw [hu]; rfl
    have hawaited (q : ℕ) : u.awaited q = s.awaited q := by rw [hu]; rfl
    refine ⟨by rw [hu]; exact h.ordered.size, by rw [hu]; exact h.ordered.sent,
      fun q hq => ?_, fun q hq => ?_⟩
    · rw [hawaited, hcalled]
      exact h.ordered.awaited_le q hq
    · rw [hqueued, hawaited, hcalled]
      exact h.ordered.queuedFrom q hq
  have hcounted : u.Counted := by
    have hdelivered := h.counted.delivered
    have hholders := h.counted.holders
    rw [calls, hlist] at hdelivered
    rw [State.holders, hlist] at hholders
    rw [hu]
    refine ⟨?_, h.counted.aborted, ?_, h.counted.failedCalls, h.counted.outOfOrder⟩
    · simp only [State.holders, hmodify, ThreadsafeFunction.dropHolder, Word.toNat_pred, hholders,
        List.countP_append, List.countP_cons, hholds]
      simp
    · simp only [calls, hmodify]
      simpa [ThreadsafeFunction.dropHolder] using hdelivered
  have hopen' : u.IsOpen := by
    rw [hu]
    exact ⟨hopen.closing, hopen.scheduled, hopen.tasks, hopen.tasksRun, hopen.finalizerRuns⟩
  rw [hrelease]
  exact hcounted.consistent hopen' hpaced hordered

/-- The item that is delivered next is the one that the sink expects of its producer. -/
theorem Consistent.exists_front (h : s.Consistent plan) (hfits : plan.Fits)
    (hqueue : s.function.queue = item :: rest) :
    ∃ p, p < plan.producers ∧ item = tag p (s.awaited p) ∧ s.awaited p < s.called p ∧
      tagProducer item = p ∧ (tagSequence item).toNat = s.awaited p ∧
      rest.filter (fun item => tagProducer item = p)
        = (List.range' (s.awaited p + 1) (s.called p - (s.awaited p + 1))).map (tag p) := by
  obtain ⟨p, hproducer⟩ : ∃ p, tagProducer item = p := ⟨_, rfl⟩
  have hp : p < plan.producers := hproducer ▸ h.ordered.sent item (by simp [hqueue])
  have hle := h.paced.called_le_items p
  have hqueued := h.ordered.queuedFrom p hp
  rw [queuedFrom, hqueue, List.filter_cons_of_pos (by simpa using hproducer)] at hqueued
  cases hleft : s.called p - s.awaited p with
  | zero => simp [hleft] at hqueued
  | succ n =>
    rw [hleft, List.range'_succ, List.map_cons] at hqueued
    obtain ⟨rfl, hrest⟩ := List.cons_eq_cons.1 hqueued
    have hitems := hfits.items
    refine ⟨p, hp, rfl, by omega, hproducer,
      tagSequence_tag (lt_of_lt_of_le hp hfits.producers) (by omega), ?_⟩
    rw [hrest, show s.called p - (s.awaited p + 1) = n by omega]

/-- While a dispatch task is queued, the function is open. -/
theorem Consistent.isOpen_of_drain (h : s.Consistent plan) {tasks : List Work}
    (htasks : s.tasks = .drain :: tasks) : s.IsOpen := by
  cases h.phase with
  | running hopen => exact hopen
  | closing hclosed htasks' | ended hclosed htasks' => simp [htasks'] at htasks

/-- A dispatch task finds an item. -/
theorem Consistent.exists_queue (h : s.Consistent plan) {tasks : List Work}
    (htasks : s.tasks = .drain :: tasks) : ∃ item rest, s.function.queue = item :: rest := by
  refine List.exists_cons_of_ne_nil fun hnil => ?_
  have := (h.isOpen_of_drain htasks).tasks
  simp [htasks, hnil] at this

/-- The interpreter thread delivers an item. -/
theorem Consistent.workDrain (h : s.Consistent plan) (hfits : plan.Fits) {tasks : List Work}
    (htasks : s.tasks = .drain :: tasks) :
    (State.work { s with tasks := tasks } .drain).Consistent plan := by
  have hopen := h.isOpen_of_drain htasks
  obtain ⟨item, rest, hqueue⟩ := h.exists_queue htasks
  have htasks' : tasks = List.replicate rest.length .drain := by
    have := hopen.tasks
    rw [htasks, hqueue, List.length_cons, List.replicate_succ] at this
    exact (List.cons_eq_cons.1 this).2
  obtain ⟨p, hp, hitem, hlt, hproducer, hsequence, hrest⟩ := h.exists_front hfits hqueue
  obtain ⟨fn, hpop, hrest', hholders, haborted, hclosing, hscheduled⟩ : ∃ fn,
      s.function.pop = (some item, fn) ∧ fn.queue = rest ∧
        fn.threadCount = s.function.threadCount ∧ fn.aborted = false ∧ fn.closing = false ∧
        fn.finalizeScheduled = false := by
    unfold ThreadsafeFunction.pop
    rw [hqueue]
    exact ⟨_, rfl, rfl, rfl, h.counted.aborted, hopen.closing, hopen.scheduled⟩
  -- the run after the delivery, before the function closes
  obtain ⟨u, hu⟩ : ∃ u : State, u =
      { s with
        function := fn
        tasks := tasks
        expected := s.expected.modify p fun _ => tagSequence item + 1
        delivered := s.delivered + 1
        tasksRun := s.tasksRun + 1 } := ⟨_, rfl⟩
  have hwork : State.work { s with tasks := tasks } .drain
      = if u.function.isSpent then u.close else u := by
    have hexpected : s.expected[p]?.getD 0 = tagSequence item := UInt64.toNat_inj.1 hsequence.symm
    simp only [State.work, State.drain, hpop, haborted, Bool.false_eq_true, if_false,
      State.deliver, hproducer, hexpected, if_true, hclosing, Bool.not_false, Bool.and_true]
    rw [hu, ThreadsafeFunction.isSpent, Bool.and_comm]
    split_ifs with hspent
    · rw [close_eq hscheduled, close_eq hscheduled]
    · rfl
  have hordered : u.Ordered plan := by
    have hnext : (tagSequence item + 1).toNat = s.awaited p + 1 := by
      have hle := h.paced.called_le_items p
      have hitems := hfits.items
      rw [UInt64.toNat_add, hsequence]
      simp
      omega
    have hcalled (q : ℕ) : u.called q = s.called q := by rw [hu]; rfl
    have hawaited : u.awaited p = s.awaited p + 1 := by
      have hp' : p < s.expected.size := h.ordered.size ▸ hp
      rw [hu, awaited, Array.getElem?_modify, if_pos rfl, Array.getElem?_eq_getElem hp']
      exact hnext
    have hkept (q : ℕ) (hq : q ≠ p) :
        u.awaited q = s.awaited q ∧ u.queuedFrom q = s.queuedFrom q := by
      refine ⟨by simp [hu, awaited, Array.getElem?_modify, Ne.symm hq], ?_⟩
      rw [hu, queuedFrom, queuedFrom, hqueue, hrest']
      simp [hproducer, Ne.symm hq]
    refine ⟨by simp [hu, h.ordered.size], fun item' hitem' => ?_, fun q hq => ?_, fun q hq => ?_⟩
    · rw [hu, hrest'] at hitem'
      exact h.ordered.sent item' (hqueue ▸ List.mem_cons_of_mem _ hitem')
    · by_cases hqp : q = p
      · rw [hqp, hawaited, hcalled]
        exact hlt
      · rw [(hkept q hqp).1, hcalled]
        exact h.ordered.awaited_le q hq
    · by_cases hqp : q = p
      · rw [hqp, hawaited, hcalled, ← hrest, queuedFrom, hu, hrest']
      · rw [(hkept q hqp).1, (hkept q hqp).2, hcalled]
        exact h.ordered.queuedFrom q hq
  have hcounted : u.Counted := by
    have hdelivered := h.counted.delivered
    rw [hqueue, List.length_cons] at hdelivered
    rw [hu]
    refine ⟨hholders ▸ h.counted.holders, haborted, ?_, h.counted.failedCalls,
      h.counted.outOfOrder⟩
    show s.delivered + 1 + fn.queue.length = s.calls
    rw [hrest']
    omega
  have hopen' : u.IsOpen := by
    rw [hu]
    exact ⟨hclosing, hscheduled, by rw [hrest', htasks'], congrArg (· + 1) hopen.tasksRun,
      hopen.finalizerRuns⟩
  have hpaced : u.Paced plan := by
    rw [hu]
    exact ⟨h.paced.size, h.paced.called_le, h.paced.called_eq⟩
  rw [hwork]
  exact hcounted.consistent hopen' hpaced hordered

/-- The interpreter thread tears the function down. -/
theorem Consistent.workTeardown (h : s.Consistent plan) {tasks : List Work}
    (htasks : s.tasks = .teardown :: tasks) :
    (State.work { s with tasks := tasks } .teardown).Consistent plan := by
  have hphase : s.IsClosed ∧ tasks = [] ∧ s.finalizerRuns = 0 ∧ s.tasksRun = s.delivered := by
    cases h.phase with
    | running hopen =>
      have hmem : Work.teardown ∈ List.replicate s.function.queue.length .drain := by
        rw [← hopen.tasks, htasks]
        exact List.mem_cons_self
      simpa using List.eq_of_mem_replicate hmem
    | closing hclosed htasks' hruns hran =>
      rw [htasks'] at htasks
      exact ⟨hclosed, (List.cons_eq_cons.1 htasks).2.symm, hruns, hran⟩
    | ended hclosed htasks' => simp [htasks'] at htasks
  obtain ⟨hclosed, rfl, hruns, hran⟩ := hphase
  obtain ⟨hsize, hle, heq⟩ := h.paced
  obtain ⟨hexpected, hsent, hawaited, hqueued⟩ := h.ordered
  obtain ⟨hholders, haborted, hdelivered, hfailed, hordered⟩ := h.counted
  exact ⟨⟨hsize, hle, heq⟩, ⟨hexpected, hsent, hawaited, hqueued⟩,
    ⟨hholders, haborted, hdelivered, hfailed, hordered⟩,
    .ended ⟨hclosed.closing, hclosed.holders, hclosed.queue⟩ rfl (congrArg (· + 1) hruns)
      (congrArg (· + 1) hran)⟩

/-! ### Runs -/

/-- What one operation can be: a call with space, a release after the last call, a delivery, or the
teardown. -/
inductive Step (plan : Plan) (s : State) : State → Prop where
  | call {p : ℕ} {g : Progress} : s.progress[p]? = some g → g.released = false →
    g.called < plan.items → s.function.admission .blocking ≠ .wait → Step plan s (s.call p g.called)
  | release {p : ℕ} {g : Progress} : s.progress[p]? = some g → g.released = false →
    plan.items ≤ g.called → Step plan s (s.release p)
  | work {w : Work} {tasks : List Work} : s.tasks = w :: tasks →
    Step plan s (State.work { s with tasks := tasks } w)

theorem step_of_act {a : Actor} (hact : s.act plan a = some s') : s.Step plan s' := by
  rw [act, Option.ite_none_right_eq_some] at hact
  obtain ⟨henabled, hresult⟩ := hact
  obtain rfl := Option.some.inj hresult
  cases a with
  | interpreter =>
    cases htasks : s.tasks with
    | nil => simp [enabled, htasks] at henabled
    | cons w tasks =>
      rw [perform, htasks]
      exact .work htasks
  | producer p =>
    cases hg : s.progress[p]? with
    | none => simp [enabled, hg] at henabled
    | some g =>
      rw [perform, called_eq hg]
      simp only [enabled, hg, Bool.and_eq_true, Bool.not_eq_true', Bool.and_eq_false_imp,
        decide_eq_true_eq, decide_eq_false_iff_not] at henabled
      split_ifs with hlt
      · exact .call hg henabled.1 hlt (henabled.2 hlt)
      · exact .release hg henabled.1 (not_lt.1 hlt)

/-- Every operation keeps the invariant. -/
theorem Consistent.step (h : s.Consistent plan) (hfits : plan.Fits) (hstep : s.Step plan s') :
    s'.Consistent plan := by
  cases hstep with
  | call hg hholds hlt hspace =>
    exact ⟨h.paced_call hg hholds hlt hspace, h.ordered_call hfits hg hholds hlt hspace,
      h.counted_call hg hholds hspace, h.phase_call hg hholds hspace⟩
  | release hg hholds hdone => exact h.release hg hholds (le_antisymm (h.paced.called_le _ _ hg) hdone)
  | @work w tasks htasks =>
    cases w with
    | drain => exact h.workDrain hfits htasks
    | teardown => exact h.workTeardown htasks

/-- Every interleaving keeps the invariant. -/
theorem Reachable.consistent (h : Reachable plan s) (hfits : plan.Fits) : s.Consistent plan := by
  induction h with
  | start => exact .start hfits
  | act a _ hact ih => exact ih.step hfits (step_of_act hact)

end State

end AddonHost.Stress
