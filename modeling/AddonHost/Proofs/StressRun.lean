import AddonHost.Stress
import AddonHost.Proofs.Stress.Consistent

/-!
The stress run succeeds, whoever acts when.

A run has finished when every producer has returned and the finalizer was called (`State.Finished`).
`Reachable.stressResults` says of every interleaving that every queued item decodes to the producer
and the number that it was sent with, that the finalizer is only called when everything was
delivered, and that a run that finishes has the results that it reports as a success.

Nothing keeps a run from finishing: someone can act until it has (`Reachable.exists_enabled`), and a
run has finished exactly when it has made all of its operations (`Consistent.finished_iff`).  So the
run in which the interpreter thread acts whenever it can succeeds (`run_succeeded`), and with it the
report (`report_exit`).
-/

namespace AddonHost.Stress

variable {plan : Plan} {p : ℕ}

namespace State

variable {s s' : State} {g : Progress}

/-- Every producer has returned, and the finalizer was called. -/
structure Finished (s : State) : Prop where
  released : ∀ g ∈ s.progress.toList, g.released = true
  finalized : 0 < s.finalizerRuns

/-- The results of a success; one more task is the barrier behind which all is done. -/
structure Results (plan : Plan) (s : State) : Prop where
  called (p : ℕ) : p < plan.producers → s.called p = plan.items
  failedCalls : s.failedCalls = 0
  delivered : s.delivered = plan.producers * plan.items
  outOfOrder : s.outOfOrder = 0
  finalizerRuns : s.finalizerRuns = 1
  tasksRun : s.tasksRun + 1 = plan.producers * plan.items + 2

/-! ### Results -/

theorem holders_eq_zero_iff : s.holders = 0 ↔ ∀ g ∈ s.progress.toList, g.released = true := by
  simp [holders]

/-- Producers that have released the function have made all of their calls. -/
theorem Paced.calls_eq (h : s.Paced plan) (hreleased : s.holders = 0) :
    s.calls = plan.producers * plan.items := by
  have hall : s.progress.toList.map Progress.called = List.replicate plan.producers plan.items := by
    refine List.eq_replicate_iff.2 ⟨by simp [h.size], ?_⟩
    simp only [List.forall_mem_map]
    intro g hg
    obtain ⟨p, hp⟩ := List.mem_iff_getElem?.1 hg
    exact h.called_eq p g (by simpa using hp) (holders_eq_zero_iff.1 hreleased g hg)
  rw [calls, hall, List.sum_replicate, smul_eq_mul]

/-- When the finalizer was called, everything was delivered. -/
theorem Consistent.delivered_of_finalized (h : s.Consistent plan) (hruns : 0 < s.finalizerRuns) :
    s.finalizerRuns = 1 ∧ s.delivered = plan.producers * plan.items ∧
      s.tasksRun = s.delivered + 1 := by
  cases h.phase with
  | running hopen =>
    have := hopen.finalizerRuns
    omega
  | closing _ _ hnone => omega
  | ended hclosed _ hone hran =>
    have hdelivered := h.counted.delivered
    rw [hclosed.queue, h.paced.calls_eq hclosed.holders] at hdelivered
    exact ⟨hone, hdelivered, hran⟩

/-- A run that has finished succeeds. -/
theorem Consistent.results (h : s.Consistent plan) (hfinished : s.Finished) :
    s.Results plan ∧ s.succeeded (plan.producers * plan.items) = true := by
  obtain ⟨hruns, hdelivered, hran⟩ := h.delivered_of_finalized hfinished.finalized
  refine ⟨⟨fun p hp => ?_, h.counted.failedCalls, hdelivered, h.counted.outOfOrder, hruns, ?_⟩, ?_⟩
  · have hp' : p < s.progress.size := h.paced.size ▸ hp
    have hg : s.progress[p]? = some s.progress[p] := Array.getElem?_eq_getElem hp'
    rw [called_eq hg]
    exact h.paced.called_eq p _ hg (hfinished.released _ (by simp))
  · omega
  · simp [succeeded, hdelivered, h.counted.failedCalls, h.counted.outOfOrder, hruns]

/-- The run of some actors, one after the other, if each can act. -/
def actAll? (plan : Plan) (s : State) : List Actor → Option State
  | [] => some s
  | a :: rest => (s.act plan a).bind fun s' => s'.actAll? plan rest

theorem Reachable.actAll? {actors : List Actor} (h : Reachable plan s)
    (hs : s.actAll? plan actors = some s') : Reachable plan s' := by
  induction actors generalizing s with
  | nil =>
    obtain rfl := Option.some.inj hs
    exact h
  | cons a rest ih =>
    obtain ⟨u, hu, hs⟩ := Option.bind_eq_some_iff.1 hs
    exact ih (h.act a hu) hs

/-- How many operations were made: calls, deliveries, releases and teardowns. -/
def performed (s : State) : ℕ :=
  s.calls + s.delivered + (s.progress.toList.countP Progress.released) + s.finalizerRuns

@[simp] theorem performed_close (s : State) : s.close.performed = s.performed := by
  unfold close
  split_ifs <;> rfl

theorem performed_start (plan : Plan) : (start plan).performed = 0 := by
  simp [performed, start, calls, List.countP_replicate]

/-- Every operation is one more. -/
theorem Consistent.performed_step (h : s.Consistent plan) (hstep : s.Step plan s') :
    s'.performed = s.performed + 1 := by
  cases hstep with
  | @call p g hg hholds hlt hspace =>
    obtain ⟨before, after, hlist, hmodify⟩ := exists_progress hg
    rw [h.call_eq hg hholds hspace]
    simp only [performed, calls, hmodify, hlist, List.map_append, List.map_cons, List.sum_append,
      List.sum_cons, List.countP_append, List.countP_cons]
    omega
  | @release p g hg hholds hdone =>
    obtain ⟨before, after, hlist, hmodify⟩ := exists_progress hg
    have hreleased (fn : ThreadsafeFunction) :
        performed { s with
          function := fn
          progress := s.progress.modify p fun g => { g with released := true } }
          = s.performed + 1 := by
      simp only [performed, calls, hmodify, hlist, List.map_append, List.map_cons, List.sum_append,
        List.sum_cons, List.countP_append, List.countP_cons, hholds, if_true, Bool.false_eq_true,
        if_false]
      omega
    simp only [State.release, (h.phase.isOpen hg hholds).closing, Bool.false_eq_true, if_false]
    split_ifs
    · rw [performed_close, hreleased]
    · rw [hreleased]
  | @work w tasks htasks =>
    cases w with
    | teardown => rfl
    | drain =>
      obtain ⟨item, rest, hqueue⟩ := h.exists_queue htasks
      obtain ⟨fn, hpop, haborted⟩ : ∃ fn, s.function.pop = (some item, fn) ∧ fn.aborted = false := by
        unfold ThreadsafeFunction.pop
        rw [hqueue]
        exact ⟨_, rfl, h.counted.aborted⟩
      have hdelivered (u : State) : (u.deliver item).performed = u.performed + 1 := by
        unfold deliver
        simp only [performed, calls]
        split_ifs
        · omega
        · dsimp only
          omega
      have hran (u : State) (n : ℕ) : ({ u with tasksRun := n } : State).performed = u.performed :=
        rfl
      simp only [State.work, State.drain, hpop, haborted, Bool.false_eq_true, if_false, hran]
      split_ifs
      · rw [performed_close, hdelivered]
        rfl
      · rw [hdelivered]
        rfl

theorem Paced.countP_released (h : s.Paced plan) :
    s.progress.toList.countP Progress.released + s.holders = plan.producers := by
  have hlength := List.length_eq_countP_add_countP Progress.released (l := s.progress.toList)
  rw [Array.length_toList, h.size] at hlength
  rw [holders, hlength]
  congr 2
  funext g
  cases g.released <;> rfl

theorem Paced.calls_le (h : s.Paced plan) : s.calls ≤ plan.producers * plan.items := by
  have hle : ∀ n ∈ s.progress.toList.map Progress.called, n ≤ plan.items := by
    simp only [List.forall_mem_map]
    intro g hg
    obtain ⟨p, hp⟩ := List.mem_iff_getElem?.1 hg
    exact h.called_le p g (by simpa using hp)
  have hsum := List.sum_le_card_nsmul _ _ hle
  rwa [List.length_map, Array.length_toList, h.size, smul_eq_mul] at hsum

/-- A run has finished exactly when it has made all of its operations. -/
theorem Consistent.finished_iff (h : s.Consistent plan) :
    s.Finished ↔ s.performed = operationCount plan := by
  have hreleased := h.paced.countP_released
  have hcalls := h.paced.calls_le
  have hdelivered := h.counted.delivered
  rw [performed, operationCount, Nat.mul_assoc]
  constructor
  · rintro ⟨hall, hruns⟩
    have hholders := holders_eq_zero_iff.2 hall
    have hmade := h.paced.calls_eq hholders
    obtain ⟨hone, hdone, -⟩ := h.delivered_of_finalized hruns
    omega
  · intro hall
    cases h.phase with
    | running hopen =>
      have := hopen.finalizerRuns
      omega
    | closing hclosed htasks hruns => omega
    | ended hclosed htasks hruns =>
      exact ⟨holders_eq_zero_iff.1 hclosed.holders, by omega⟩

theorem Consistent.performed_le (h : s.Consistent plan) : s.performed ≤ operationCount plan := by
  have hreleased := h.paced.countP_released
  have hcalls := h.paced.calls_le
  have hdelivered := h.counted.delivered
  rw [performed, operationCount, Nat.mul_assoc]
  cases h.phase with
  | running hopen =>
    have := hopen.finalizerRuns
    omega
  | closing hclosed htasks hruns => omega
  | ended hclosed htasks hruns => omega

/-- A producer that has yet to release the function can act, when nothing is queued. -/
theorem Consistent.enabled_producer (h : s.Consistent plan) (hidle : s.tasks = [])
    (hg : s.progress[p]? = some g) (hholds : g.released = false) :
    s.enabled plan (.producer p) = true := by
  have hopen := h.phase.isOpen hg hholds
  have hqueue : s.function.queue = [] := by
    have := hopen.tasks
    rw [hidle, eq_comm, List.replicate_eq_nil_iff] at this
    exact List.length_eq_zero_iff.1 this
  have hspace : s.function.isFull = false := by
    simp [ThreadsafeFunction.isFull, hqueue, ← UInt64.toNat_inj]
  have hadmission : s.function.admission .blocking ≠ .wait := by
    simp [ThreadsafeFunction.admission, h.counted.aborted, hopen.closing, hspace]
  simp [enabled, hg, hholds, hadmission]

/-- While nothing is queued and the run has not finished, a producer has yet to release the
function. -/
theorem Consistent.exists_holder (h : s.Consistent plan) (hidle : s.tasks = [])
    (hleft : ¬s.Finished) :
    ∃ (p : ℕ) (g : Progress), s.progress[p]? = some g ∧ g.released = false := by
  have hholders : s.holders ≠ 0 := by
    cases h.phase with
    | running hopen hleft =>
      refine hleft.resolve_right fun hqueue => hqueue ?_
      have := hopen.tasks
      rw [hidle, eq_comm, List.replicate_eq_nil_iff] at this
      exact List.length_eq_zero_iff.1 this
    | closing hclosed htasks => simp [hidle] at htasks
    | ended hclosed htasks hruns =>
      exact absurd ⟨holders_eq_zero_iff.1 hclosed.holders, by omega⟩ hleft
  rw [Ne, holders_eq_zero_iff] at hholders
  push Not at hholders
  obtain ⟨g, hg, hholds⟩ := hholders
  obtain ⟨p, hp⟩ := List.mem_iff_getElem?.1 hg
  exact ⟨p, g, by simpa using hp, by simpa using hholds⟩

/-- Until a run has finished, someone can act. -/
theorem Reachable.exists_enabled (h : Reachable plan s) (hfits : plan.Fits) (hleft : ¬s.Finished) :
    ∃ a, (s.act plan a).isSome = true := by
  have hs := h.consistent hfits
  by_cases hidle : s.tasks = []
  · obtain ⟨p, g, hg, hholds⟩ := hs.exists_holder hidle hleft
    exact ⟨.producer p, by simp [State.act, hs.enabled_producer hidle hg hholds]⟩
  · exact ⟨.interpreter, by simp [State.act, enabled, hidle]⟩

/-! ### The run in which the interpreter thread acts whenever it can -/

/-- Those before a producer have released the function, and those after it have not. -/
structure UpTo (s : State) (p : ℕ) : Prop where
  before (q : ℕ) (g : Progress) : q < p → s.progress[q]? = some g → g.released = true
  after (q : ℕ) (g : Progress) : p < q → s.progress[q]? = some g → g.released = false

@[simp] theorem progress_close (s : State) : s.close.progress = s.progress := by
  unfold close
  split_ifs <;> rfl

theorem progress_deliver (s : State) (item : Word) : (s.deliver item).progress = s.progress := by
  simp only [deliver]
  split_ifs <;> rfl

theorem progress_work (s : State) (w : Work) : (s.work w).progress = s.progress := by
  cases w with
  | teardown => rfl
  | drain =>
    simp only [work, drain]
    rcases s.function.pop.1 with _ | item <;> split_ifs <;> simp [progress_deliver]

/-- An operation changes the progress of the producer that acts, if any. -/
theorem progress_perform {a : Actor} {q : ℕ} (hne : a ≠ .producer q) (s : State) :
    (s.perform plan a).progress[q]? = s.progress[q]? := by
  cases a with
  | interpreter =>
    simp only [perform]
    split
    · rfl
    · rw [progress_work]
  | producer p =>
    have hpq : p ≠ q := fun h => hne (by rw [h])
    have hkept (f : Progress → Progress) : (s.progress.modify p f)[q]? = s.progress[q]? := by
      rw [Array.getElem?_modify, if_neg hpq]
    simp only [perform, call, release]
    split_ifs
    · split <;> first | rfl | exact hkept _
    all_goals simp [hkept]

/-- The one who acts next can act, and the producers have come so far. -/
theorem exists_turn (h : s.Consistent plan) (hup : s.UpTo p) (hleft : ¬s.Finished) :
    ∃ a p', s.turn? plan p = some (a, p') ∧ s.enabled plan a = true ∧
      (s.perform plan a).UpTo p' := by
  have hkeeps {a : Actor} {p' : ℕ} (hup' : s.UpTo p') (hother : ∀ q, q ≠ p' → a ≠ .producer q) :
      (s.perform plan a).UpTo p' := by
    refine ⟨fun q g hq hg => ?_, fun q g hq hg => ?_⟩
    · rw [progress_perform (hother q hq.ne)] at hg
      exact hup'.before q g hq hg
    · rw [progress_perform (hother q hq.ne')] at hg
      exact hup'.after q g hq hg
  by_cases hinterpreter : s.enabled plan .interpreter = true
  · exact ⟨.interpreter, p, by simp [turn?, hinterpreter], hinterpreter,
      hkeeps hup fun q _ => by simp⟩
  have hidle : s.tasks = [] := by simpa [enabled] using hinterpreter
  by_cases hproducer : s.enabled plan (.producer p) = true
  · exact ⟨.producer p, p, by simp [turn?, hinterpreter, hproducer], hproducer,
      hkeeps hup fun q hq => by simpa using hq.symm⟩
  -- this producer has released the function, so someone after it holds it
  have hdone (g : Progress) (hg : s.progress[p]? = some g) : g.released = true := by
    by_contra hholds
    exact hproducer (h.enabled_producer hidle hg (by simpa using hholds))
  obtain ⟨q, g, hg, hholds⟩ := h.exists_holder hidle hleft
  have hpq : p < q := by
    by_contra hle
    rcases lt_or_eq_of_le (not_lt.1 hle) with hlt | rfl
    · simp [hup.before q g hlt hg] at hholds
    · simp [hdone g hg] at hholds
  have hnext : p + 1 < s.progress.size := by
    have := (Array.getElem?_eq_some_iff.1 hg).1
    omega
  have hg' : s.progress[p + 1]? = some s.progress[p + 1] := Array.getElem?_eq_getElem hnext
  have henabled := h.enabled_producer hidle hg' (hup.after _ _ (Nat.lt_succ_self p) hg')
  have hup' : s.UpTo (p + 1) := by
    refine ⟨fun q g hq hg => ?_, fun q g hq hg => hup.after q g (by omega) hg⟩
    rcases Nat.lt_succ_iff_lt_or_eq.1 hq with hlt | rfl
    · exact hup.before q g hlt hg
    · exact hdone g hg
  exact ⟨.producer (p + 1), p + 1, by simp [turn?, hinterpreter, hproducer, henabled], henabled,
    hkeeps hup' fun q hq => by simpa using hq.symm⟩

/-- A run that is given all operations that it has yet to make finishes. -/
theorem Reachable.advance (hfits : plan.Fits) (h : Reachable plan s) (hup : s.UpTo p) {n : ℕ}
    (hn : s.performed + n = operationCount plan) :
    Reachable plan (s.advance plan p n) ∧ (s.advance plan p n).Finished := by
  induction n generalizing s p with
  | zero => exact ⟨h, (h.consistent hfits).finished_iff.2 hn⟩
  | succ n ih =>
    have hs := h.consistent hfits
    have hleft : ¬s.Finished := by
      rw [hs.finished_iff]
      omega
    obtain ⟨a, p', hturn, henabled, hup'⟩ := exists_turn hs hup hleft
    have hact : s.act plan a = some (s.perform plan a) := by rw [State.act, if_pos henabled]
    have hmore := hs.performed_step (step_of_act hact)
    rw [State.advance, hturn]
    exact ih (h.act a hact) hup' (by omega)

/-- The run in which the interpreter thread acts whenever it can finishes, and so it succeeds. -/
theorem run_succeeded (hfits : plan.Fits) :
    (run plan).Results plan ∧ (run plan).succeeded (plan.producers * plan.items) = true := by
  have hup : (start plan).UpTo 0 := by
    refine ⟨fun q g hq => absurd hq (Nat.not_lt_zero q), fun q g _ hg => ?_⟩
    obtain ⟨-, rfl⟩ := Array.getElem?_eq_some_iff.1 hg
    simp [start]
  obtain ⟨hreachable, hfinished⟩ :=
    Reachable.start.advance hfits hup (by rw [performed_start, Nat.zero_add])
  exact (hreachable.consistent hfits).results hfinished

end State

/-- When a plan fits, what arguments ask for ends with a success. -/
theorem report_exit {args : List String} (hfits : (planOf args).Fits) :
    (report args).exit = .code 0 := by
  have hfew := hfits.producers
  have htotal := hfits.total
  have hmemory : InvokerConfig.systemMemory.toNat = 2 ^ 35 := rfl
  have hsize : UInt64.size = 2 ^ 64 := rfl
  have hplan : (planOf args).failure? = none := by
    rw [Plan.failure?, hmemory, hsize, mostProducers, if_neg (by omega), if_neg (by omega),
      if_neg (by omega)]
  simp only [report, if_neg (not_le.2 htotal), hplan, (State.run_succeeded hfits).2, if_true]

end AddonHost.Stress
