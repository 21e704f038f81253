import AddonHost.Proofs.Invoker.Ledger

/-!
Who waits for what.

A task that someone waits for has a completion of its own, and the completion is signalled exactly
when the task is over: it has returned or failed, or was dropped.  So whoever goes on because of a
signal has waited for this very task (`Service.Completions`, `Run.completions`).
-/

namespace AddonHost

/-- Whether a queued task is over. -/
def Event.IsOver (i : InvokerId) (sub : Submission) (es : List Event) : Prop :=
  .ended i sub ∈ es ∨ .failed i sub ∈ es ∨ .discarded i sub ∈ es

namespace Service

open Event

variable {unfailing : Prop} {i j : InvokerId} {t : ThreadId} {l l' : Service}
  {duties : ThreadId → List Duty} {ds ds' : List Duty} {r r' : InterpreterThread}
  {sub sub' : Submission} {c : ℕ}

/-- The tasks in the queue of an invoker. -/
def pendingOn (l : Service) (i : InvokerId) : List Submission :=
  ((l.cores i).map fun core => core.queue.pending).getD []

/-- What is known of completions. -/
structure Completions (l : Service) (duties : ThreadId → List Duty) : Prop where
  fresh {i : InvokerId} {sub : Submission} {c : ℕ} :
    .queued i sub ∈ l.told → sub.completion = some c → c < l.completions
  unique {i j : InvokerId} {sub sub' : Submission} {c : ℕ} :
    .queued i sub ∈ l.told → .queued j sub' ∈ l.told →
      sub.completion = some c → sub'.completion = some c → i = j ∧ sub = sub'
  exists_over {c : ℕ} : c ∈ l.signalled → ∃ i sub, sub.completion = some c ∧ IsOver i sub l.told
  signalled {i : InvokerId} {sub : Submission} {c : ℕ} :
    IsOver i sub l.told → sub.completion = some c → c ∈ l.signalled
  wasQueued {i : InvokerId} {sub : Submission} : IsOver i sub l.told → .queued i sub ∈ l.told
  pending {i : InvokerId} {sub : Submission} : sub ∈ l.pendingOn i → .queued i sub ∈ l.told
  running {t : ThreadId} {i : InvokerId} {sub : Submission} :
    .running i sub ∈ duties t → .queued i sub ∈ l.told
  awaiting {t : ThreadId} {i : InvokerId} {c : ℕ} : .awaiting i c ∈ duties t →
    ∃ sub, .queued i sub ∈ l.told ∧ sub.completion = some c

theorem mem_update {d : Duty} {u : ThreadId} (h : d ∈ Function.update duties t ds u) :
    d ∈ ds ∨ d ∈ duties u := by
  by_cases hu : u = t
  · subst hu
    exact .inl (by simpa using h)
  · exact .inr (by simpa [hu] using h)

/-- A step that neither queues a task nor ends one. -/
theorem Completions.keep (h : Completions l duties)
    (hqueued : ∀ i sub, .queued i sub ∈ l'.told ↔ .queued i sub ∈ l.told)
    (hover : ∀ i sub, IsOver i sub l'.told ↔ IsOver i sub l.told)
    (hsignalled : l'.signalled = l.signalled) (hcompletions : l'.completions = l.completions)
    (hpending : ∀ i, l'.pendingOn i ⊆ l.pendingOn i)
    (hrunning : ∀ i sub, .running i sub ∈ ds →
      .running i sub ∈ duties t ∨ .queued i sub ∈ l.told)
    (hawaiting : ∀ i c, .awaiting i c ∈ ds → .awaiting i c ∈ duties t) :
    Completions l' (Function.update duties t ds) where
  fresh hq hc := by
    rw [hcompletions]
    exact h.fresh ((hqueued ..).1 hq) hc
  unique hq hq' := h.unique ((hqueued ..).1 hq) ((hqueued ..).1 hq')
  exists_over hc := by
    obtain ⟨i, sub, hsub, ho⟩ := h.exists_over (hsignalled ▸ hc)
    exact ⟨i, sub, hsub, (hover ..).2 ho⟩
  signalled ho hc := by
    rw [hsignalled]
    exact h.signalled ((hover ..).1 ho) hc
  wasQueued ho := (hqueued ..).2 (h.wasQueued ((hover ..).1 ho))
  pending hmem := (hqueued ..).2 (h.pending (hpending _ hmem))
  running hmem := (hqueued ..).2 <|
    (mem_update hmem).elim (fun hmem => (hrunning _ _ hmem).elim h.running id) h.running
  awaiting hmem := by
    obtain ⟨sub, hq, hc⟩ := (mem_update hmem).elim (fun hmem => h.awaiting (hawaiting _ _ hmem))
      h.awaiting
    exact ⟨sub, (hqueued ..).2 hq, hc⟩

/-- A step that tells nothing. -/
theorem Completions.keep_told (h : Completions l duties) (htold : l'.told = l.told)
    (hsignalled : l'.signalled = l.signalled) (hcompletions : l'.completions = l.completions)
    (hpending : ∀ i, l'.pendingOn i ⊆ l.pendingOn i)
    (hrunning : ∀ i sub, .running i sub ∈ ds → .running i sub ∈ duties t)
    (hawaiting : ∀ i c, .awaiting i c ∈ ds → .awaiting i c ∈ duties t) :
    Completions l' (Function.update duties t ds) :=
  h.keep (by simp [htold]) (by simp [htold]) hsignalled hcompletions hpending
    (fun i sub hmem => .inl (hrunning i sub hmem)) hawaiting

/-- A queued task is over, and its completion is signalled. -/
theorem Completions.settle (h : Completions l duties) {e : Event}
    (he : e = .ended i sub ∨ e = .failed i sub ∨ e = .discarded i sub)
    (hq : .queued i sub ∈ l.told) :
    Completions ((l.tell [e]).signal sub.completion) duties := by
  have hqueued (j : InvokerId) (sub' : Submission) :
      .queued j sub' ∈ l.told ++ [e] ↔ .queued j sub' ∈ l.told := by
    rcases he with rfl | rfl | rfl <;> simp
  have hover (j : InvokerId) (sub' : Submission) :
      IsOver j sub' (l.told ++ [e]) ↔ IsOver j sub' l.told ∨ j = i ∧ sub' = sub := by
    rcases he with rfl | rfl | rfl <;> simp only [IsOver, List.mem_append, List.mem_singleton] <;>
      grind
  refine ⟨fun hq' => h.fresh ((hqueued ..).1 hq'), fun hq' hq'' =>
    h.unique ((hqueued ..).1 hq') ((hqueued ..).1 hq''), fun {c} hc => ?_, fun {j sub' c} ho hc => ?_,
    fun ho => ?_, fun hmem => (hqueued ..).2 (h.pending hmem), fun hmem =>
    (hqueued ..).2 (h.running hmem), fun hmem => ?_⟩
  · rcases hc with hc | hc
    · obtain ⟨j, sub', hsub, ho⟩ := h.exists_over hc
      exact ⟨j, sub', hsub, (hover ..).2 (.inl ho)⟩
    · exact ⟨i, sub, hc, (hover ..).2 (.inr ⟨rfl, rfl⟩)⟩
  · rcases (hover ..).1 ho with ho | ⟨-, rfl⟩
    · exact .inl (h.signalled ho hc)
    · exact .inr hc
  · rcases (hover ..).1 ho with ho | ⟨rfl, rfl⟩
    · exact (hqueued ..).2 (h.wasQueued ho)
    · exact (hqueued ..).2 hq
  · obtain ⟨sub', hq', hc⟩ := h.awaiting hmem
    exact ⟨sub', (hqueued ..).2 hq', hc⟩

/-- A task is queued, perhaps with a completion that was never used. -/
theorem Completions.enqueue (h : Completions l duties) {core core' : InvokerCore}
    (hi : l.cores i = some core) (hcore : core'.queue = core.queue) (task : Task)
    {completion : Option ℕ} {n : ℕ} (hn : l.completions ≤ n)
    (hc : ∀ c, completion = some c → c = l.completions ∧ c < n) (hds : ∀ d ∈ ds, d ∈ duties t ∨
      ∃ c, d = .awaiting i c ∧ completion = some c) :
    Completions ({ l with completions := n }.enqueue i core' task completion)
      (Function.update duties t ds) := by
  obtain ⟨sub, hsub⟩ : ∃ sub, sub = core'.queue.submission task completion := ⟨_, rfl⟩
  have hcompletion : sub.completion = completion := by rw [hsub]; rfl
  have htold : ({ l with completions := n }.enqueue i core' task completion).told
      = l.told ++ [.queued i sub] := by rw [hsub]; rfl
  have hqueued (j : InvokerId) (sub' : Submission) :
      .queued j sub' ∈ l.told ++ [.queued i sub] ↔ .queued j sub' ∈ l.told ∨ j = i ∧ sub' = sub := by
    simp
  have hover (j : InvokerId) (sub' : Submission) :
      IsOver j sub' (l.told ++ [.queued i sub]) ↔ IsOver j sub' l.told := by
    simp [IsOver]
  have hpending (j : InvokerId) (sub' : Submission)
      (hmem : sub' ∈ ({ l with completions := n }.enqueue i core' task completion).pendingOn j) :
      sub' ∈ l.pendingOn j ∨ j = i ∧ sub' = sub := by
    by_cases hj : j = i
    · subst hj
      simpa [pendingOn, Service.enqueue, hi, hcore, hsub] using hmem
    · exact .inl (by simpa [pendingOn, Service.enqueue, hj] using hmem)
  refine ⟨fun hq hsome => ?_, fun hq hq' hsome hsome' => ?_, fun hsome => ?_, fun ho hsome => ?_,
    fun ho => ?_, fun hmem => ?_, fun hmem => ?_, fun hmem => ?_⟩ <;>
    simp only [htold, hqueued, hover] at *
  · rcases hq with hq | ⟨-, rfl⟩
    · exact (h.fresh hq hsome).trans_le hn
    · exact (hc _ (hcompletion.symm.trans hsome)).2
  · -- an older task has an older completion
    have hold {j : InvokerId} {old : Submission} {c : ℕ} (hq : .queued j old ∈ l.told)
        (hold : old.completion = some c) (hnew : sub.completion = some c) : False := by
      have hfresh := h.fresh hq hold
      rw [(hc c (hcompletion.symm.trans hnew)).1] at hfresh
      exact lt_irrefl _ hfresh
    rcases hq with hq | ⟨rfl, rfl⟩ <;> rcases hq' with hq' | ⟨rfl, rfl⟩
    · exact h.unique hq hq' hsome hsome'
    · exact (hold hq hsome hsome').elim
    · exact (hold hq' hsome' hsome).elim
    · exact ⟨rfl, rfl⟩
  · exact h.exists_over hsome
  · exact h.signalled ho hsome
  · exact .inl (h.wasQueued ho)
  · exact (hpending _ _ hmem).imp_left h.pending
  · rcases mem_update hmem with hmem | hmem
    · rcases hds _ hmem with hmem | ⟨c, hd, -⟩
      · exact .inl (h.running hmem)
      · simp at hd
    · exact .inl (h.running hmem)
  · rename_i u j c
    have hawaiting : .awaiting j c ∈ duties t ∨ .awaiting j c ∈ duties u →
        ∃ sub', (.queued j sub' ∈ l.told ∨ j = i ∧ sub' = sub) ∧ sub'.completion = some c := by
      rintro (hmem | hmem) <;> obtain ⟨sub', hq, hsub'⟩ := h.awaiting hmem <;>
        exact ⟨sub', .inl hq, hsub'⟩
    rcases mem_update hmem with hmem | hmem
    · rcases hds _ hmem with hmem | ⟨c', hd, hc'⟩
      · exact hawaiting (.inl hmem)
      · obtain ⟨rfl, rfl⟩ := Duty.awaiting.inj hd
        exact ⟨sub, .inr ⟨rfl, rfl⟩, hcompletion.trans hc'⟩
    · exact hawaiting (.inr hmem)

/-- Taking a task off a queue leaves fewer behind. -/
theorem pendingOn_dequeue {core : InvokerCore} (hi : l.cores i = some core)
    {rest : List Submission} (hq : core.queue.pending = sub :: rest) (core' : InvokerCore)
    (j : InvokerId) : (l.dequeue i core' rest).pendingOn j ⊆ l.pendingOn j := by
  by_cases hj : j = i
  · subst hj
    simp [pendingOn, dequeue, hi, hq]
  · simp [pendingOn, dequeue, hj]

theorem pendingOn_modify {f : InvokerCore → InvokerCore} (hf : ∀ core, (f core).queue = core.queue)
    (j : InvokerId) : (l.modify i f).pendingOn j ⊆ l.pendingOn j := by
  by_cases hj : j = i
  · subst hj
    cases hcore : l.cores j <;> simp [pendingOn, hcore, hf]
  · simp [pendingOn, hj]

theorem pendingOn_set {core core' : InvokerCore} (hi : l.cores i = some core)
    (hcore : core'.queue = core.queue) (j : InvokerId) :
    (l.set i core').pendingOn j ⊆ l.pendingOn j := by
  by_cases hj : j = i
  · subst hj
    simp [pendingOn, hi, hcore]
  · simp [pendingOn, hj]

/-- The task at the head of a queue was queued. -/
theorem Completions.queued_head (h : Completions l duties) {core : InvokerCore}
    {rest : List Submission} (hi : l.cores i = some core) (hq : core.queue.pending = sub :: rest) :
    .queued i sub ∈ l.told :=
  h.pending (by simp [pendingOn, hi, hq])

/-- A task is taken off a queue and run. -/
theorem Completions.start (h : Completions l duties) {core : InvokerCore} {rest : List Submission}
    (base : Duty) (hi : l.cores i = some core) (hq : core.queue.pending = sub :: rest)
    (hbase : ∀ d ∈ ds, d ∈ duties t ∨ d = base) (hloop : base = .looped i ∨ base = .pumping i) :
    Completions ((l.dequeue i core rest).tell [.started i sub])
      (Function.update duties t (.running i sub :: ds)) := by
  refine h.keep (by simp [dequeue]) (by simp [dequeue, IsOver]) rfl rfl (pendingOn_dequeue hi hq _)
    (fun j sub' hmem => ?_) fun j c hmem => ?_
  · rcases List.mem_cons.1 hmem with heq | hmem
    · obtain ⟨rfl, rfl⟩ := Duty.running.inj heq
      exact .inr (h.queued_head hi hq)
    · rcases hbase _ hmem with hmem | rfl
      · exact .inl hmem
      · simp at hloop
  · rcases List.mem_cons.1 hmem with heq | hmem
    · simp at heq
    · rcases hbase _ hmem with hmem | rfl
      · exact hmem
      · simp at hloop

/-- The task at the head of a queue is dropped. -/
theorem Completions.drop (h : Completions l duties) {core core' : InvokerCore}
    {rest : List Submission} (hi : l.cores i = some core) (hq : core.queue.pending = sub :: rest) :
    Completions (((l.dequeue i core' rest).tell [.discarded i sub]).signal sub.completion)
      (Function.update duties t (duties t)) := by
  have hrest : Completions (l.dequeue i core' rest) (Function.update duties t (duties t)) :=
    h.keep_told rfl rfl rfl (pendingOn_dequeue hi hq _) (fun _ _ => id) fun _ _ => id
  exact hrest.settle (.inr (.inr rfl)) (h.queued_head hi hq)

theorem Completions.step (h : Completions l duties)
    (hs : Step unfailing t i (l, duties t) (l', ds)) :
    Completions l' (Function.update duties t ds) := by
  generalize hds : duties t = ds₀ at hs
  -- whoever gives up a duty keeps those below
  have hbelow {d : Duty} {below : List Duty} (hd : ds₀ = d :: below) :
      ∀ d' ∈ below, d' ∈ duties t := by
    rw [hds, hd]
    exact fun d' => List.mem_cons_of_mem d
  cases hs with
  | create hi hm =>
    refine h.keep_told rfl rfl rfl (fun j => ?_) (by simp [hds]) (by simp [hds])
    by_cases hj : j = i
    · subst hj
      simp [pendingOn, InvokerCore.queue, hm]
    · simp [pendingOn, hj]
  | count hf =>
    exact h.keep_told rfl rfl rfl (pendingOn_modify fun core => core.queue_mapManual hf)
      (by simp [hds]) (by simp [hds])
  | stop =>
    exact h.keep_told rfl rfl rfl (pendingOn_modify fun core => core.queue_mapThread fun _ => rfl)
      (by simp [hds]) (by simp [hds])
  | looped =>
    exact h.keep_told rfl rfl rfl (pendingOn_modify fun core => core.queue_mapThread fun _ => rfl)
      (by simp [hds]) (by simp [hds])
  | loopFailed =>
    exact h.keep_told rfl rfl rfl (pendingOn_modify fun core => core.queue_mapThread fun _ => rfl)
      (fun _ _ => hbelow rfl _) fun _ _ => hbelow rfl _
  | accept task hi hopen =>
    exact h.enqueue hi rfl task le_rfl (by simp) (by simp [hds])
  | await task hi hopen =>
    refine h.enqueue hi (InvokerCore.queue_countSync _) task (Nat.le_succ _) (by simp) ?_
    simp only [List.mem_cons, hds, Option.some.injEq]
    grind
  | inline hi =>
    exact h.keep_told rfl rfl rfl (pendingOn_set hi (InvokerCore.queue_countSync _)) (by simp [hds])
      (by simp [hds])
  | ranInline =>
    exact h.keep (by simp) (by simp [IsOver]) rfl rfl (fun j => List.Subset.refl _)
      (fun _ _ hmem => .inl (hbelow rfl _ hmem)) fun _ _ => hbelow rfl _
  | failedInline | goOn | awaitedEnd | report | endPump =>
    exact h.keep_told rfl rfl rfl (fun j => List.Subset.refl _) (fun _ _ => hbelow rfl _)
      fun _ _ => hbelow rfl _
  | beginPump =>
    exact h.keep_told rfl rfl rfl (fun j => List.Subset.refl _) (by simp [hds]) (by simp [hds])
  | start hi hopen hq =>
    refine h.start (.looped i) hi hq ?_ (.inl rfl)
    grind
  | pump hi hq =>
    refine h.start (.pumping i) hi hq ?_ (.inr rfl)
    grind
  | ended sub | failed sub =>
    have hq : .queued i sub ∈ l.told := h.running (t := t) (by simp [hds])
    have hrest : Completions l (Function.update duties t ds) :=
      h.keep_told rfl rfl rfl (fun j => List.Subset.refl _) (fun _ _ => hbelow rfl _)
        fun _ _ => hbelow rfl _
    exact hrest.settle (by simp) hq
  | drop hi hstop hq | discard hi hq =>
    rw [← hds]
    exact h.drop hi hq
  | exit hi =>
    exact h.keep_told rfl rfl rfl (pendingOn_set hi rfl) (fun _ _ => hbelow rfl _)
      fun _ _ => hbelow rfl _
  | join asks hi =>
    refine h.keep_told rfl rfl rfl (pendingOn_set hi rfl) ?_ ?_ <;> cases asks <;> simp [hds]

/-- Completions in the course of a run. -/
theorem Run.completions (h : Run unfailing l duties) : Completions l duties := by
  induction h with
  | refl =>
    constructor <;> simp [Service.initial, IsOver, pendingOn]
  | next _ hn ih =>
    cases hn with
    | step hs => exact ih.step hs
    | @spawn l duties i name hi hnil =>
      refine ih.keep_told rfl rfl rfl (fun j => ?_) (by simp) (by simp)
      by_cases hj : j = i
      · subst hj
        simp [pendingOn, InvokerCore.queue]
      · simp [pendingOn, hj]

/-- Whoever goes on because of a signal has waited for a task that is over. -/
theorem Run.isOver_of_signalled (h : Run unfailing l duties) (hq : .queued i sub ∈ l.told)
    (hsub : sub.completion = some c) (hc : c ∈ l.signalled) : IsOver i sub l.told := by
  obtain ⟨j, sub', hsub', ho⟩ := h.completions.exists_over hc
  obtain ⟨rfl, rfl⟩ := h.completions.unique hq (h.completions.wasQueued ho) hsub hsub'
  exact ho

/-- A task that was started or dropped is over, once nothing is running. -/
theorem isOver_iff {es : List Event} :
    IsOver i sub es ↔ sub ∈ finishedOn i es ∨ sub ∈ discardedOn i es := by
  constructor
  · rintro (h | h | h)
    · exact .inl (List.mem_filterMap.2 ⟨_, h, by simp⟩)
    · exact .inl (List.mem_filterMap.2 ⟨_, h, by simp⟩)
    · exact .inr (List.mem_filterMap.2 ⟨_, h, by simp⟩)
  · rintro (h | h) <;> obtain ⟨e, he, hsub⟩ := List.mem_filterMap.1 h <;> cases e <;> simp_all [IsOver]

/-- When an interpreter thread has left its loop, each of its tasks is over. -/
theorem Ledger.isOver_of_exited {es : List Event} {stage : LoopStage}
    (h : Ledger unfailing i es r stage) (hphase : r.phase = .exited) (hq : .queued i sub ∈ es) :
    IsOver i sub es := by
  obtain rfl : stage = .left := h.left.2 (by simp [hphase])
  have hmem : sub ∈ queuedOn i es := List.mem_filterMap.2 ⟨_, hq, by simp⟩
  rw [h.queued, h.started, (h.exited hphase).2] at hmem
  simpa [isOver_iff, LoopStage.running] using hmem

end Service

end AddonHost
