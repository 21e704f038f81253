import AddonHost.Proofs.Invoker.Interleaving

/-!
Submissions to an interpreter thread.

A submission looks at one flag only: whether the thread was told to stop.  So from any other thread
a task is handed back, with nothing queued, from the moment on at which the thread is told to stop,
and it is queued before.  A thread that leaves its loop was told to stop; one that ends because a
task failed was perhaps not, and such a thread still takes tasks.

Whoever has submitted a task synchronously goes on when the task is over, or when the thread was told
to stop, or has failed; only in the first case has the task been run.

* `Session.Interleaves.submits` puts this together for every run, with any threads interleaved and
  any tasks failing.
-/

namespace AddonHost

namespace Session

variable {s s' : Session} {t : ThreadId} {i : InvokerId} {inv : Invoker} {r : InterpreterThread}

/-- What submissions to an interpreter thread come to. -/
structure Submits (s : Session) (i : InvokerId) (r : InterpreterThread) : Prop where
  /-- From another thread, a task is handed back if and only if the thread was told to stop. -/
  handedBack (t : ThreadId) (sync : Bool) (task : Task) : t ≠ .interpreter i →
    ((s.offer t i sync task).1 = .handedBack ↔ r.shutdown = true)
  /-- What is handed back leaves no trace behind the stage. -/
  untouched (t : ThreadId) (sync : Bool) (task : Task) :
    (s.offer t i sync task).1 = .handedBack → (s.offer t i sync task).2.backstage = s.backstage
  /-- A thread that has ended was told to stop, or a task has failed. -/
  ended : r.phase ≠ .running → r.shutdown = true ∨ r.phase = .failed
  /-- A synchronous task of the thread itself is run at once. -/
  atOnce (task : Task) : (s.offer (.interpreter i) i true task).1 = .inline
  /-- Whoever goes on after waiting for a task has waited for one task, and this task has been run,
  unless it was dropped or someone waits for the thread, which was told to stop, or the thread has
  failed. -/
  waited (t : ThreadId) (completion : ℕ) (below : List Frame) :
    s.threads.get? t = some { control := .run (.awaitTask i completion), stack := below } →
      ∃ sub, (∀ j sub', .queued j sub' ∈ s.history ∧ sub'.completion = some completion ↔
          j = i ∧ sub' = sub) ∧
        ((s.step t).isSome = true → .ended i sub ∈ s.history ∨ .failed i sub ∈ s.history ∨
          r.shutdown = true ∧ (.discarded i sub ∈ s.history ∨ r.joined = true) ∨
          r.phase = .failed)

theorem offer_thread (hi : s.invokers.get? i = some inv) (hr : inv.core = .thread r) (sync : Bool)
    (task : Task) (hne : t ≠ .interpreter i) :
    ((s.offer t i sync task).1 = .handedBack ↔ r.shutdown = true) ∧
      ((s.offer t i sync task).1 = .handedBack →
        (s.offer t i sync task).2.backstage = s.backstage) := by
  simp only [offer, hi, hr, hne, if_false]
  cases sync <;> cases hstop : r.shutdown <;> simp [enqueueAwaited]

/-- Why whoever waits for a task of an interpreter thread may go on. -/
theorem mayGoOn_of_step {completion : ℕ} {below : List Frame}
    (hth : s.threads.get? t = some { control := .run (.awaitTask i completion), stack := below })
    (hi : s.invokers.get? i = some inv) (hr : inv.core = .thread r)
    (hstep : (s.step t).isSome = true) :
    completion ∈ s.service.signalled ∨ r.isFinished = true := by
  obtain ⟨s', hs'⟩ := Option.isSome_iff_exists.1 hstep
  rw [step_eq_map (running_of_step hs') hth] at hs'
  obtain ⟨m, hm, -⟩ := Option.map_eq_some_iff.1 hs'
  simp only [Code.step, awaitTask, hi, Option.map_some, hr] at hm
  split at hm
  · next hsignalled => exact .inl (List.contains_iff_mem.1 hsignalled)
  · split at hm
    · next hfinished => exact .inr hfinished
    · simp at hm

/-- Submissions to an interpreter thread, in every run: from another thread they are handed back if
and only if the thread was told to stop, and whoever goes on after waiting has waited for a task that
was run, unless the thread was told to stop or has failed. -/
theorem Interleaves.submits {vars : Log.Variables} {level : Option Log.Level}
    (h : Interleaves False (start vars level) s) (hi : s.invokers.get? i = some inv)
    (hr : inv.core = .thread r) : s.Submits i r := by
  have hrun := h.served.run
  have hcore : s.service.cores i = some (.thread r) := hr ▸ cores_eq hi
  obtain ⟨r', stage, hr', hledger, -⟩ := hrun.kept hcore
  obtain rfl := InvokerCore.thread.inj (Option.some.inj (hcore.symm.trans hr'))
  refine ⟨fun t sync task hne => (offer_thread hi hr sync task hne).1, fun t sync task hback => ?_,
    fun hended => ?_, fun task => ?_, fun t c below hth => ?_⟩
  · by_cases hne : t = .interpreter i
    · subst hne
      cases sync with
      | false =>
        simp only [offer, hi, hr] at hback ⊢
        cases hstop : r.shutdown <;> simp_all
      | true => simp [offer, hi, hr] at hback
    · exact (offer_thread hi hr sync task hne).2 hback
  · cases hphase : r.phase with
    | running => exact absurd hphase hended
    | exited => exact .inl (hledger.exited hphase).1
    | failed => exact .inr rfl
  · simp [offer, hi, hr]
  · have hawaiting : .awaiting i c ∈ s.duties t := by
      rw [duties_eq hth]
      simp [Thread.duties, Control.duties, Code.duties]
    obtain ⟨sub, hqueued, hsub⟩ := hrun.completions.awaiting hawaiting
    refine ⟨sub, fun j sub' => ⟨fun hother => ?_, ?_⟩, fun hstep => ?_⟩
    · obtain ⟨hqueued', hsub'⟩ := hother
      exact hrun.completions.unique ((mem_told rfl).2 hqueued') hqueued hsub' hsub
    · rintro ⟨rfl, rfl⟩
      exact ⟨(mem_told rfl).1 hqueued, hsub⟩
    · have hover (ho : Event.IsOver i sub s.service.told) :
          .ended i sub ∈ s.history ∨ .failed i sub ∈ s.history ∨
            r.shutdown = true ∧ (.discarded i sub ∈ s.history ∨ r.joined = true) ∨
            r.phase = .failed := by
        rcases ho with ho | ho | ho
        · exact .inl ((mem_told rfl).1 ho)
        · exact .inr (.inl ((mem_told rfl).1 ho))
        · have hdiscarded : sub ∈ Event.discardedOn i s.service.told :=
            List.mem_filterMap.2 ⟨_, ho, by simp⟩
          exact .inr (.inr (.inl ⟨hledger.discarded (List.ne_nil_of_mem hdiscarded),
            .inl ((mem_told rfl).1 ho)⟩))
      rcases mayGoOn_of_step hth hi hr hstep with hsignalled | hfinished
      · exact hover (hrun.isOver_of_signalled hqueued hsub hsignalled)
      · simp only [InterpreterThread.isFinished, Bool.or_eq_true] at hfinished
        rcases hfinished with hjoined | hphase
        · exact .inr (.inr (.inl ⟨hledger.joined hjoined, .inr hjoined⟩))
        · by_cases hexited : r.phase = .exited
          · exact hover (hledger.isOver_of_exited hexited hqueued)
          · have hfailed : r.phase = .failed := by cases hphase' : r.phase <;> simp_all
            exact .inr (.inr (.inr hfailed))

/-- A session whose interpreter thread has run a task that failed. -/
def broken : Session :=
  ((start [] none).performed?
    [.createInvoker "thread" (.thread {}), .submit "thread" false [.fail] .dropped]).get
    (by decide +kernel)

/-- The thread has ended, and was not told to stop: it takes the next task. -/
theorem submits_broken :
    ∃ inv r, broken.invokers.get? 0 = some inv ∧ inv.core = .thread r ∧ broken.Submits 0 r ∧
      r.phase = .failed ∧ (broken.offer .main 0 true .occupy).1 ≠ .handedBack := by
  obtain ⟨inv, r, hinv, hr, hphase, hstop⟩ : ∃ inv r, broken.invokers.get? 0 = some inv ∧
      inv.core = .thread r ∧ r.phase = .failed ∧ r.shutdown = false :=
    ⟨_, _, rfl, rfl, rfl, rfl⟩
  have hinterleaves : Interleaves False (start [] none) broken :=
    Interleaves.refl.performed? (Option.some_get _).symm False.elim
  have hsubmits := hinterleaves.submits hinv hr
  refine ⟨inv, r, hinv, hr, hsubmits, hphase, ?_⟩
  rw [Ne, hsubmits.handedBack .main true .occupy (by simp), hstop]
  simp

end Session

end AddonHost
