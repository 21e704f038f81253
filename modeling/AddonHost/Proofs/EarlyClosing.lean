import AddonHost.Proofs.Function.Dispatch
import AddonHost.Proofs.Lifecycle

/-!
Functions that close while items are queued.

A function closes when it is aborted, when its last holder releases it and nothing is queued, or at
the end of a dispatch task that took the last item while no holder was left.  A dispatch task looks
at the queue when it takes its item, and decides when the delivery has returned: what the delivery
appends meanwhile does not change its mind.

* `Reachable.closing_cause`: a function that starts closing without having been aborted has no
  holder, and its queue is empty, unless the step is the end of a dispatch task that took the last
  item; then the queue holds what was appended since that item was taken, and was not taken yet.
-/

namespace AddonHost

namespace Life

variable {f : HandleId} {l l' : Life} {own own' : List Activity}

/-- Why a function starts closing without an abort: nobody holds it, and nothing is queued or a
dispatch task that took the last item has come to its end. -/
theorem Step.cause_of_closing (h : Step f l own l' own') (hopen : l.closing = false)
    (hclosing : l'.closing = true) (haborted : l'.aborted = false) :
    l'.holders = 0 ∧ l'.queue = l.queue ∧ (l.queue = [] ∨ ∃ i, own = [.draining i true]) := by
  refine ⟨(h.aborted_or hopen hclosing).resolve_left (by simp [haborted]), ?_⟩
  cases h with
  | closeAgain hl hc | closeQueued _ hl hc | closeAtOnce hl hc =>
    cases hc with
    | abort => simp [aborted, ThreadsafeFunction.abort, ThreadsafeFunction.close,
        ThreadsafeFunction.dropHolder, ThreadsafeFunction.wakeAll] at haborted
    | lastHolder _ hspent =>
      rw [ThreadsafeFunction.isSpent, Bool.and_eq_true, List.isEmpty_iff] at hspent
      have hqueue : l.queue = [] := by
        rw [queue, hl]
        exact hspent.2
      exact ⟨by simp [queue, hl, ThreadsafeFunction.close, ThreadsafeFunction.wakeAll,
        ThreadsafeFunction.dropHolder], .inl hqueue⟩
    | lastItem i => exact ⟨by simp [queue, hl, ThreadsafeFunction.close,
        ThreadsafeFunction.wakeAll], .inr ⟨i, rfl⟩⟩
  | drain i hl => simp_all [closing, pop_snd]
  | _ =>
    simp_all [closing, ThreadsafeFunction.create, ThreadsafeFunction.acquire,
      ThreadsafeFunction.push, ThreadsafeFunction.sleep, ThreadsafeFunction.dropHolder]

end Life

namespace Session

variable {s s' : Session} {t : ThreadId} {f : HandleId} {fn fn' : ThreadsafeFunction}

/-- A thread is in the middle of a dispatch task that took the last item of a function. -/
def FoundLast (s : Session) (t : ThreadId) (f : HandleId) : Prop :=
  ∃ th i, s.threads.get? t = some th ∧ .draining i true ∈ th.activities f t

/-- A function that starts closing without having been aborted has no holder left, and nothing is
queued but what was appended while the dispatch task that closes it was delivering the last item. -/
theorem Reachable.closing_cause (h : s.Reachable) (hstep : s.step t = some s')
    (hf : s.functions.object? f = some fn) (hopen : fn.closing = false)
    (hf' : s'.functions.object? f = some fn') (hclosing : fn'.closing = true)
    (haborted : fn'.aborted = false) :
    fn'.threadCount = 0 ∧ (fn'.queue = [] ∨
      s.FoundLast t f ∧ Life.AppendedSince (s.marks f) fn'.queue) := by
  obtain ⟨th, below, m, own, works, ht⟩ := h.sound.exists_taken hstep
  have hlife : Life.Step f (s.life f) (own f) (s'.life f) (m.activities f t below) := by
    have hresult : s'.life f = m.session.life f := by
      rw [ht.result]
      rfl
    rw [hresult]
    exact ht.does.step f
  have hl : (s.life f).function = some fn := hf
  have hl' : (s'.life f).function = some fn' := hf'
  obtain ⟨hholders, hqueue, hcause⟩ := hlife.cause_of_closing (by simp [Life.closing, hl, hopen])
    (by simp [Life.closing, hl', hclosing]) (by simp [Life.aborted, hl', haborted])
  simp only [Life.holders, Life.queue, hl, hl', Option.map_some, Option.getD_some]
    at hholders hqueue hcause
  refine ⟨hholders, ?_⟩
  rw [hqueue]
  refine hcause.imp_right fun hfound => ?_
  obtain ⟨i, hown⟩ := hfound
  have hmem : .draining i true ∈ th.activities f t := by
    rw [ht.activities, hown]
    exact List.mem_cons_self
  have hdoing : .draining i true ∈ s.doing f :=
    mem_doingOf.2 ⟨_, Assoc.mem_of_get? ht.thread, hmem⟩
  have hrun : Life.Run f False (s.life f) (s.doing f) := h.run f False.elim
  have hsince := hrun.appendedSince (hrun.tookLast hdoing)
  rw [marks_life] at hsince
  simp only [Life.queue, hl, Option.map_some, Option.getD_some] at hsince
  exact ⟨⟨th, i, ht.thread, hmem⟩, hsince⟩

/-- A session in which a dispatch task is about to close a function: it took the only item, and the
delivery appended another one and then released the function. -/
def closingEarly : Session :=
  ((start [] none).during?
    [.createInvoker "queue" .unlimited,
      .createFunction
        { name := "f", callJs := true, finalize := some (.word 9), invoker := some "queue" },
      .script (.callJs (.word 1))
        [.call (.named "f") (.word 2) .nonBlocking, .release (.named "f") .release],
      .call (.named "f") (.word 1) .nonBlocking]
    (.pump "queue" .one) 15).get (by decide +kernel)

theorem closing_cause_closingEarly :
    ∃ s' fn', closingEarly.step .main = some s' ∧ s'.functions.object? ⟨1⟩ = some fn' ∧
      fn'.closing = true ∧ fn'.aborted = false ∧ fn'.threadCount = 0 ∧ fn'.queue = [2] ∧
      closingEarly.FoundLast .main ⟨1⟩ ∧
      Life.AppendedSince (closingEarly.marks ⟨1⟩) fn'.queue := by
  have hreachable : closingEarly.Reachable :=
    (Reachable.start [] none).during? (Option.some_get _).symm
  have hstep : closingEarly.step .main = some _ := (Option.some_get (by decide +kernel)).symm
  have hfunction : closingEarly.functions.object? ⟨1⟩ = some _ :=
    (Option.some_get (by decide +kernel)).symm
  have hfunction' : ((closingEarly.step .main).get (by decide +kernel)).functions.object? ⟨1⟩
      = some _ := (Option.some_get (by decide +kernel)).symm
  obtain ⟨hholders, hqueue⟩ := hreachable.closing_cause hstep hfunction (by decide +kernel)
    hfunction' (by decide +kernel) (by decide +kernel)
  obtain ⟨hfound, hsince⟩ := hqueue.resolve_left (by decide +kernel)
  exact ⟨_, _, hstep, hfunction', by decide +kernel, by decide +kernel, hholders,
    by decide +kernel, hfound, hsince⟩

end Session

end AddonHost
