import AddonHost.Proofs.Session.Observed

/-!
Items are conserved, and delivered in order.

`Reachable.items` says of a threadsafe function that delivers its items itself, while engines are
silent:

* what was appended is what was taken and what is queued;
* what was delivered is what was taken up to the abort, and so a prefix of what was appended; only
  the item of a delivery that is on its way is missing;
* nothing is missing in the end, unless a dispatch task was lost or the function was aborted.
-/

namespace AddonHost

namespace Session

variable {s : Session} {f : HandleId} {fn : ThreadsafeFunction}

theorem Reachable.appendedTo_eq (h : s.Reachable) (hf : s.functions.object? f = some fn) :
    s.appendedTo f = s.takenFrom f ++ fn.queue := by
  have hl : (s.life f).function = some fn := hf
  have hrun := (h.run f id).appended_eq
  rw [marks_life, Life.queue, hl] at hrun
  rw [Session.appendedTo_eq, takenFrom_eq]
  exact hrun

theorem Reachable.exists_inFlight (h : s.Reachable) (hf : s.functions.object? f = some fn)
    (hjs : fn.callJs = true) (hsilent : s.EnginesSilent) :
    ∃ w : List Word, inFlight (s.doing f) = w ∧
      Mark.takenBeforeAbort (s.marks f) = s.deliveredFor f ++ w := by
  have hl : (s.life f).function = some fn := hf
  have hrun := (h.run f id).takenBeforeAbort_eq hsilent (by rw [Life.callJs_eq hl, hjs])
  rwa [marks_life, ← deliveredFor_eq] at hrun

/-- Nothing is queued for which no dispatch task is left, unless one was lost. -/
theorem Reachable.queue_eq_nil (h : s.Reachable) (hf : s.functions.object? f = some fn)
    (hkept : .drainLost ∉ s.marks f) (hpending : s.pendingTasks f = [])
    (hidle : ∀ i, fn.invoker = some i → s.isRunning i = false) : fn.queue = [] := by
  have hl : (s.life f).function = some fn := hf
  have hlength := (h.run f id).length_queue
  have hstarting : tally Activity.isStarting (s.doing f) = 0 := by
    refine Multiset.countP_eq_zero.2 fun a ha hstarting => ?_
    have hnone := h.runner?_eq_none hf hidle a ha
    cases a <;> simp_all [Activity.isStarting, Activity.runner?]
  rw [pendingTasks] at hpending
  rw [marks_life, List.count_eq_zero.2 hkept, hstarting, hpending, Life.queue, hl] at hlength
  exact List.length_eq_zero_iff.1 hlength

/-- Items of a function that delivers them itself are conserved, and delivered once each and in the
order in which they were appended. -/
theorem Reachable.items (h : s.Reachable) (hf : s.functions.object? f = some fn)
    (hjs : fn.callJs = true) (hsilent : s.EnginesSilent) :
    s.appendedTo f = s.takenFrom f ++ fn.queue ∧
      s.deliveredFor f <+: s.appendedTo f ∧
      s.deliveredFor f <+: Mark.takenBeforeAbort (s.marks f) ∧
      (s.AtRest → s.deliveredFor f = Mark.takenBeforeAbort (s.marks f)) ∧
      (.drainLost ∉ s.marks f → .aborted ∉ s.marks f → s.pendingTasks f = [] →
        (∀ i, fn.invoker = some i → s.isRunning i = false) →
          s.deliveredFor f = s.appendedTo f) := by
  have happended := h.appendedTo_eq hf
  obtain ⟨w, hw, htaken⟩ := h.exists_inFlight hf hjs hsilent
  have hpre : s.deliveredFor f <+: Mark.takenBeforeAbort (s.marks f) := ⟨w, htaken.symm⟩
  refine ⟨happended, ?_, hpre, fun hrest => ?_, fun hkept hopen hpending hidle => ?_⟩
  · have hall := Mark.takenBeforeAbort_prefix (s.marks f)
    rw [← takenFrom_eq] at hall
    exact (hpre.trans hall).trans ⟨fn.queue, happended.symm⟩
  · rw [h.sound.inFlight_eq_zero hsilent hrest, eq_comm, Multiset.coe_eq_zero] at hw
    rw [htaken, hw, List.append_nil]
  · have hflight : inFlight (s.doing f) = 0 := by
      refine Multiset.eq_zero_of_forall_notMem fun data hdata => ?_
      obtain ⟨a, ha, hitem⟩ := (Multiset.mem_filterMap _ _).1 hdata
      have hnone := h.runner?_eq_none hf hidle a ha
      cases a <;> simp_all [Activity.item?, Activity.runner?]
    rw [hflight, eq_comm, Multiset.coe_eq_zero] at hw
    rw [hw, List.append_nil, Mark.takenBeforeAbort_of_notMem hopen, ← takenFrom_eq] at htaken
    rw [happended, h.queue_eq_nil hf hkept hpending hidle, List.append_nil, htaken]

/-- A session in which a callback that is handed an item appends another one. -/
def appendedInCallback : Session :=
  ((start [] none).performed?
    [.createInvoker "queue" .unlimited,
      .createFunction { name := "f", callJs := true, invoker := some "queue" },
      .script (.callJs (.word 1)) [.call (.named "f") (.word 2) .nonBlocking],
      .call (.named "f") (.word 1) .nonBlocking,
      .pump "queue" (.drained 0)]).get (by decide +kernel)

theorem items_appendedInCallback :
    appendedInCallback.deliveredFor ⟨1⟩ = appendedInCallback.appendedTo ⟨1⟩ ∧
      appendedInCallback.appendedTo ⟨1⟩ = [1, 2] := by
  have hreachable : appendedInCallback.Reachable :=
    (Reachable.start [] none).performed? (Option.some_get _).symm
  have hfunction : appendedInCallback.functions.object? ⟨1⟩ = some _ :=
    (Option.some_get (by decide +kernel)).symm
  have hsilent : appendedInCallback.EnginesSilent := by
    refine enginesSilent_of_keys ?_
    rw [show appendedInCallback.scripts.map Prod.fst = [.callJs 1] by decide +kernel]
    simp
  obtain ⟨-, -, -, -, hall⟩ := hreachable.items hfunction (by decide +kernel) hsilent
  exact ⟨hall (by decide +kernel) (by decide +kernel) (by decide +kernel) (by decide +kernel),
    by decide +kernel⟩

end Session

end AddonHost
