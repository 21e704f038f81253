import AddonHost.Proofs.Session.Observed

/-!
Deliveries after the teardown has started.

Dispatch tasks that an invoker has queued are run before a teardown that it queues later, so an item
is handed over before the teardown starts, or never.  There is one exception.  A dispatch task that
took the last item closes the function when no holder is left, even if another item was appended
meanwhile; the invoker may hand the teardown back, and then the teardown runs at once, ahead of the
dispatch task of the other item.  `Reachable.late_deliveries` says that there is no other exception,
and which items are delivered late: those that are taken after the teardown has started.
-/

namespace AddonHost

namespace Session

variable {s : Session} {f : HandleId} {fn : ThreadsafeFunction}

/-- While engines are silent, items of a function are handed over after its teardown has started
only if the function closed early and its teardown was handed back; and those that are delivered
late are those that are taken late, unless the function was aborted. -/
theorem Reachable.late_deliveries (h : s.Reachable) (hsilent : s.EnginesSilent)
    {before after : List Mark} (hmarks : s.marks f = before ++ .teardownStarted :: after) :
    ((∃ m ∈ after, m.isHandover = true) → Life.EndedEarly (s.marks f)) ∧
      (s.functions.object? f = some fn → fn.callJs = true → .aborted ∉ s.marks f → s.AtRest →
        after.filterMap Mark.delivered? = after.filterMap Mark.taken?) := by
  have hrun := h.run f id
  have hlife : (s.life f).marks f = before ++ .teardownStarted :: after := by
    rw [marks_life, hmarks]
  refine ⟨fun ⟨m, hm, hhandover⟩ => ?_, fun hf hjs hopen hrest => ?_⟩
  · have hlate : Life.Late ((s.life f).marks f) := ⟨before, after, m, hlife, hm, hhandover⟩
    simpa using hrun.endedEarly_of_late hsilent hlate
  · have hl : (s.life f).function = some fn := hf
    have haborted : (s.life f).aborted = false := by
      rw [Bool.eq_false_iff]
      intro haborted
      rw [← hrun.flags.aborted, marks_life] at haborted
      exact hopen haborted
    obtain ⟨w, hw, htaken⟩ :=
      hrun.late_taken_eq hsilent (by rw [Life.callJs_eq hl, hjs]) haborted hlife
    rw [h.sound.inFlight_eq_zero hsilent hrest, eq_comm, Multiset.coe_eq_zero] at hw
    rw [htaken, hw, List.append_nil]

/-- A session in which a callback appends an item and releases its function, while the invoker takes
no teardown any more. -/
def endedEarly : Session :=
  ((start [] none).performed?
    [.createInvoker "queue" (.limited 2),
      .createFunction
        { name := "f", callJs := true, finalize := some (.word 9), invoker := some "queue" },
      .script (.callJs (.word 1))
        [.call (.named "f") (.word 2) .nonBlocking, .release (.named "f") .release],
      .call (.named "f") (.word 1) .nonBlocking,
      .pump "queue" .one,
      .pump "queue" .one]).get (by decide +kernel)

theorem late_deliveries_endedEarly :
    ∃ before after, endedEarly.marks ⟨1⟩ = before ++ .teardownStarted :: after ∧
      .finalizerCalled ∈ after ∧ after.filterMap Mark.delivered? = [2] ∧
      Life.EndedEarly (endedEarly.marks ⟨1⟩) := by
  have hreachable : endedEarly.Reachable :=
    (Reachable.start [] none).performed? (Option.some_get _).symm
  have hfunction : endedEarly.functions.object? ⟨1⟩ = some _ :=
    (Option.some_get (by decide +kernel)).symm
  have hsilent : endedEarly.EnginesSilent := by
    refine enginesSilent_of_keys ?_
    rw [show endedEarly.scripts.map Prod.fst = [.callJs 1] by decide +kernel]
    simp
  have hmarks : endedEarly.marks ⟨1⟩
      = [.appended 1, .taken 1, .delivered 1, .appended 2, .closed, .teardownOffered false] ++
        .teardownStarted :: [.finalizerCalled, .teardownEnded, .taken 2, .delivered 2] := by
    decide +kernel
  obtain ⟨hearly, hlate⟩ := hreachable.late_deliveries hsilent hmarks
  refine ⟨_, _, hmarks, by simp, ?_, hearly ⟨.delivered 2, by simp, rfl⟩⟩
  rw [hlate hfunction (by decide +kernel) (by decide +kernel) (by decide +kernel)]
  rfl

end Session

end AddonHost
