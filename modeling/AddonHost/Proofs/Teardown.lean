import AddonHost.Proofs.Session.Observed

/-!
The teardown of a function.

`Reachable.teardown` follows the teardown of a threadsafe function from the moment that the function
closes:

* the addon's finalizer is called at most once;
* closing brings one teardown into existence, and from then on the teardown is queued, under way,
  over or lost;
* a teardown that was handed back, or that found no invoker, is over before the operation that
  closed the function answers;
* the handle resolves as long as the teardown is not over.
-/

namespace AddonHost

/-- Whether code is about to tear a function down. -/
def Code.tearsDown (f : HandleId) : Code → Bool
  | .teardown g | .task _ (.teardown g) => g = f
  | _ => false

/-- Whether a frame is in the middle of a function's teardown. -/
def Frame.tearsDown (f : HandleId) : Frame → Bool
  | .finalized g | .unreferenced g => g = f
  | _ => false

/-- Whether a thread tears a function down inside the operation that closed it: the answer of that
operation waits directly below the teardown. -/
def Thread.ClosesAtOnce (f : HandleId) (th : Thread) : Prop :=
  ∃ r below, (∃ c, th.control = .run c ∧ c.tearsDown f = true ∧ th.stack = .thenReply r :: below) ∨
    ∃ above fr, fr.tearsDown f = true ∧ th.stack = above ++ fr :: .thenReply r :: below

theorem exists_of_runsAtOnce {frames : List Frame} (h : runsAtOnce frames = true) :
    ∃ r below, frames = .thenReply r :: below := by
  unfold runsAtOnce at h
  split at h
  · exact ⟨_, _, rfl⟩
  · simp at h

/-- A teardown that runs at once is done above the answer of the operation that closed the
function. -/
theorem exists_of_mem_framesOver_atOnce {f : HandleId} {a : Activity} {frames : List Frame}
    (ha : a ∈ framesOver f frames []) (hatOnce : a.isTeardownAtOnce = true) :
    ∃ r below above fr, fr.tearsDown f = true ∧ frames = above ++ fr :: .thenReply r :: below := by
  induction frames with
  | nil => simp [framesOver] at ha
  | cons fr frames ih =>
    rcases List.mem_append.1 ha with ha | ha
    · obtain ⟨hruns, htears⟩ : runsAtOnce frames = true ∧ fr.tearsDown f = true := by
        cases fr <;> simp_all [Frame.activities, Activity.isTeardownAtOnce, Frame.tearsDown]
      obtain ⟨r, below, rfl⟩ := exists_of_runsAtOnce hruns
      exact ⟨r, below, [], fr, htears, rfl⟩
    · obtain ⟨r, below, above, fr', htears, rfl⟩ := ih ha
      exact ⟨r, below, fr :: above, fr', htears, rfl⟩

theorem closesAtOnce_of_mem_activities {f : HandleId} {t : ThreadId} {th : Thread} {a : Activity}
    (ha : a ∈ th.activities f t) (hatOnce : a.isTeardownAtOnce = true) : th.ClosesAtOnce f := by
  obtain ⟨control, stack⟩ := th
  rcases List.mem_append.1 ha with ha | ha
  · cases control with
    | run c =>
      obtain ⟨hruns, htears⟩ : runsAtOnce stack = true ∧ c.tearsDown f = true := by
        cases c with
        | task i task =>
          cases task <;>
            simp_all [Control.activities, Code.activities, Activity.isTeardownAtOnce,
              Code.tearsDown]
        | finalizer owner =>
          cases owner <;>
            simp_all [Control.activities, Code.activities, Activity.isTeardownAtOnce]
        | _ =>
          simp_all [Control.activities, Code.activities, Activity.isTeardownAtOnce, Code.tearsDown]
      obtain ⟨r, below, rfl⟩ := exists_of_runsAtOnce hruns
      exact ⟨r, below, .inl ⟨c, rfl, htears, rfl⟩⟩
    | _ => simp [Control.activities] at ha
  · obtain ⟨r, below, above, fr, htears, hstack⟩ := exists_of_mem_framesOver_atOnce ha hatOnce
    exact ⟨r, below, .inr ⟨above, fr, htears, hstack⟩⟩

namespace Life

variable {f : HandleId} {alone : Prop} {l : Life} {doing : Multiset Activity}

theorem Run.count_finalizerCalled_le (h : Run f alone l doing) :
    (l.marks f).count .finalizerCalled ≤ 1 := by
  have hclosed := h.flags.closed
  have hteardowns := h.teardowns
  have hmono : tally Activity.isTeardownStarted doing ≤ tally Activity.isTeardown doing :=
    tally_le (fun a ha => by
      cases a <;> simp_all [Activity.isTeardown, Activity.isTeardownStarted]) doing
  have := hteardowns.closed
  have := hteardowns.started
  have := hteardowns.finalizer
  have := Bool.toNat_le l.closing
  omega

/-- A teardown that was handed back is over, or runs inside the operation that closed the
function. -/
theorem Run.exists_atOnce (h : Run f alone l doing) (hback : .teardownOffered false ∈ l.marks f) :
    .teardownEnded ∈ l.marks f ∨ ∃ a ∈ doing, a.isTeardownAtOnce = true := by
  rw [or_iff_not_imp_left]
  intro hended
  have hclosed := h.flags.closed
  have hteardowns := h.teardowns
  have hle := Bool.toNat_le l.closing
  have hoffered := hteardowns.offered
  have haccepted := hteardowns.accepted
  have hback := List.count_pos_iff.2 hback
  have hone := hteardowns.closed
  rw [List.count_eq_zero.2 hended] at hone
  have hlater : tally Activity.isTeardownLater doing = 0 := by omega
  have hpos : 0 < tally Activity.isTeardown doing := by omega
  obtain ⟨a, ha, hteardown⟩ := Multiset.countP_pos.1 hpos
  have hnot := Multiset.countP_eq_zero.1 hlater a ha
  refine ⟨a, ha, ?_⟩
  cases a <;> simp_all [Activity.isTeardown, Activity.isTeardownLater, Activity.isTeardownAtOnce]

end Life

namespace Session

variable {s : Session} {f : HandleId} {fn : ThreadsafeFunction}

/-- While there are enough handles, a registered function is what its handle resolves to. -/
theorem Sane.entry?_eq_some_iff (h : s.Sane) (hf : s.functions.object? f = some fn)
    (hids : s.ids.next ≤ 2 ^ 64) :
    s.functions.entry? f = some (f, fn) ↔ s.functions.owns f = true := by
  obtain ⟨hpos, hlt⟩ := h.functions (f := f) (.inl (by simp [hf]))
  refine Registry.entry?_self_iff (HandleId.isNull_eq_false hpos (by omega)) hf
    fun own hown hvalue => ?_
  have := h.functions (f := own) (.inr (by simpa [Registry.owns] using hown))
  exact (HandleId.value_inj (by omega) (by omega)).1 hvalue

/-- What becomes of the teardown of a function. -/
theorem Reachable.teardown (h : s.Reachable) (hf : s.functions.object? f = some fn) :
    (s.marks f).count .finalizerCalled ≤ 1 ∧
      (s.marks f).count .closed = fn.closing.toNat ∧
      (s.marks f).count (.teardownOffered true) + (s.marks f).count (.teardownOffered false)
        = fn.closing.toNat ∧
      (s.pendingTasks f).count .teardown + tally Activity.isTeardown (s.doing f)
          + (s.marks f).count .teardownEnded + (s.marks f).count .teardownLost
        = fn.closing.toNat ∧
      (.teardownOffered false ∈ s.marks f → .teardownEnded ∉ s.marks f →
        ∃ p ∈ s.threads, p.2.ClosesAtOnce f) ∧
      (s.ids.next ≤ 2 ^ 64 →
        (.teardownEnded ∉ s.marks f ↔ s.functions.entry? f = some (f, fn))) := by
  have hrun := h.run f id
  have hl : (s.life f).function = some fn := hf
  have hclosed := hrun.flags.closed
  rw [marks_life, Life.closing, hl, Option.map_some, Option.getD_some] at hclosed
  have hteardowns := hrun.teardowns
  simp only [Life.teardowns_iff, marks_life, hclosed] at hteardowns
  obtain ⟨hone, hoffered, -, -, -⟩ := hteardowns
  refine ⟨?_, hclosed, hoffered.symm, hone.symm, fun hback hended => ?_, fun hids => ?_⟩
  · simpa using hrun.count_finalizerCalled_le
  · rw [← marks_life] at hback hended
    obtain ⟨a, ha, hatOnce⟩ := (hrun.exists_atOnce hback).resolve_left hended
    obtain ⟨p, hp, ha⟩ := mem_doingOf.1 ha
    exact ⟨p, hp, closesAtOnce_of_mem_activities ha hatOnce⟩
  · rw [h.sound.sane.entry?_eq_some_iff hf hids]
    have hregistered := hrun.registered
    rw [Life.registered_iff, marks_life] at hregistered
    exact ⟨fun hended => hregistered.2.2 (by simp [hl]) hended hids, hregistered.2.1⟩

/-- A session in which a function is aborted and released from inside its last delivery, while the
invoker takes no teardown any more; the finalizer tries to release it once again. -/
def abortedInCallback : Session :=
  ((start [] none).performed?
    [.createInvoker "queue" (.limited 1),
      .createFunction
        { name := "f", threads := 2, callJs := true, finalize := some (.word 9),
          invoker := some "queue" },
      .script (.callJs (.word 1)) [.release (.named "f") .release, .release (.named "f") .abort],
      .script (.finalize (.word 9)) [.release (.named "f") .abort],
      .call (.named "f") (.word 1) .nonBlocking,
      .pump "queue" .one]).get (by decide +kernel)

theorem teardown_abortedInCallback :
    ∃ fn, abortedInCallback.functions.object? ⟨1⟩ = some fn ∧
      (abortedInCallback.marks ⟨1⟩).count .finalizerCalled = 1 ∧
      (abortedInCallback.marks ⟨1⟩).count .closed = 1 ∧
      abortedInCallback.functions.entry? ⟨1⟩ ≠ some (⟨1⟩, fn) := by
  have hreachable : abortedInCallback.Reachable :=
    (Reachable.start [] none).performed? (Option.some_get _).symm
  have hfunction : abortedInCallback.functions.object? ⟨1⟩ = some _ :=
    (Option.some_get (by decide +kernel)).symm
  have hmarks : abortedInCallback.marks ⟨1⟩
      = [.appended 1, .taken 1, .delivered 1, .aborted, .closed, .teardownOffered false,
        .teardownStarted, .finalizerCalled, .teardownEnded] := by
    decide +kernel
  obtain ⟨hfinalizer, hclosed, -, -, -, hhandle⟩ := hreachable.teardown hfunction
  refine ⟨_, hfunction, ?_, ?_, ?_⟩
  · exact le_antisymm hfinalizer (List.count_pos_iff.2 (by simp [hmarks]))
  · rw [hclosed]
    decide +kernel
  · rw [Ne, ← hhandle (by decide +kernel)]
    simp [hmarks]

end Session

end AddonHost
