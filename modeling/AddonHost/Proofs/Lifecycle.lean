import AddonHost.Proofs.Session.Observed

/-!
The way of a function to its end.

A function is open, then it closes, and then nothing but its queue changes any more:

* no flag is ever taken back, and after closing the count of holders stays and the queue only gives
  up items (`ThreadsafeFunction.Ages`), whatever a run does (`Onward.ages`);
* in every state, an aborted function is closing, a function is closing exactly when its end is
  scheduled, and one that closes without having been aborted has no holder left;
* whoever calls, acquires or releases a closing function, or waits for space in its queue, is
  refused as `closing` (`Session.Refused`).

`Reachable.lifecycle` puts these together.  Inside the operation that closes a function there is no
state between the first of its writes and the last, so that what is said of a closing function also
holds when the addon is called during that operation.
-/

namespace AddonHost

/-- What may become of a function. -/
structure ThreadsafeFunction.Ages (fn fn' : ThreadsafeFunction) : Prop where
  aborted : fn.aborted = true → fn'.aborted = true
  closing : fn.closing = true → fn'.closing = true
  finalizeScheduled : fn.finalizeScheduled = true → fn'.finalizeScheduled = true
  threadCount : fn.closing = true → fn'.threadCount = fn.threadCount
  queue : fn.closing = true → fn'.queue <:+ fn.queue

namespace ThreadsafeFunction.Ages

variable {fn fn' fn'' : ThreadsafeFunction}

theorem refl (fn : ThreadsafeFunction) : fn.Ages fn :=
  ⟨id, id, id, fun _ => rfl, fun _ => List.suffix_rfl⟩

theorem trans (h : fn.Ages fn') (h' : fn'.Ages fn'') : fn.Ages fn'' where
  aborted ha := h'.aborted (h.aborted ha)
  closing hc := h'.closing (h.closing hc)
  finalizeScheduled hs := h'.finalizeScheduled (h.finalizeScheduled hs)
  threadCount hc := (h'.threadCount (h.closing hc)).trans (h.threadCount hc)
  queue hc := (h'.queue (h.closing hc)).trans (h.queue hc)

/-- An open function may gain flags, holders and items. -/
theorem of_open (hopen : fn.closing = false) (haborted : fn.aborted = true → fn'.aborted = true)
    (hscheduled : fn.finalizeScheduled = true → fn'.finalizeScheduled = true) : fn.Ages fn' where
  aborted := haborted
  closing hc := absurd hc (by simp [hopen])
  finalizeScheduled := hscheduled
  threadCount hc := absurd hc (by simp [hopen])
  queue hc := absurd hc (by simp [hopen])

end ThreadsafeFunction.Ages

namespace Life

variable {f : HandleId} {alone : Prop} {l l' : Life} {doing : Multiset Activity}
  {fn fn' : ThreadsafeFunction} {own own' : List Activity} {es : List Event}

/-- A cause of closing takes no flag back. -/
theorem Cause.ages (h : Cause f fn own fn' es) : fn.Ages fn' := by
  refine .of_open h.isOpen ?_ ?_ <;> cases h <;>
    simp [ThreadsafeFunction.abort, ThreadsafeFunction.wakeAll, ThreadsafeFunction.dropHolder]

theorem Step.ages (h : Step f l own l' own') (hl : l.function = some fn) :
    ∃ fn', l'.function = some fn' ∧ fn.Ages fn' := by
  cases h with
  | absent own hnone => simp [hnone] at hl
  | create env reference spec delivery invoker hnone => simp [hnone] at hl
  | acquire hl' hopen | appendLost data hl' hopen | appendQueued data i hl' hopen
  | appendInline data i hl' hopen | sleep t hl' hopen | dropHolder hl' hopen =>
    obtain rfl := Option.some.inj (hl'.symm.trans hl)
    exact ⟨_, rfl, .of_open hopen id id⟩
  | closeAgain hl' hc =>
    obtain rfl := Option.some.inj (hl'.symm.trans hl)
    exact ⟨_, rfl, hc.ages⟩
  | closeQueued i hl' hc | closeAtOnce hl' hc =>
    obtain rfl := Option.some.inj (hl'.symm.trans hl)
    exact ⟨_, rfl, .of_open hc.isOpen hc.ages.aborted fun _ => rfl⟩
  | drain i hl' =>
    obtain rfl := Option.some.inj (hl'.symm.trans hl)
    refine ⟨_, rfl, ?_⟩
    rw [pop_snd]
    exact ⟨id, id, id, fun _ => rfl, fun _ => List.tail_suffix _⟩
  | mark on hl' =>
    obtain rfl := Option.some.inj (hl'.symm.trans hl)
    exact ⟨_, rfl, ⟨id, id, id, fun _ => rfl, fun _ => List.suffix_rfl⟩⟩
  | finalized atOnce hl' =>
    obtain rfl := Option.some.inj (hl'.symm.trans hl)
    exact ⟨_, rfl, ⟨id, id, id, fun _ => rfl, fun _ => List.suffix_rfl⟩⟩
  | _ => exact ⟨fn, hl, .refl fn⟩

/-- A cause of closing is an abort, or leaves no holder. -/
theorem Cause.aborted_or (h : Cause f fn own fn' es) :
    fn'.aborted = true ∨ fn'.threadCount = 0 := by
  cases h with
  | abort => exact .inl rfl
  | lastHolder _ hspent =>
    rw [ThreadsafeFunction.isSpent, Bool.and_eq_true] at hspent
    exact .inr (by simpa using hspent.1)
  | lastItem i _ hcount => exact .inr hcount

/-- How many holders the function has. -/
def holders (l : Life) : Word := (l.function.map ThreadsafeFunction.threadCount).getD 0

/-- A step that closes a function aborts it, or finds no holder. -/
theorem Step.aborted_or (h : Step f l own l' own') (hopen : l.closing = false)
    (hclosing : l'.closing = true) : l'.aborted = true ∨ l'.holders = 0 := by
  cases h with
  | closeAgain _ hc | closeQueued _ _ hc | closeAtOnce _ hc => exact hc.aborted_or
  | drain i hl =>
    simp_all [closing, pop_snd]
  | _ =>
    simp_all [closing, ThreadsafeFunction.create, ThreadsafeFunction.acquire,
      ThreadsafeFunction.push, ThreadsafeFunction.sleep, ThreadsafeFunction.dropHolder]

/-- A function that closes without having been aborted has no holder left. -/
theorem Run.holders_eq_zero (h : Run f alone l doing) (hclosing : l.closing = true)
    (haborted : l.aborted = false) : l.holders = 0 := by
  induction h with
  | unborn n => rfl
  | @step l l' own own' kept hr hs _ ih =>
    cases hopen : l.closing with
    | false => exact (hs.aborted_or hopen hclosing).resolve_left (by simp [haborted])
    | true =>
      obtain ⟨fn, hl, hfn⟩ : ∃ fn, l.function = some fn ∧ fn.closing = true := by
        cases hl : l.function <;> simp_all [closing]
      obtain ⟨fn', hl', hages⟩ := hs.ages hl
      -- the function was closing before, so it was not aborted and kept its holders
      have hcount : l'.holders = l.holders := by simp [holders, hl, hl', hages.threadCount hfn]
      rw [hcount]
      refine ih hopen ?_
      by_contra h
      simp_all [aborted, hages.aborted]

end Life

namespace Session

variable {s s' : Session} {f : HandleId} {fn fn' : ThreadsafeFunction} {t : ThreadId}

/-- A step of a thread is a step in the life of every function. -/
theorem Reachable.lifeStep (h : s.Reachable) (hstep : s.step t = some s') (f : HandleId) :
    ∃ own own', Life.Step f (s.life f) own (s'.life f) own' := by
  obtain ⟨th, below, m, own, works, ht⟩ := h.sound.exists_taken hstep
  have hlife : s'.life f = m.session.life f := by
    rw [ht.result]
    rfl
  rw [hlife]
  exact ⟨_, _, ht.does.step f⟩

/-- A run that goes on keeps every function, and lets it age. -/
theorem Onward.ages (ho : s.Onward s') (h : s.Reachable) (hf : s.functions.object? f = some fn) :
    ∃ fn', s'.functions.object? f = some fn' ∧ fn.Ages fn' := by
  induction ho with
  | refl => exact ⟨fn, hf, .refl fn⟩
  | act a _ _ ih => exact ih
  | @step u u' t hu _ hstep ih =>
    obtain ⟨fn', hf', hages⟩ := ih
    obtain ⟨own, own', hlife⟩ := (h.onward hu).lifeStep hstep f
    obtain ⟨fn'', hf'', hages'⟩ := hlife.ages hf'
    exact ⟨fn'', hf'', hages.trans hages'⟩
  | @lose u i position _ ih =>
    obtain ⟨fn', hf', hages⟩ := ih
    obtain ⟨-, hsame⟩ := loseTask_step (s := u) f i position
    exact ⟨fn', hsame.trans hf', hages⟩

/-- Every operation on a function is refused, because it is closing: calls and releases, calls that
waited for space, and what adds a holder. -/
structure Refused (s : Session) (f : HandleId) (fn : ThreadsafeFunction) : Prop where
  call (t : ThreadId) (data : Word) (mode : CallMode) :
    s.call t f data mode = s.give (.outcome (.error .closing))
  awaitSpace (t : ThreadId) (data : Word) :
    s.awaitSpace t f data = some (s.give (.outcome (.error .closing)))
  release (t : ThreadId) (mode : ReleaseMode) :
    s.release t f mode = s.give (.outcome (.error .closing))
  acquire : s.acquire f fn = (.error .closing, s)

theorem Reachable.refused (h : s.Reachable) (hf : s.functions.object? f = some fn)
    (hclosing : fn.closing = true) : s.Refused f fn where
  call t data mode := by simp [Session.call, hf, ThreadsafeFunction.admission, hclosing]
  awaitSpace t data := by
    -- closing has woken all that waited
    have hwaiting := (h.run f id).waiting.closing
    have hl : (s.life f).function = some fn := hf
    simp only [Life.closing, Life.sleepers, hl, Option.map_some, Option.getD_some] at hwaiting
    simp [Session.awaitSpace, hf, hwaiting hclosing, hclosing]
  release t mode := by simp [Session.release, hf, hclosing]
  acquire := by simp [Session.acquire, hclosing]

/-- How a function gets to its end. -/
theorem Reachable.lifecycle (h : s.Reachable) (hf : s.functions.object? f = some fn) :
    (fn.aborted = true → fn.closing = true) ∧
      (fn.closing = true ↔ fn.finalizeScheduled = true) ∧
      (fn.closing = true → fn.aborted = false → fn.threadCount = 0) ∧
      ∀ s', s.Onward s' → ∃ fn', s'.functions.object? f = some fn' ∧
        (fn.aborted = true → fn'.aborted = true) ∧
        (fn.closing = true → fn'.closing = true) ∧
        (fn.finalizeScheduled = true → fn'.finalizeScheduled = true) ∧
        (fn.closing = true →
          fn'.threadCount = fn.threadCount ∧ fn'.queue <:+ fn.queue ∧ s'.Refused f fn') := by
  have hl : (s.life f).function = some fn := hf
  have hflags := (h.run f id).flags
  rw [Life.flags_iff, Life.aborted, Life.closing, Life.scheduled, hl] at hflags
  obtain ⟨hscheduled, -, haborted, -⟩ := hflags
  have hcount := (h.run f id).holders_eq_zero
  rw [Life.closing, Life.aborted, Life.holders, hl] at hcount
  refine ⟨haborted, ?_, hcount, fun s' ho => ?_⟩
  · rw [← Bool.eq_iff_iff]
    exact hscheduled.symm
  · obtain ⟨fn', hf', hages⟩ := ho.ages h hf
    refine ⟨fn', hf', hages.aborted, hages.closing, hages.finalizeScheduled, fun hclosing => ?_⟩
    exact ⟨hages.threadCount hclosing, hages.queue hclosing,
      (h.onward ho).refused hf' (hages.closing hclosing)⟩

/-- A session in which a function with two holders was aborted by one, while an item was queued. -/
def abortedByOne : Session :=
  ((start [] none).performed?
    [.createInvoker "queue" .unlimited,
      .createFunction { name := "f", threads := 2, callJs := true, invoker := some "queue" },
      .call (.named "f") (.word 1) .nonBlocking,
      .release (.named "f") .abort]).get (by decide +kernel)

theorem lifecycle_abortedByOne :
    ∃ fn, (abortedByOne.beginAction (.pump "queue" .one)).functions.object? ⟨1⟩ = some fn ∧
      fn.aborted = true ∧ fn.threadCount = 1 ∧ fn.queue <:+ [1] ∧
      (abortedByOne.beginAction (.pump "queue" .one)).Refused ⟨1⟩ fn := by
  have hreachable : abortedByOne.Reachable :=
    (Reachable.start [] none).performed? (Option.some_get _).symm
  have hfunction : abortedByOne.functions.object? ⟨1⟩ = some _ :=
    (Option.some_get (by decide +kernel)).symm
  have hidle : abortedByOne.MainIdle := by decide +kernel
  obtain ⟨-, -, -, honward⟩ := hreachable.lifecycle hfunction
  obtain ⟨fn, hfn, haborted, -, -, hclosed⟩ := honward _ (.act (.pump "queue" .one) .refl hidle)
  obtain ⟨hcount, hqueue, hrefused⟩ := hclosed (by decide +kernel)
  exact ⟨fn, hfn, haborted (by decide +kernel), hcount.trans (by decide +kernel), hqueue, hrefused⟩

end Session

end AddonHost
