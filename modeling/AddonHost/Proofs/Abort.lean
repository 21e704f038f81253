import AddonHost.Proofs.Lifecycle
import AddonHost.Proofs.Finalization
import AddonHost.Proofs.Teardown
import AddonHost.Proofs.Sleepers
import AddonHost.Proofs.Session.Onward

/-!
Aborting a function.

A release that aborts an open function is answered with `ok`, and nothing is handed over any more.
`Reachable.release_abort` follows the run from there, whatever is queued, whoever waits for space,
and wherever the release was called from:

* the answer `ok` is given at once, or above it the teardown runs first, which waits for nothing but
  the addon's callbacks (`Thread.Closes`);
* every producer that waits for space gets `closing` when it goes on, and nothing is appended any
  more;
* calls, releases and what adds a holder are refused as `closing`;
* no item is handed over after the abort, so what was not delivered by then never is;
* the finalizer is called once, unless its task is lost.

A teardown that runs at once is made of frames of its own (`Frame.isPartOfTeardown`), up to the
first callback; so it never fails, and each of its steps can be taken.
-/

namespace AddonHost

/-! ### After the abort -/

namespace Activity

/-- Whether a teardown is on its way that has yet to call the addon's finalizer, if there is one. -/
def isFinalizerAhead : Activity → Bool
  | ending _ => true
  | finalizerDue calls => calls
  | _ => false

end Activity

/-- A teardown that is on its way has started, or has yet to call the finalizer. -/
theorem tally_isFinalizerAhead (doing : Multiset Activity) :
    tally Activity.isFinalizerAhead doing + tally Activity.isTeardownStarted doing
      = tally Activity.isFinalizerDue doing + tally Activity.isTeardown doing := by
  induction doing using Multiset.induction_on with
  | empty => rfl
  | cons a doing ih =>
    simp only [tally_cons]
    cases a <;> simp [Activity.isFinalizerAhead, Activity.isTeardownStarted,
      Activity.isFinalizerDue, Activity.isTeardown] <;> grind

namespace Life

variable {f : HandleId} {alone : Prop} {l l' : Life} {doing : Multiset Activity}
  {fn fn' : ThreadsafeFunction} {own own' : List Activity} {es : List Event}

/-- The end of an open function is not scheduled, so that whoever closes it goes through with it. -/
theorem Run.finalizeScheduled_eq_false (h : Run f alone l doing) (hl : l.function = some fn)
    (hc : Cause f fn own fn' es) : fn'.finalizeScheduled = false := by
  have hscheduled := h.flags.scheduled
  simp only [scheduled, closing, hl, Option.map_some, Option.getD_some, hc.isOpen] at hscheduled
  cases hc <;> exact hscheduled

/-- No item is handed over once the function was aborted. -/
theorem Run.isHandover_eq_zero (h : Run f alone l doing) (ha : alone)
    (haborted : l.aborted = true) : tally Activity.isHandover doing = 0 := by
  induction h with
  | unborn n => rfl
  | @step l l' own own' kept hr hs halone ih =>
    have halone := halone ha
    rw [tally_add] at ih ⊢
    cases hs with
    | absent own hl =>
      obtain ⟨-, rfl, rfl⟩ := hr.eq_nil_of_absent hl
      rfl
    | create env reference spec delivery invoker hl hn =>
      obtain ⟨-, -, rfl⟩ := hr.eq_nil_of_absent hl
      rfl
    | closeAgain hl hc hs => simp [hr.finalizeScheduled_eq_false hl hc] at hs
    | closeQueued i hl hc | closeAtOnce hl hc =>
      -- the function changes, so that nothing is being handed over meanwhile
      have hkept := halone.resolve_left fun h => by
        have := congrArg (Option.map ThreadsafeFunction.closing) h.2
        simp [hl, hc.isOpen, ThreadsafeFunction.close, ThreadsafeFunction.wakeAll] at this
      have hnone := tally_eq_zero (p := Activity.isHandover) (fun a ha => by
        cases a <;> simp_all [Activity.isHandover, Activity.isDelivery]) hkept
      simp [hnone, Activity.isHandover]
    | @drain fn i hl =>
      have haborted : fn.aborted = true := by simpa [aborted, pop_snd] using haborted
      have := ih (by simpa [aborted, hl] using haborted)
      simp_all [deliveries, Activity.isHandover]
    | appendLost data hl _ _ hown | appendQueued data i hl _ _ hown
    | appendInline data i hl _ _ hown =>
      rcases hown with rfl | ⟨t, rfl, -⟩ <;>
        simp_all [aborted, ThreadsafeFunction.push, Activity.isHandover]
    | sleep t hl _ _ hown =>
      rcases hown with rfl | ⟨rfl, -⟩ <;>
        simp_all [aborted, ThreadsafeFunction.sleep, Activity.isHandover]
    | @start i k rest hq =>
      cases k <;> simp_all [aborted, Activity.ofTask, Activity.isHandover]
    | @teardown fn atOnce hl =>
      rcases finalizersDue_eq fn with hdue | ⟨calls, hdue⟩ <;>
        simp_all [aborted, Activity.isHandover]
    | _ =>
      simp_all [aborted, ThreadsafeFunction.acquire, ThreadsafeFunction.dropHolder,
        Activity.isHandover]

/-- A step that adds a handover to the marks was about to hand an item over, and one that adds an
item finds the function open. -/
theorem Step.exists_marks (h : Step f l own l' own') :
    ∃ ms, l'.marks f = l.marks f ++ ms ∧
      ((∀ m ∈ ms, m.isHandover = false) ∨ .aborted ∉ ms ∧ 0 < own.countP Activity.isHandover) ∧
      (l.closing = true → ms.filterMap Mark.appended? = []) := by
  cases h with
  | callJs | callFunction =>
    exact ⟨_, marks_tell .., .inr ⟨by simp [Event.mark?], by simp [Activity.isHandover]⟩,
      fun _ => by simp [Event.mark?]⟩
  | drain i hl =>
    refine ⟨_, marks_tell .., ?_⟩
    rw [filterMap_takenEvents]
    exact ⟨.inl (by simp), fun _ => by simp⟩
  | discard i hrest hsubs =>
    refine ⟨_, marks_tell .., ?_⟩
    rw [filterMap_mark?_discarded, List.forall_mem_map]
    exact ⟨.inl (by rintro (_ | _) - <;> rfl), fun _ => filterMap_lost rfl rfl _⟩
  | closeAgain hl hc | closeQueued i hl hc | closeAtOnce hl hc =>
    cases hc <;>
      exact ⟨_, marks_tell .., .inl (by simp [Event.mark?]), fun _ => by simp [Event.mark?]⟩
  | appendLost data hl hopen | appendQueued data i hl hopen | appendInline data i hl hopen =>
    exact ⟨_, marks_tell .., .inl (by simp [Event.mark?]),
      fun hclosing => by simp [closing, hl, hopen] at hclosing⟩
  | _ =>
    first
    | exact ⟨_, marks_tell .., .inl (by simp [Event.mark?]), fun _ => by simp [Event.mark?]⟩
    | exact ⟨[], (List.append_nil _).symm, .inl (by simp), fun _ => rfl⟩

/-- Steps in the life of a function, one after the other. -/
abbrev Later (f : HandleId) : Life → Life → Prop :=
  Relation.ReflTransGen fun l l' => ∃ own own', Step f l own l' own'

/-- A closing function stays so, and no item is appended any more. -/
theorem Later.exists_marks (h : Later f l l') (hclosing : l.closing = true) :
    l'.closing = true ∧ ∃ ms, l'.marks f = l.marks f ++ ms ∧ ms.filterMap Mark.appended? = [] := by
  induction h with
  | refl => exact ⟨hclosing, [], (List.append_nil _).symm, rfl⟩
  | @tail l₁ l₂ _ hstep ih =>
    obtain ⟨own, own', hstep⟩ := hstep
    obtain ⟨hclosing₁, ms, hms, hnone⟩ := ih
    obtain ⟨ms', hms', -, hnone'⟩ := hstep.exists_marks
    obtain ⟨fn, hl, hfn⟩ : ∃ fn, l₁.function = some fn ∧ fn.closing = true := by
      cases hl : l₁.function <;> simp_all [closing]
    obtain ⟨fn', hl', hages⟩ := hstep.ages hl
    refine ⟨by simp [closing, hl', hages.closing hfn], ms ++ ms', ?_, ?_⟩
    · rw [hms', hms, List.append_assoc]
    · rw [List.filterMap_append, hnone, hnone' hclosing₁, List.append_nil]

/-- The finalizer of a function is never changed. -/
theorem Later.finalizerData?_eq (h : Later f l l') (hl : l.function ≠ none) :
    l'.finalizerData? = l.finalizerData? := by
  induction h with
  | refl => rfl
  | @tail l₁ l₂ hlater hstep ih =>
    obtain ⟨own, own', hstep⟩ := hstep
    have hl₁ : l₁.function ≠ none := by
      clear ih hstep
      induction hlater with
      | refl => exact hl
      | tail _ hstep ih =>
        obtain ⟨own, own', hstep⟩ := hstep
        exact fun hnone => ih (hstep.function_eq_none hnone)
    rw [hstep.finalizerData?_eq hl₁, ih]

/-- No item was handed over after the abort. -/
theorem Run.isHandover_after_abort (h : Run f alone l doing) (ha : alone) {before after : List Mark}
    (hmarks : l.marks f = before ++ .aborted :: after) : ∀ m ∈ after, m.isHandover = false := by
  induction h generalizing after with
  | unborn n => simp at hmarks
  | @step l l' own own' kept hr hs _ ih =>
    obtain ⟨ms, hms, hquiet, -⟩ := hs.exists_marks
    rw [hms] at hmarks
    rcases List.append_eq_append_iff.1 hmarks with ⟨as, rfl, rfl⟩ | ⟨bs, hbs, hafter⟩
    · -- the step itself aborts the function
      have hquiet := hquiet.resolve_right fun h => h.1 (by simp)
      exact fun m hm => hquiet m (by simp [hm])
    · cases bs with
      | nil =>
        obtain rfl : .aborted :: after = ms := hafter
        have hquiet := hquiet.resolve_right fun h => h.1 (by simp)
        exact fun m hm => hquiet m (by simp [hm])
      | cons b bs =>
        obtain ⟨rfl, rfl⟩ := List.cons_eq_cons.1 hafter
        have haborted : l.aborted = true := hr.flags.aborted.1 (by simp [hbs])
        have hnone := hr.isHandover_eq_zero ha haborted
        rw [tally_add] at hnone
        have hquiet := hquiet.resolve_right fun h => by omega
        intro m hm
        exact (List.mem_append.1 hm).elim (ih hbs m) (hquiet m)

/-- If the addon has given a finalizer, it is called once for each time that the function closes: it
was called, or a teardown that has yet to call it is queued or under way, or was lost. -/
theorem Run.finalizer_once (h : Run f alone l doing) (hdata : l.finalizerData? ≠ none) :
    (l.marks f).count .finalizerCalled + l.tasks.count .teardown
        + tally Activity.isFinalizerAhead doing + (l.marks f).count .teardownLost
      = l.closing.toNat := by
  have hcalled := h.count_finalizerCalled hdata
  have hstarted := h.teardowns.started
  have hclosed := h.teardowns.closed
  rw [h.flags.closed] at hclosed
  have hahead := tally_isFinalizerAhead doing
  omega

end Life
/-! ### The teardown inside the release -/

/-- Whether control belongs to the teardown of a function, apart from the addon's callbacks. -/
def Control.isPartOfTeardown (f : HandleId) : Control → Bool
  | .give _ | .run (.finalizer ..) | .run (.script .callback _)
  | .run (.entry _ (.deleteReference ..)) => true
  | .run (.teardown g) => g = f
  | _ => false

/-- Whether a frame belongs to the teardown of a function, apart from the addon's callbacks. -/
def Frame.isPartOfTeardown (f : HandleId) : Frame → Bool
  | .unwrapped _ | .forwarded _ | .engineScripted _ (.deleteReference ..) => true
  | .finalized g | .unreferenced g => g = f
  | _ => false

/-- A thread tears a function down above the reply of the operation that has closed it; in the
second case it is inside a callback. -/
inductive Thread.Closes (f : HandleId) (r : Reply) (below : List Frame) : Bool → Thread → Prop where
  | own {control : Control} {above : List Frame} (hc : control.isPartOfTeardown f = true)
      (ha : above.all (Frame.isPartOfTeardown f) = true) :
    Closes f r below false { control := control, stack := above ++ .thenReply r :: below }
  | callback {control : Control} {inside above : List Frame} {a : Action} {rest : List Action}
      (ha : above.all (Frame.isPartOfTeardown f) = true) :
    Closes f r below true
      { control := control
        stack := inside ++ .performed .callback a rest :: (above ++ .thenReply r :: below) }

/-- Whether a move belongs to the teardown of a function, apart from the addon's callbacks. -/
def Move.isPartOfTeardown (f : HandleId) (m : Move) : Bool :=
  m.control.isPartOfTeardown f && m.frames.all (Frame.isPartOfTeardown f)

/-- Whether a thread is about to abort a function. -/
def Thread.aborts (f : HandleId) (th : Thread) : Bool :=
  match th.control with
  | .run (.release g .abort) => g = f
  | _ => false

theorem Thread.exists_of_aborts {f : HandleId} {th : Thread} (h : th.aborts f = true) :
    ∃ below, th = { control := .run (.release f .abort), stack := below } := by
  obtain ⟨control, stack⟩ := th
  unfold Thread.aborts at h
  split at h
  · next g hc =>
    obtain rfl : g = f := by simpa using h
    exact ⟨stack, congrArg (Thread.mk · stack) hc⟩
  · simp at h

theorem Thread.exists_of_waitsFor {f : HandleId} {th : Thread} (h : th.waitsFor f = true) :
    ∃ data below, th = { control := .run (.awaitSpace f data), stack := below } := by
  obtain ⟨control, stack⟩ := th
  unfold Thread.waitsFor at h
  split at h
  · next g data hc =>
    obtain rfl : g = f := by simpa using h
    exact ⟨data, stack, congrArg (Thread.mk · stack) hc⟩
  · simp at h

namespace Session

variable {s s' : Session} {t u : ThreadId} {f : HandleId} {fn : ThreadsafeFunction} {th : Thread}
  {r : Reply} {below : List Frame} {data : Word} {inCallback : Bool}

theorem teardown_isPart (s : Session) (f : HandleId) :
    (s.teardown f).isPartOfTeardown f = true := by
  unfold teardown
  split
  · rfl
  · dsimp only
    split <;> simp [Move.isPartOfTeardown, give, run, Control.isPartOfTeardown,
      Frame.isPartOfTeardown]

theorem finalizer_isPart (s : Session) (owner : Option HandleId) (fin : Finalizer)
    (env hint : Word) :
    (s.finalizer owner fin env hint).isPartOfTeardown f = true := by
  unfold finalizer
  split <;> rfl

theorem entry_isPart (s : Session) (t : ThreadId) (p : Provider) (env reference : Word) :
    (s.entry t p (.deleteReference env reference)).isPartOfTeardown f = true := by
  unfold entry
  split
  · rfl
  · rfl
  · split <;> rfl
  · unfold forward
    dsimp only
    split
    · rfl
    · next d hd =>
      obtain ⟨env', hrequest⟩ := request_of_route rfl hd
      split
      · rfl
      · rw [hrequest]; rfl

theorem resume_isPart {fr : Frame} (hfr : fr.isPartOfTeardown f = true) (r : Reply) :
    (fr.resume t s r).isPartOfTeardown f = true := by
  unfold Frame.isPartOfTeardown at hfr
  split at hfr
  · rfl
  · rfl
  · next slot env reference =>
    have hnone := s.engines.finalizerCall_answer slot (r := .deleteReference env reference) rfl
    simp only [Frame.resume, engineAnswer, hnone]
    rfl
  · next g =>
    simp only [Frame.resume, afterFinalizer]
    split
    · rfl
    · split <;> simpa [Move.isPartOfTeardown, give, run, Control.isPartOfTeardown,
        Frame.isPartOfTeardown] using hfr
  · simp only [Frame.resume, unregisterFunction]
    split <;> rfl
  · simp at hfr

/-- A thread after a move that belongs to a teardown. -/
theorem closes_of_isPart {m : Move} {above : List Frame} (hm : m.isPartOfTeardown f = true)
    (ha : above.all (Frame.isPartOfTeardown f) = true) :
    Thread.Closes f r below false
      { control := m.control, stack := m.frames ++ (above ++ .thenReply r :: below) } := by
  obtain ⟨hcontrol, hframes⟩ := Bool.and_eq_true_iff.1 hm
  rw [← List.append_assoc]
  exact .own hcontrol (by rw [List.all_append, hframes, ha]; rfl)

/-- A teardown goes on inside the operation that closed the function, or that operation replies. -/
theorem closes_of_step (hth : s.threads.get? t = some th) (hc : th.Closes f r below inCallback)
    (hstep : s.step t = some s') :
    (∃ th', s'.threads.get? t = some th' ∧ ∃ inCallback', th'.Closes f r below inCallback') ∨
      s'.threads.get? t = some { control := .give r, stack := below } := by
  obtain ⟨m, rest, hm, rfl⟩ := exists_moves hstep hth
  rw [threads_apply]
  cases hc with
  | @own control above hc ha =>
    generalize hstack : above ++ .thenReply r :: below = stack at hm
    cases hm with
    | @run c m _ hm =>
      subst hstack
      refine .inl ⟨_, rfl, ?_⟩
      cases c with
      | teardown g =>
        obtain rfl : g = f := by simpa [Control.isPartOfTeardown] using hc
        obtain rfl := Option.some.inj hm
        exact ⟨_, closes_of_isPart (teardown_isPart s g) ha⟩
      | finalizer owner fin env hint =>
        obtain rfl := Option.some.inj hm
        exact ⟨_, closes_of_isPart (finalizer_isPart s owner fin env hint) ha⟩
      | entry p request =>
        cases request with
        | deleteReference env reference =>
          obtain rfl := Option.some.inj hm
          exact ⟨_, closes_of_isPart (entry_isPart s t p env reference) ha⟩
        | _ => simp [Control.isPartOfTeardown] at hc
      | script owner actions =>
        cases owner with
        | clientTask => simp [Control.isPartOfTeardown] at hc
        | callback =>
          cases actions with
          | nil =>
            obtain rfl := Option.some.inj hm
            exact ⟨_, closes_of_isPart (m := s.give .unit) rfl ha⟩
          | cons a actions =>
            -- the addon's callback begins an action of its own
            obtain rfl := Option.some.inj hm
            exact ⟨_, (Thread.Closes.callback ha : Thread.Closes f r below true
              { control := .run (.perform a), stack := [] ++ _ })⟩
      | _ => simp [Control.isPartOfTeardown] at hc
    | give reply fr =>
      cases above with
      | nil =>
        obtain ⟨rfl, rfl⟩ := List.cons_eq_cons.1 hstack
        exact .inr rfl
      | cons fr' above =>
        obtain ⟨rfl, rfl⟩ := List.cons_eq_cons.1 hstack
        obtain ⟨hfr, ha⟩ : fr'.isPartOfTeardown f = true ∧
            above.all (Frame.isPartOfTeardown f) = true := by
          simpa using ha
        exact .inl ⟨_, rfl, _, closes_of_isPart (resume_isPart hfr reply) ha⟩
    | unwind | refuse => simp [Control.isPartOfTeardown] at hc
  | @callback control inside above a actions ha =>
    refine .inl ⟨_, rfl, ?_⟩
    rcases hm.stack_or with ⟨inside', hstack⟩ | ⟨rfl, ⟨reply, -, rfl⟩ | ⟨-, rfl⟩⟩
    · rw [hstack]
      exact ⟨true, .callback ha⟩
    · exact ⟨false, .own rfl ha⟩
    · exact ⟨false, .own rfl ha⟩

/-- A teardown inside the operation that closed the function waits for nothing but the addon's
callbacks. -/
theorem isSome_step_of_closes (hrunning : s.halted = false) (hth : s.threads.get? t = some th)
    (hc : th.Closes f r below false) : (s.step t).isSome = true := by
  cases hc with
  | @own control above hc ha =>
    cases control with
    | run c =>
      rw [step_eq_map hrunning hth, Option.isSome_map]
      cases c with
      | script owner actions => cases actions <;> rfl
      | teardown | finalizer | entry => rfl
      | _ => simp [Control.isPartOfTeardown] at hc
    | give reply =>
      cases above <;> exact (step_give hrunning hth) ▸ rfl
    | fail => simp [Control.isPartOfTeardown] at hc

/-! ### The release -/

/-- Closing replies, or tears the function down first. -/
theorem closeThen_replies (s : Session) (t : ThreadId) (f : HandleId) (r : Reply)
    (below : List Frame) :
    ({ control := (s.closeThen t f r).control, stack := (s.closeThen t f r).frames ++ below } :
          Thread)
        = { control := .give r, stack := below } ∨
      ({ control := (s.closeThen t f r).control, stack := (s.closeThen t f r).frames ++ below } :
          Thread)
        = { control := .run (.teardown f), stack := .thenReply r :: below } := by
  unfold closeThen
  split
  · exact .inl rfl
  · split
    · exact .inl rfl
    · dsimp only
      split
      · exact .inr rfl
      · split
        · exact .inl rfl
        · exact .inr rfl

/-- A function that closes, and what is told of it. -/
theorem life_closeThen (hf : s.functions.object? f = some fn) (hopen : fn.finalizeScheduled = false)
    (r : Reply) :
    ((s.closeThen t f r).session.life f).function = some fn.close ∧
      ∃ accepted, ((s.closeThen t f r).session.life f).told
        = (s.life f).told ++ [.closed f, .teardownOffered f accepted] := by
  have hclosed : ((s.modifyFunction f (·.close)).emit (.closed f)).life f
      = ((s.life f).become fn.close).tell [.closed f] := by
    simp [life_modifyFunction_self hf, Event.concerns]
  unfold closeThen
  rw [hf]
  simp only [hopen, Bool.false_eq_true, if_false]
  split
  · refine ⟨?_, false, ?_⟩ <;> simp [hclosed, Event.concerns]
  · next i inv hlive =>
    obtain ⟨o, s', hoffer⟩ : ∃ o s', ((s.modifyFunction f (·.close)).emit (.closed f)).offer t i
        false (.teardown f) = (o, s') := ⟨_, _, rfl⟩
    have hlife := life_of_offer hoffer f
    rw [hoffer]
    rcases offer_eq_of_async hoffer with rfl | rfl
    · refine ⟨?_, true, ?_⟩ <;>
        simp [hlife, hclosed, Offer.isQueued, Task.part?, Life.offer, Event.concerns]
    · refine ⟨?_, false, ?_⟩ <;> simp [hlife, hclosed, Offer.isQueued, Event.concerns]

/-- What a release that aborts an open function does at once. -/
theorem Reachable.release_step (h : s.Reachable) (hrunning : s.halted = false)
    (hth : s.threads.get? t = some { control := .run (.release f .abort), stack := below })
    (hf : s.functions.object? f = some fn) (hopen : fn.closing = false) :
    ∃ s₁, s.step t = some s₁ ∧
      (s₁.threads.get? t = some { control := .give (.outcome (.ok ())), stack := below } ∨
        s₁.threads.get? t = some
          { control := .run (.teardown f), stack := .thenReply (.outcome (.ok ())) :: below }) ∧
      s₁.functions.object? f = some fn.abort.dropHolder.close ∧
      ∃ accepted, s₁.marks f = s.marks f ++ [.aborted, .closed, .teardownOffered accepted] := by
  have hl : (s.life f).function = some fn := hf
  have hscheduled : fn.abort.dropHolder.finalizeScheduled = false :=
    (h.run f id).finalizeScheduled_eq_false hl (.abort hopen)
  -- the session in which the function is aborted, and nobody else knows of it
  obtain ⟨u, hu⟩ : ∃ u, u = ((((s.modifyFunction f fun fn => fn.abort.dropHolder).emit
      (.released f fn.dropHolder.threadCount)).emit (.aborted f)).log .debug
      (functionText f ++ " aborted")) := ⟨_, rfl⟩
  have hlife : u.life f = ((s.life f).become fn.abort.dropHolder).tell
      [.released f fn.dropHolder.threadCount, .aborted f] := by
    rw [hu]
    simp [life_modifyFunction_self hf, Event.concerns]
  have hrelease : s.release t f .abort = u.closeThen t f (.outcome (.ok ())) := by
    simp [release, hf, hopen, hu]
  obtain ⟨hfunction, accepted, htold⟩ := life_closeThen (s := u) (t := t)
    (congrArg Life.function hlife) hscheduled (.outcome (.ok ()))
  refine ⟨_, step_run hrunning hth rfl, ?_, ?_, accepted, ?_⟩
  · rw [threads_apply, hrelease, Option.some_inj, Option.some_inj]
    exact closeThen_replies u t f _ below
  · rw [hrelease]
    exact hfunction
  · have hmarks : ((u.closeThen t f (.outcome (.ok ()))).session.life f).marks f
        = (s.life f).marks f ++ [.aborted, .closed, .teardownOffered accepted] := by
      rw [Life.marks, htold, hlife]
      simp [Event.mark?, Life.marks]
    rw [marks_life, marks_life, ← hrelease] at hmarks
    exact hmarks

/-- A run that goes on is later in the life of every function. -/
theorem Onward.later (ho : s.Onward s') (h : s.Reachable) (f : HandleId) :
    Life.Later f (s.life f) (s'.life f) := by
  induction ho with
  | refl => exact .refl
  | act a _ _ ih => exact ih
  | step t hu _ hstep ih => exact ih.tail ((h.onward hu).lifeStep hstep f)
  | lose i position _ ih => exact ih.tail ⟨_, _, (loseTask_step f i position).1⟩

/-- What becomes of a function that was aborted, and of those who wait for it: `s` is the session
before the release by the thread `t`, `s₁` the one after its first step, and `s'` any later one. -/
structure Aborted (s s₁ s' : Session) (t : ThreadId) (below : List Frame) (f : HandleId)
    (fn fn' : ThreadsafeFunction) : Prop where
  /-- The release has replied `ok`, or a teardown that runs at once comes first.  It waits for
  nothing but callbacks. -/
  reply : s₁.Gives t (.outcome (.ok ())) below s' ∨
    ∃ th inCallback, s'.threads.get? t = some th ∧
      th.Closes f (.outcome (.ok ())) below inCallback ∧
      (inCallback = false → s'.halted = false → (s'.step t).isSome = true)
  /-- Whoever waited for space gets `closing` when it goes on, and it can go on. -/
  producers (u : ThreadId) (data : Word) (stack : List Frame) :
    s.threads.get? u = some { control := .run (.awaitSpace f data), stack := stack } →
      s₁.Gives u (.outcome (.error .closing)) stack s' ∨
      s'.threads.get? u = some { control := .run (.awaitSpace f data), stack := stack } ∧
        (s'.halted = false →
          s'.step u = some (apply (s'.give (.outcome (.error .closing))) u stack))
  /-- Nothing is appended any more. -/
  appended : s'.appendedTo f = s.appendedTo f
  /-- Calls, releases and what adds a holder are refused. -/
  refused : s'.Refused f fn'
  /-- Nothing is handed over after the abort. -/
  handovers : ∃ after, s'.marks f = s.marks f ++ .aborted :: after ∧
    ∀ m ∈ after, m.isHandover = false
  /-- What was queued is taken off without a delivery, or left behind. -/
  left : s'.deliveredFor f = s.deliveredFor f ∧ s.appendedTo f = s'.takenFrom f ++ fn'.queue
  finalizer_le : (s'.marks f).count .finalizerCalled ≤ 1
  /-- The addon's finalizer was called, or a teardown that has yet to call it is queued or under
  way, or was lost. -/
  finalizer_once (data : Word) : fn.finalizer.bind Finalizer.data? = some data →
    (s'.marks f).count .finalizerCalled + (s'.pendingTasks f).count .teardown
      + tally Activity.isFinalizerAhead (s'.doing f) + (s'.marks f).count .teardownLost = 1

/-- A thread that has to reply, or to tear a function down first, has replied, or does so. -/
theorem Onward.gives_or_closes (ho : s.Onward s') (h : s.Reachable)
    (hth : s.threads.get? t = some { control := .give r, stack := below } ∨
      s.threads.get? t = some { control := .run (.teardown f), stack := .thenReply r :: below }) :
    s.Gives t r below s' ∨
      ∃ th inCallback, s'.threads.get? t = some th ∧ th.Closes f r below inCallback ∧
        (inCallback = false → s'.halted = false → (s'.step t).isSome = true) := by
  rcases hth with hth | hth
  · exact .inl ⟨s, .refl, hth, ho⟩
  have hcloses : Thread.Closes f r below false
      { control := .run (.teardown f), stack := .thenReply r :: below } :=
    (Thread.Closes.own (by simp [Control.isPartOfTeardown]) rfl :
      Thread.Closes f r below false { control := .run (.teardown f), stack := [] ++ _ })
  rcases ho.keeps h (t := t) (P := fun th => ∃ inCallback, th.Closes f r below inCallback)
    (Q := fun u => u.threads.get? t = some { control := .give r, stack := below })
    ⟨_, hth, false, hcloses⟩ (by rintro _ ⟨_, _ | _⟩ r' heq <;> simp at heq)
    (fun _ hth ⟨_, hc⟩ hstep => closes_of_step hth hc hstep) with
    ⟨th, hth', inCallback, hc⟩ | ⟨u, hu, hgives, hu'⟩
  · exact .inr ⟨th, inCallback, hth', hc, fun hown hrunning =>
      isSome_step_of_closes hrunning hth' (hown ▸ hc)⟩
  · exact .inl ⟨u, hu, hgives, hu'⟩

/-- A producer that waits for space in the queue of a closing function has got `closing`, or it
waits on and gets it when it goes on. -/
theorem Onward.gives_or_waits (ho : s.Onward s') (h : s.Reachable)
    (hf : s.functions.object? f = some fn) (hclosing : fn.closing = true)
    (hth : s.threads.get? u = some { control := .run (.awaitSpace f data), stack := below }) :
    s.Gives u (.outcome (.error .closing)) below s' ∨
      s'.threads.get? u = some { control := .run (.awaitSpace f data), stack := below } ∧
        (s'.halted = false →
          s'.step u = some (apply (s'.give (.outcome (.error .closing))) u below)) := by
  have hgoes {v : Session} (hv : s.Onward v) (hrunning : v.halted = false)
      (hth : v.threads.get? u = some { control := .run (.awaitSpace f data), stack := below }) :
      v.step u = some (apply (v.give (.outcome (.error .closing))) u below) := by
    obtain ⟨fn', hf', hages⟩ := hv.ages h hf
    exact step_run hrunning hth
      (((h.onward hv).refused hf' (hages.closing hclosing)).awaitSpace u data)
  rcases ho.keeps h (t := u)
    (P := fun th => th = { control := .run (.awaitSpace f data), stack := below })
    (Q := fun v => v.threads.get? u = some
      { control := .give (.outcome (.error .closing)), stack := below })
    ⟨_, hth, rfl⟩ (by rintro _ rfl r heq; simp at heq) (fun hv hth hp hstep => by
      subst hp
      rw [hgoes hv (running_of_step hstep) hth, Option.some_inj] at hstep
      exact .inr (hstep ▸ threads_apply ..)) with ⟨_, hth', rfl⟩ | ⟨v, hv, hgives, hv'⟩
  · exact .inr ⟨hth', fun hrunning => hgoes ho hrunning hth'⟩
  · exact .inl ⟨v, hv, hgives, hv'⟩

/-- A release that aborts an open function closes it for good. -/
theorem Reachable.release_abort (h : s.Reachable) (hrunning : s.halted = false)
    (hrest : s.OthersAtRest t)
    (hth : s.threads.get? t = some { control := .run (.release f .abort), stack := below })
    (hf : s.functions.object? f = some fn) (hopen : fn.closing = false) :
    ∃ s₁, s.step t = some s₁ ∧
      (s₁.threads.get? t = some { control := .give (.outcome (.ok ())), stack := below } ∨
        s₁.threads.get? t = some
          { control := .run (.teardown f), stack := .thenReply (.outcome (.ok ())) :: below }) ∧
      ∀ s', s₁.Onward s' → s'.EnginesSilent →
        ∃ fn', s'.functions.object? f = some fn' ∧ Aborted s s₁ s' t below f fn fn' := by
  obtain ⟨s₁, hstep, hreply, hf₁, accepted, hmarks₁⟩ := h.release_step hrunning hth hf hopen
  refine ⟨s₁, hstep, hreply, fun s' ho hsilent => ?_⟩
  have h₁ : s₁.Reachable := h.step t hrest hstep
  have h' : s'.Reachable := h₁.onward ho
  have hrun : Life.Run f True (s'.life f) (s'.doing f) := h'.run f fun _ => hsilent
  obtain ⟨fn', hf', hages⟩ := ho.ages h₁ hf₁
  have hclosing : fn'.closing = true := hages.closing rfl
  have hl : (s.life f).function = some fn := hf
  have hl₁ : (s₁.life f).function = some fn.abort.dropHolder.close := hf₁
  have hl' : (s'.life f).function = some fn' := hf'
  -- what is told after the release
  obtain ⟨-, ms, hms, hnone⟩ := (ho.later h₁ f).exists_marks (by rw [Life.closing, hl₁]; rfl)
  have hmarks : (s'.life f).marks f
      = s.marks f ++ .aborted :: (.closed :: .teardownOffered accepted :: ms) := by
    rw [hms, marks_life, hmarks₁, List.append_assoc]
    rfl
  have hquiet := hrun.isHandover_after_abort trivial hmarks
  rw [marks_life] at hmarks
  have happended : s'.appendedTo f = s.appendedTo f := by
    rw [Session.appendedTo_eq, Session.appendedTo_eq, hmarks, List.filterMap_append]
    simp [List.filterMap_cons, hnone, Mark.appended?]
  have hdelivered : s'.deliveredFor f = s.deliveredFor f := by
    rw [deliveredFor_eq, deliveredFor_eq, hmarks, List.filterMap_append,
      List.filterMap_cons_none rfl, List.filterMap_eq_nil_iff.2 fun m hm =>
        Mark.delivered?_eq_none_iff.2 (Mark.isHandover_eq_false_iff.1 (hquiet m hm)).1,
      List.append_nil]
  have hdata : (s'.life f).finalizerData? = fn.finalizer.bind Finalizer.data? := by
    rw [(ho.later h₁ f).finalizerData?_eq (by simp [hl₁]), Life.finalizerData?, hl₁]
    rfl
  refine ⟨fn', hf', ?_⟩
  exact
    { reply := ho.gives_or_closes h₁ hreply
      producers := fun u data stack hwaits => by
        have hne : t ≠ u := by
          rintro rfl
          rw [hth] at hwaits
          simp at hwaits
        exact ho.gives_or_waits h₁ hf₁ rfl (h.get?_of_step_of_ne hstep hne hwaits)
      appended := happended
      refused := h'.refused hf' hclosing
      handovers := ⟨_, hmarks, hquiet⟩
      left := by
        have hqueue := hrun.appended_eq
        rw [marks_life, Life.queue, hl'] at hqueue
        refine ⟨hdelivered, ?_⟩
        rw [← happended, Session.appendedTo_eq, takenFrom_eq, hqueue]
        rfl
      finalizer_le := by simpa using hrun.count_finalizerCalled_le
      finalizer_once := fun data hfinalizer => by
        have honce := hrun.finalizer_once (by simp [hdata, hfinalizer])
        rw [marks_life, Life.closing, hl', Option.map_some, Option.getD_some, hclosing] at honce
        exact honce }

/-- A session in which a function is about to be aborted, while an item is queued and a producer
waits for space; the invoker takes no teardown any more. -/
def abortingWhileFull : Session :=
  ((start [] none).during?
    [.createInvoker "queue" (.limited 1),
      .createFunction
        { name := "f", max := 1, threads := 2, callJs := true, finalize := some (.word 9),
          invoker := some "queue" },
      .call (.named "f") (.word 1) .nonBlocking,
      .spawnCall "p" (.named "f") (.word 2) .blocking]
    (.release (.named "f") .abort) 1).get (by decide +kernel)

/-- The same session after the first step of the release. -/
def abortedWhileFull : Session := (abortingWhileFull.step .main).get (by decide +kernel)

/-- The same session after all that follows. -/
def settledAfterAbort : Session := abortedWhileFull.settle 40

theorem release_abort_abortingWhileFull :
    ∃ stack, abortingWhileFull.step .main = some abortedWhileFull ∧
      abortedWhileFull.Gives (.spawned 0) (.outcome (.error .closing)) stack settledAfterAbort ∧
      settledAfterAbort.appendedTo ⟨1⟩ = [1] ∧ settledAfterAbort.deliveredFor ⟨1⟩ = [] ∧
      (settledAfterAbort.marks ⟨1⟩).count .finalizerCalled = 1 := by
  have hreachable : abortingWhileFull.Reachable :=
    (Reachable.start [] none).during? (Option.some_get _).symm
  have hfunction : abortingWhileFull.functions.object? ⟨1⟩ = some _ :=
    (Option.some_get (by decide +kernel)).symm
  have hrest : ∀ u ∈ abortingWhileFull.precedence, u ≠ .main →
      abortingWhileFull.isBusy u = false := by
    decide +kernel
  obtain ⟨main, hmain, haborts⟩ := (Option.any_eq_true ..).1
    (by decide +kernel : (abortingWhileFull.threads.get? .main).any (Thread.aborts ⟨1⟩) = true)
  obtain ⟨below, rfl⟩ := Thread.exists_of_aborts haborts
  obtain ⟨producer, hproducer, hwaits⟩ := (Option.any_eq_true ..).1
    (by decide +kernel :
      (abortingWhileFull.threads.get? (.spawned 0)).any (Thread.waitsFor ⟨1⟩) = true)
  obtain ⟨data, stack, rfl⟩ := Thread.exists_of_waitsFor hwaits
  obtain ⟨s₁, hstep, -, hlater⟩ :=
    hreachable.release_abort (by decide +kernel) hrest hmain hfunction (by decide +kernel)
  obtain rfl : s₁ = abortedWhileFull :=
    Option.some.inj (hstep.symm.trans (Option.some_get (by decide +kernel)).symm)
  have hsilent : settledAfterAbort.EnginesSilent := by
    refine enginesSilent_of_keys ?_
    rw [show settledAfterAbort.scripts = [] from List.isEmpty_iff.1 (by decide +kernel)]
    simp
  obtain ⟨fn', -, haborted⟩ := hlater settledAfterAbort (.settle .refl 40) hsilent
  refine ⟨stack, hstep, (haborted.producers _ _ _ hproducer).resolve_right fun h => ?_,
    haborted.appended.trans (by decide +kernel), haborted.left.1.trans (by decide +kernel), ?_⟩
  · -- the producer does not wait any more
    have hgone :
        (settledAfterAbort.threads.get? (.spawned 0)).any (Thread.waitsFor ⟨1⟩) = false := by
      decide +kernel
    rw [h.1] at hgone
    simp [Thread.waitsFor] at hgone
  · have honce := haborted.finalizer_once 9 (by decide +kernel)
    have hpending : (settledAfterAbort.pendingTasks ⟨1⟩).count .teardown = 0 := by decide +kernel
    have hahead : tally Activity.isFinalizerAhead (settledAfterAbort.doing ⟨1⟩) = 0 := by
      decide +kernel
    have hlost : (settledAfterAbort.marks ⟨1⟩).count .teardownLost = 0 := by decide +kernel
    omega

end Session

end AddonHost
