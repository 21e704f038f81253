import AddonHost.Proofs.Handle.Value
import AddonHost.Proofs.Session.Does

/-!
The moves of a threadsafe function.

Each operation of a threadsafe function is a step of its life: a call and what follows when it has
waited, a release and what follows from it, a dispatch task with its delivery, a teardown, and the
creation.  The proofs read the operation's session off as a change of the life and name the step.
-/

namespace AddonHost

namespace Session

variable {s s' : Session} {t : ThreadId} {below : List Frame} {g : HandleId}
  {fn : ThreadsafeFunction} {own : List Activity}

/-! ### Calls -/

theorem appendItem_does (hs : s.Sane) (hb : guarded below = true)
    (hf : s.functions.object? g = some fn) (hclosing : fn.closing = false)
    (hfull : fn.isFull = false) (hown : Life.Arrives fn own) (data : Word) :
    (s.appendItem t g fn data).Does s t below fun f => if g = f then own else [] := by
  have hl : (s.life g).function = some fn := hf
  have hfollows : Follows (.function g ≠ ·) s
      ((s.modifyFunction g (·.push data)).emit (.appended g data)) := by
    simp [follows_emit, follows_modifyFunction, Event.topic?]
  have hlife : ((s.modifyFunction g (·.push data)).emit (.appended g data)).life g
      = ((s.life g).become (fn.push data)).tell [.appended g data] := by
    simp [life_modifyFunction_self hf, Event.concerns]
  unfold appendItem
  simp only
  split
  · refine give_does hs hb ?_ ?_ _
    · simpa [follows_emit, Event.topic?] using hfollows
    · simpa [hlife, Event.concerns] using Life.Step.appendLost data hl hclosing hfull hown
  · next i inv hlive =>
    have hi := liveInvoker?_eq_some hlive
    obtain ⟨o, s', hoffer⟩ : ∃ o s', ((s.modifyFunction g (·.push data)).emit
        (.appended g data)).offer t i (fn.delivery = .sync) (.drain g) = (o, s') := ⟨_, _, rfl⟩
    have hfollows' : Follows (.function g ≠ ·) s s' :=
      hfollows.trans (.of_offer hoffer fun f hne => by simp [Task.topic?, hne])
    have hlife' := life_of_offer hoffer g
    rw [hoffer]
    cases o with
    | accepted =>
      refine give_does hs hb ?_ ?_ _
      · simpa [follows_emit, Event.topic?] using hfollows'
      · simpa [hlife', hlife, Offer.isQueued, Task.part?, Life.offer, Event.concerns] using
          Life.Step.appendQueued data i hl hclosing hfull hown hi
    | handedBack =>
      refine give_does hs hb ?_ ?_ _
      · simpa [follows_emit, Event.topic?] using hfollows'
      · simpa [hlife', hlife, Offer.isQueued, Event.concerns] using
          Life.Step.appendLost data hl hclosing hfull hown
    | inline =>
      refine run_does hs (by simpa [guarded] using hb) ?_ rfl rfl (fun _ => rfl) ?_ ?_
      · simpa [follows_emit, Event.topic?] using hfollows'
      · intro f hne
        simp [hne, Code.activities, Frame.activities, framesOver]
      · simpa [hlife', hlife, Offer.isQueued, Event.concerns, Code.activities, Frame.activities,
          framesOver, runner?] using Life.Step.appendInline data i hl hclosing hfull hown hi
    | awaited c =>
      refine run_does hs (by simpa [guarded] using hb) ?_ rfl rfl (fun _ => rfl) ?_ ?_
      · simpa [follows_emit, Event.topic?] using hfollows'
      · intro f hne
        simp [Code.activities, Frame.activities, framesOver]
      · simpa [hlife', hlife, Offer.isQueued, Task.part?, Life.offer, Event.concerns,
          Code.activities, Frame.activities, framesOver] using
          Life.Step.appendQueued data i hl hclosing hfull hown hi

theorem admission_eq_wait {mode : CallMode} (h : fn.admission mode = .wait) :
    fn.closing = false ∧ fn.isFull = true := by
  unfold ThreadsafeFunction.admission at h
  grind

/-- A producer lies down. -/
theorem sleep_does (hs : s.Sane) (hb : guarded below = true)
    (hf : s.functions.object? g = some fn)
    (hstep : Life.Step g (s.life g) own ((s.life g).become (fn.sleep t)) [.waiting t])
    (data : Word) :
    ((s.modifyFunction g (·.sleep t)).run (.awaitSpace g data)).Does s t below
      fun f => if g = f then own else [] :=
  run_does hs hb ((follows_modifyFunction (by simp) _).2 (.refl s)) rfl rfl (fun _ => rfl)
    (fun f hne => by simp [Code.activities, framesOver, hne])
    (by simpa [life_modifyFunction_self hf, Code.activities, framesOver] using hstep)

theorem call_does (hs : s.Sane) (hb : guarded below = true) (data : Word) (mode : CallMode) :
    (s.call t g data mode).Does s t below fun _ => [] := by
  unfold call
  split
  · exact (plain_give _).2 (.refl s) |>.does hs hb
  · next fn hf =>
    split
    · exact (plain_give _).2 (.refl s) |>.does hs hb
    · next hmode =>
      obtain ⟨hclosing, hfull⟩ := admission_eq_wait hmode
      have hstep := Life.Step.sleep (f := g) (l := s.life g) t hf hclosing hfull (.inl rfl)
      simpa using sleep_does hs hb hf hstep data
    · next hmode =>
      obtain ⟨haborted, hclosing, hfull⟩ := (fn.admission_eq_append_iff mode).1 hmode
      simpa using appendItem_does hs hb hf hclosing hfull (.inl rfl) data

theorem awaitSpace_does {m : Move} {data : Word} (hs : s.Sane) (hb : guarded below = true)
    (hm : s.awaitSpace t g data = some m) :
    m.Does s t below fun f => if g = f then [.waiting t] else [] := by
  unfold awaitSpace at hm
  split at hm
  · next hf =>
    obtain rfl := Option.some.inj hm
    exact give_does hs hb (.refl s) (.absent _ hf) _
  · next fn hf =>
    split at hm
    · simp at hm
    · next hawake =>
      have hawake : t ∉ fn.sleepers := by simpa using hawake
      split at hm
      · next hclosing =>
        obtain rfl := Option.some.inj hm
        exact give_does hs hb (.refl s) (.giveUp t hf hclosing hawake) _
      · next hclosing =>
        have hclosing : fn.closing = false := by simpa using hclosing
        split at hm
        · next hfull =>
          obtain rfl := Option.some.inj hm
          have hstep :=
            Life.Step.sleep (f := g) (l := s.life g) t hf hclosing hfull (.inr ⟨rfl, hawake⟩)
          exact sleep_does hs hb hf hstep data
        · next hfull =>
          obtain rfl := Option.some.inj hm
          exact appendItem_does hs hb hf hclosing (by simpa using hfull)
            (.inr ⟨t, rfl, hawake⟩) data

/-! ### The way to the end -/

/-- Closing, after a cause of it has changed the function. -/
theorem closeThen_does {fn' : ThreadsafeFunction} {es : List Event} (hs : s.Sane)
    (hb : guarded below = true) (hf : s.functions.object? g = some fn)
    (hc : Life.Cause g fn own fn' es) (h : Follows (.function g ≠ ·) s s')
    (hlife : s'.life g = ((s.life g).become fn').tell es) (r : Reply) :
    (s'.closeThen t g r).Does s t below fun f => if g = f then own else [] := by
  have hl : (s.life g).function = some fn := hf
  have hf' : s'.functions.object? g = some fn' := congrArg Life.function hlife
  have hfollows : Follows (.function g ≠ ·) s ((s'.modifyFunction g (·.close)).emit (.closed g)) := by
    simpa [follows_emit, follows_modifyFunction, Event.topic?] using h
  have hclosed : ((s'.modifyFunction g (·.close)).emit (.closed g)).life g
      = ((s.life g).become fn'.close).tell (es ++ [.closed g]) := by
    simp [life_modifyFunction_self hf', hlife, Event.concerns]
  have hscheduled : fn'.finalizeScheduled = fn.finalizeScheduled ∧ fn'.invoker = fn.invoker := by
    cases hc <;> exact ⟨rfl, rfl⟩
  have hatOnce {s'' : Session} (h'' : Follows (.function g ≠ ·) s s'')
      (hlife'' : s''.life g = ((s.life g).become fn'.close).tell (es ++ [.closed g]))
      (hopen : fn'.finalizeScheduled = false) :
      (((s''.emit (.teardownOffered g false)).log .debug
        ("no dispatcher for " ++ functionText g ++ "; finalizing inline")).run
        (.teardown g) [.thenReply r]).Does s t below fun f => if g = f then own else [] := by
    refine run_does hs (by simpa [guarded] using hb) ?_ rfl rfl (fun _ => rfl) ?_ ?_
    · simpa [follows_emit, Event.topic?] using h''
    · intro f hne
      simp [hne, Code.activities, Frame.activities, framesOver]
    · simpa [hlife'', Event.concerns, Code.activities, Frame.activities, framesOver, runsAtOnce]
        using Life.Step.closeAtOnce hl hc hopen
  unfold closeThen
  rw [hf']
  simp only
  split
  · next hsched =>
    exact give_does hs hb h (by simpa [hlife] using Life.Step.closeAgain hl hc hsched) r
  · next hsched =>
    have hopen : fn'.finalizeScheduled = false := by simpa using hsched
    split
    · exact hatOnce hfollows hclosed hopen
    · next i inv hlive =>
      have hi : fn.invoker = some i := hscheduled.2 ▸ liveInvoker?_eq_some hlive
      obtain ⟨o, s'', hoffer⟩ : ∃ o s'', ((s'.modifyFunction g (·.close)).emit
          (.closed g)).offer t i false (.teardown g) = (o, s'') := ⟨_, _, rfl⟩
      have hfollows' : Follows (.function g ≠ ·) s s'' :=
        hfollows.trans (.of_offer hoffer fun f hne => by simp [Task.topic?, hne])
      have hlife' := life_of_offer hoffer g
      rw [hoffer]
      rcases offer_eq_of_async hoffer with rfl | rfl
      · refine give_does hs hb ?_ ?_ _
        · simpa [follows_emit, Event.topic?] using hfollows'
        · simpa [hlife', hclosed, Offer.isQueued, Task.part?, Life.offer, Event.concerns] using
            Life.Step.closeQueued i hl hc hopen hi
      · exact hatOnce hfollows' (by simpa [Offer.isQueued, hclosed] using hlife') hopen

theorem release_does (hs : s.Sane) (hb : guarded below = true) (mode : ReleaseMode) :
    (s.release t g mode).Does s t below fun _ => [] := by
  unfold release
  split
  · exact (plain_give _).2 (.refl s) |>.does hs hb
  · next fn hf =>
    split
    · exact (plain_give _).2 (.refl s) |>.does hs hb
    · next hclosing =>
      have hclosing : fn.closing = false := by simpa using hclosing
      split
      · have habort : Follows (.function g ≠ ·) s
            ((((s.modifyFunction g fun fn => fn.abort.dropHolder).emit
              (.released g fn.dropHolder.threadCount)).emit (.aborted g)).log .debug
              (functionText g ++ " aborted")) := by
          simp [follows_emit, follows_modifyFunction, Event.topic?]
        simpa using closeThen_does hs hb hf (.abort hclosing) habort
          (by simp [life_modifyFunction_self hf, Event.concerns]) _
      · have hdrop : Follows (.function g ≠ ·) s ((s.modifyFunction g (·.dropHolder)).emit
            (.released g fn.dropHolder.threadCount)) := by
          simp [follows_emit, follows_modifyFunction, Event.topic?]
        have hlife : ((s.modifyFunction g (·.dropHolder)).emit
            (.released g fn.dropHolder.threadCount)).life g
            = ((s.life g).become fn.dropHolder).tell [.released g fn.dropHolder.threadCount] := by
          simp [life_modifyFunction_self hf, Event.concerns]
        simp only
        split
        · next hspent =>
          simpa using closeThen_does hs hb hf (.lastHolder hclosing hspent) hdrop hlife _
        · next hspent =>
          have hspent : fn.dropHolder.isSpent = false := by simpa using hspent
          have hstep := Life.Step.dropHolder (f := g) (l := s.life g) hf hclosing hspent
          rw [← hlife] at hstep
          simpa using give_does hs hb hdrop hstep _

/-! ### Dispatch tasks -/

theorem drain_does (hs : s.Sane) (hb : guarded below = true) :
    (s.drain g).Does s t below fun f => if g = f then [.starting (runner? below)] else [] := by
  unfold drain
  split
  · next hf => exact give_does hs hb (.refl s) (.absent _ hf) _
  · next fn hf =>
    have hl : (s.life g).function = some fn := hf
    have hstep := Life.Step.drain (f := g) (runner? below) hl
    have hfollows : Follows (.function g ≠ ·) s
        ((s.emit (.drainStarted g)).modifyFunction g fun _ => fn.pop.2) := by
      simp [follows_emit, follows_modifyFunction, Event.topic?]
    have hlife : ((s.emit (.drainStarted g)).modifyFunction g fun _ => fn.pop.2).life g
        = ((s.life g).become fn.pop.2).tell [.drainStarted g] := by
      rw [life_modifyFunction_self (s := s.emit (.drainStarted g)) hf]
      simp [Event.concerns]
    cases hpop : fn.pop with
    | mk item fn' =>
      simp only [hpop, Life.takenEvents, Life.deliveries] at hstep hfollows hlife
      cases item with
      | none =>
        refine give_frames_does hs (by simpa [guarded] using hb) rfl (fun _ => rfl) hfollows ?_ ?_ _
        · intro f hne
          simp [hne, framesOver, Frame.activities]
        · simpa [hlife, framesOver, Frame.activities] using hstep
      | some data =>
        have htaken : Follows (.function g ≠ ·) s
            (((s.emit (.drainStarted g)).modifyFunction g fun _ => fn').emit (.taken g data)) := by
          simpa [follows_emit, Event.topic?] using hfollows
        simp only
        split
        · next haborted =>
          refine give_frames_does hs (by simpa [guarded] using hb) rfl (fun _ => rfl) htaken ?_ ?_ _
          · intro f hne
            simp [hne, framesOver, Frame.activities]
          · simpa [hlife, framesOver, Frame.activities, haborted, Event.concerns] using hstep
        · next haborted =>
          refine run_does hs (by simpa [guarded] using hb) htaken rfl rfl (fun _ => rfl) ?_ ?_
          · intro f hne
            simp [hne, framesOver, Frame.activities, Code.activities]
          · simpa [hlife, framesOver, Frame.activities, Code.activities, haborted, Event.concerns,
              runner?] using hstep

theorem afterDrain_does (hs : s.Sane) (hb : guarded below = true) (wasEmpty : Bool) :
    (s.afterDrain t g wasEmpty).Does s t below
      fun f => if g = f then [.draining (runner? below) wasEmpty] else [] := by
  unfold afterDrain
  split
  · next hf => exact give_does hs hb (.refl s) (.absent _ hf) _
  · next fn hf =>
    split
    · next hlast =>
      obtain ⟨⟨rfl, hcount⟩, hclosing⟩ : (wasEmpty = true ∧ fn.threadCount = 0) ∧
          fn.closing = false := by simpa using hlast
      exact closeThen_does hs hb hf (.lastItem _ hclosing hcount) (.refl s)
          (by simp [Life.become, ← hf, life]) _
    · next hlast =>
      refine give_does hs hb (.refl s) (.drained _ wasEmpty hf ?_) _
      simp only [Bool.and_eq_true] at hlast
      grind

/-! ### Deliveries -/

theorem deliverWith_does (hs : s.Sane) (hb : guarded below = true)
    (hf : s.functions.object? g = some fn) (h : Follows (.function g ≠ ·) s s')
    (hlife : s'.life g = s.life g) (func data : Word) :
    (s'.deliverWith g fn func data).Does s t below
      fun f => if g = f then [.delivering (runner? below) data] else [] := by
  have hl : (s.life g).function = some fn := hf
  unfold deliverWith
  simp only
  split
  · next hjs =>
    have hstep := Life.Step.callJs (f := g) (runner? below) func data hl hjs
    refine run_does hs hb (.fire ?_ _) rfl rfl (fun _ => rfl) ?_ ?_
    · simpa [follows_emit, Event.topic?] using h
    · intro f hne
      simp [Code.activities, framesOver]
    · simpa [hlife, Code.activities, framesOver, Event.concerns] using hstep
  · next hjs =>
    have hjs : fn.callJs = false := by simpa using hjs
    split
    · refine run_does hs (by simpa [guarded] using hb) h rfl rfl (fun _ => rfl) ?_ ?_
      · intro f hne
        simp [hne, Code.activities, framesOver, Frame.activities]
      · simpa [hlife, Code.activities, framesOver, Frame.activities] using
          Life.Step.find (f := g) (runner? below) data hl hjs
    · exact give_does hs hb h (by simpa [hlife] using Life.Step.ignore _ data hl hjs) _

theorem deliver_does (hs : s.Sane) (hb : guarded below = true) (data : Word) :
    (s.deliver g data).Does s t below
      fun f => if g = f then [.delivering (runner? below) data] else [] := by
  unfold deliver
  split
  · next hf => exact give_does hs hb (.refl s) (.absent _ hf) _
  · next fn hf =>
    split
    · refine run_does hs (by simpa [guarded] using hb) (.refl s) rfl rfl (fun _ => rfl) ?_ ?_
      · intro f hne
        simp [hne, Code.activities, framesOver, Frame.activities]
      · simpa [Code.activities, framesOver, Frame.activities] using
          Life.Step.aside (f := g) [.delivering (runner? below) data] le_rfl
    · exact deliverWith_does hs hb hf (.refl s) rfl 0 data

theorem afterReference_does (hs : s.Sane) (hb : guarded below = true) (data : Word)
    (r : Response) :
    (s.afterReference g data r).Does s t below
      fun f => if g = f then [.delivering (runner? below) data] else [] := by
  unfold afterReference
  split
  · next hf => exact give_does hs hb (.refl s) (.absent _ hf) _
  · next fn hf =>
    split
    · exact deliverWith_does hs hb hf (.refl s) rfl _ data
    · exact deliverWith_does hs hb hf (by simp) (by simp) 0 data

theorem afterReceiver_does (hs : s.Sane) (hb : guarded below = true) (func : Word)
    (r : Response) :
    (s.afterReceiver g func r).Does s t below
      fun f => if g = f then [.calling (runner? below)] else [] := by
  unfold afterReceiver
  split
  · next hf => exact give_does hs hb (.refl s) (.absent _ hf) _
  · next fn hf =>
    have hl : (s.life g).function = some fn := hf
    refine run_does hs (by simpa [guarded] using hb) ?_ rfl rfl (fun _ => rfl) ?_ ?_
    · simp [follows_emit, Event.topic?]
    · intro f hne
      simp [Code.activities, framesOver, Frame.activities]
    · simpa [Code.activities, framesOver, Frame.activities, Event.concerns] using
        Life.Step.callFunction (f := g) (runner? below) hl

/-! ### Teardowns -/

theorem teardown_does (hs : s.Sane) (hb : guarded below = true) :
    (s.teardown g).Does s t below
      fun f => if g = f then [.ending (runsAtOnce below)] else [] := by
  unfold teardown
  split
  · next hf => exact give_does hs hb (.refl s) (.absent _ hf) _
  · next fn hf =>
    have hl : (s.life g).function = some fn := hf
    have hstep := Life.Step.teardown (f := g) (runsAtOnce below) hl
    have hfollows : Follows (.function g ≠ ·) s (s.emit (.teardownStarted g)) := by
      simp [follows_emit, Event.topic?]
    simp only
    split
    · next hfin =>
      refine give_frames_does hs (by simpa [guarded] using hb) rfl (fun _ => rfl) hfollows ?_ ?_ _
      · intro f hne
        simp [hne, framesOver, Frame.activities]
      · simpa [framesOver, Frame.activities, Event.concerns, Life.finalizersDue, hfin] using hstep
    · next fin hfin =>
      refine run_does hs (by simpa [guarded] using hb) hfollows rfl rfl (fun _ => rfl) ?_ ?_
      · intro f hne
        simp [hne, Code.activities, framesOver, Frame.activities]
      · simpa [Code.activities, framesOver, Frame.activities, Event.concerns, Life.finalizersDue,
          hfin] using hstep

theorem finalizer_does (hs : s.Sane) (hb : guarded below = true) (fin : Finalizer)
    (env hint : Word) :
    (s.finalizer (some g) fin env hint).Does s t below
      fun f => if g = f then [.finalizerDue fin.data?.isSome] else [] := by
  unfold finalizer
  split
  · simp only
    refine run_does hs hb (.fire ?_ _) rfl rfl (fun _ => rfl) ?_ ?_
    · simp [follows_emit, Event.topic?]
    · intro f hne
      simp [Code.activities, framesOver]
    · simpa [Code.activities, framesOver, Event.concerns] using Life.Step.callFinalizer (f := g)
  · refine give_frames_does hs (by simpa [guarded] using hb) rfl (fun _ => rfl) (.refl s) ?_ ?_ _
    · intro f hne
      simp [framesOver, Frame.activities]
    · simpa [framesOver, Frame.activities] using Life.Step.skipFinalizer (f := g)
  · refine run_does hs (by simpa [guarded] using hb) (.refl s) rfl rfl (fun _ => rfl) ?_ ?_
    · intro f hne
      simp [hne, Code.activities, framesOver, Frame.activities]
    · simpa [Code.activities, framesOver, Frame.activities] using
        Life.Step.aside (f := g) [.finalizerDue _] le_rfl

theorem afterFinalizer_does (hs : s.Sane) (hb : guarded below = true) :
    (s.afterFinalizer g).Does s t below
      fun f => if g = f then [.finalizing (runsAtOnce below)] else [] := by
  unfold afterFinalizer
  split
  · next hf => exact give_does hs hb (.refl s) (.absent _ hf) _
  · next fn hf =>
    have hl : (s.life g).function = some fn := hf
    have hstep := Life.Step.finalized (f := g) (runsAtOnce below) hl
    have hfollows : Follows (.function g ≠ ·) s
        (s.modifyFunction g fun fn => { fn with reference := 0 }) := by
      simp [follows_modifyFunction]
    have hlife := life_modifyFunction_self hf fun fn => { fn with reference := 0 }
    simp only
    split
    · refine run_does hs (by simpa [guarded] using hb) hfollows rfl rfl (fun _ => rfl) ?_ ?_
      · intro f hne
        simp [hne, Code.activities, framesOver, Frame.activities]
      · simpa [Code.activities, framesOver, Frame.activities, hlife] using hstep
    · refine give_frames_does hs (by simpa [guarded] using hb) rfl (fun _ => rfl) hfollows ?_ ?_ _
      · intro f hne
        simp [hne, framesOver, Frame.activities]
      · simpa [framesOver, Frame.activities, hlife] using hstep

/-- The life of a function when another object takes its handle, or may have taken it. -/
theorem displace_step {f : HandleId} {registered : Bool} {n : Nat} (hs : s.Sane)
    (own : List Activity) (hne : g ≠ f) (hn : s.ids.next ≤ n) (hg : g.number < n)
    (hreg : registered = (s.functions.owns f && f.value != g.value)) :
    Life.Step f (s.life f) own { s.life f with registered := registered, nextId := n } own := by
  by_cases hv : f.value = g.value
  · obtain rfl : registered = false := by simp [hreg, hv]
    by_cases howns : s.functions.owns f = true
    · refine .displace own hn ?_
      exact HandleId.lt_of_value_eq hne.symm hv ((hs.functions (.inr howns)).2.trans_le hn) hg
    · have hlife : { s.life f with registered := false, nextId := n }
          = { s.life f with nextId := n } := by
        simp [life, howns]
      rw [hlife]
      exact .aside own hn
  · have hv : (f.value != g.value) = true := by simpa using hv
    have hlife : { s.life f with registered := registered, nextId := n }
        = { s.life f with nextId := n } := by
      simp [life, hreg, hv]
    rw [hlife]
    exact .aside own hn

theorem unregisterFunction_does (hs : s.Sane) (hb : guarded below = true) :
    (s.unregisterFunction g).Does s t below
      fun f => if g = f then [.unregistering (runsAtOnce below)] else [] := by
  unfold unregisterFunction
  split
  · next hf => exact give_does hs hb (.refl s) (.absent _ hf) _
  · next fn hf =>
    have hl : (s.life g).function = some fn := hf
    have hfollows : Follows (fun x => ∀ f, x ≠ .function f) s
        ((({ s with functions := s.functions.erase g } : Session).log .debug
          (functionText g ++ " finalized")).emit (.teardownEnded g)) := by
      rw [follows_emit fun x hx => by simpa [Event.topic?] using (hx g).symm, follows_log]
      exact (Follows.refl s).eraseFunction (by simp) g
    refine .of_follows hs hfollows ⟨?_, hb⟩ rfl (fun f => .inr ?_) (fun j => .inl ⟨by simp, rfl⟩)
      (.inl (by simp))
    · simp [give, Control.mayFail]
    · have hlife : ({ s with functions := s.functions.erase g } : Session).life f
          = { s.life f with
              registered := s.functions.owns f && f.value != g.value } := by
        simp only [life, Registry.owns_erase, Registry.object?_erase]
        rfl
      simp only [session_give, life_emit, life_log, hlife, activities_give]
      by_cases hne : g = f
      · subst hne
        simpa [Event.concerns] using Life.Step.unregister (f := g) (runsAtOnce below) hl
      · have hstep := displace_step hs [] hne (le_refl s.ids.next)
          (hs.functions (.inl (by simp [hf]))).2 rfl
        simpa [hne, Event.concerns, life] using hstep

/-! ### Creation -/

theorem registerFunction_does (hs : s.Sane) (hb : guarded below = true) (env reference : Word)
    (spec : FunctionSpec) (delivery : Delivery) (invoker : Option InvokerId) :
    (s.registerFunction env reference spec delivery invoker).Does s t below fun _ => [] := by
  have hn : s.ids.next ≤ s.ids.next + 1 := Nat.le_succ _
  unfold registerFunction freshId
  simp only [IdSource.take]
  refine .of_follows hs (?_ : Follows (fun x => ∀ f, x ≠ .function f) s _) ⟨?_, hb⟩ rfl
    (fun f => .inr ?_) (fun j => .inl ⟨by simp, rfl⟩) (.inl (by simp))
  · rw [session_give, follows_log]
    exact (Follows.refl s).insertFunction (by simp) _
  · simp [give, Control.mayFail]
  · simp only [session_give, life_log, activities_give]
    by_cases hne : (⟨s.ids.next⟩ : HandleId) = f
    · subst hne
      have hstep := Life.Step.create (f := ⟨s.ids.next⟩) (l := s.life ⟨s.ids.next⟩) env reference
        spec delivery invoker hs.object?_next hn
      have hlife : ({ s with
          ids := ⟨s.ids.next + 1⟩
          functions := s.functions.insert ⟨s.ids.next⟩
            (.create env reference spec delivery invoker) } : Session).life ⟨s.ids.next⟩
            = { (s.life ⟨s.ids.next⟩).become (.create env reference spec delivery invoker) with
                registered := true
                nextId := s.ids.next + 1 } := by
        simp only [life, Registry.owns_insert_self, Registry.object?_insert, ↓reduceIte]
        rfl
      rw [hlife]
      exact hstep
    · have hstep := displace_step hs [] hne hn (Nat.lt_succ_self s.ids.next) rfl
      simp only [life, Registry.owns_insert_of_ne _ hne, Registry.object?_insert, if_neg hne]
      exact hstep

theorem createFunction_does (hs : s.Sane) (hb : guarded below = true) (env : Word)
    (spec : FunctionSpec) (delivery : Delivery) (invoker : Option InvokerId) :
    (s.createFunction env spec delivery invoker).Does s t below fun _ => [] := by
  unfold createFunction
  split
  · exact (plain_run _ _).2 ⟨.refl s, rfl, rfl⟩ |>.does hs hb
  · exact registerFunction_does hs hb env 0 spec delivery invoker

theorem afterCreateReference_does (hs : s.Sane) (hb : guarded below = true) (env : Word)
    (spec : FunctionSpec) (delivery : Delivery) (invoker : Option InvokerId) (r : Response) :
    (s.afterCreateReference env spec delivery invoker r).Does s t below fun _ => [] := by
  unfold afterCreateReference
  split
  · exact registerFunction_does hs hb env _ spec delivery invoker
  · exact (plain_fatalError _ _).2 (.refl s) |>.does hs hb

/-! ### Holders and marks -/

theorem follows_acquire (hf : s.functions.object? g = some fn) :
    Follows (.function g ≠ ·) s (s.acquire g fn).2 ∧
      Life.Step g (s.life g) [] ((s.acquire g fn).2.life g) [] := by
  unfold acquire
  split
  · exact ⟨.refl s, .aside [] le_rfl⟩
  · next hclosing =>
    refine ⟨by simp [follows_emit, follows_modifyFunction, Event.topic?], ?_⟩
    have hstep := Life.Step.acquire (f := g) (l := s.life g) hf (by simpa using hclosing)
    simpa [life_modifyFunction_self hf, Event.concerns] using hstep

theorem follows_setReferenced (hf : s.functions.object? g = some fn) (on : Bool) :
    Follows (.function g ≠ ·) s (s.setReferenced g on) ∧
      Life.Step g (s.life g) [] ((s.setReferenced g on).life g) [] := by
  refine ⟨by simp [setReferenced, follows_modifyFunction], ?_⟩
  rw [setReferenced, life_modifyFunction_self hf]
  exact .mark on hf

end Session

end AddonHost
