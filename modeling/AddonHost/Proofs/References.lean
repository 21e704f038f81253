import AddonHost.Proofs.Reference.Moves

/-!
The reference of a function, from its creation to its deletion.

`Reachable.reference_lifetime` follows one function from the moment that it is to be created, on any
run in which engines do not call back:

* a function with nothing to call never asks the injected host about a reference;
* any other asks for one reference, once, and there is no function before the host has answered; if
  the host has failed, there never is one, and the process is aborted;
* from then on it asks for the value behind that reference only, if the reference is not null, and
  deletes it at most once: in its teardown, after its finalizer;
* after the deletion it does not name the reference again, whatever tasks are still queued.

The creation is followed step by step (`Creation`): while the host has not answered, the thread does
nothing but pass on the call and the response (`Move.Seeks`), and no other thread acts.  Afterwards
the calls of the function are told by the reference that it holds (`Keeps`).
-/

namespace AddonHost

/-- What a function has asked about its reference since it was created: values behind it, and in the
end perhaps its deletion. -/
inductive Session.Keeps (s : Session) (f : HandleId) (env reference : Word)
    (finalizer : Option Finalizer) : List (Request × List Mark) → Prop where
  /-- The function holds the reference, which may be null. -/
  | held {fn : ThreadsafeFunction} {values : List (Request × List Mark)}
      (hf : s.functions.object? f = some fn) (henv : fn.env = env)
      (hfinalizer : fn.finalizer = finalizer) (hreference : fn.reference = reference)
      (hvalues : ∀ a ∈ values, reference ≠ 0 ∧ a.1 = .getReferenceValue env reference true) :
    Keeps s f env reference finalizer values
  /-- The function has deleted the reference. -/
  | deleted {fn : ThreadsafeFunction} {values : List (Request × List Mark)} {told : List Mark}
      (hf : s.functions.object? f = some fn) (hreference : fn.reference = 0)
      (hnonnull : reference ≠ 0)
      (hvalues : ∀ a ∈ values, reference ≠ 0 ∧ a.1 = .getReferenceValue env reference true)
      (hover : FinalizerOver finalizer told) :
    Keeps s f env reference finalizer (values ++ [(.deleteReference env reference, told)])

/-- Whether a thread does nothing but pass on the call that creates a reference, or the response;
`above` are the frames that it has pushed since the call. -/
def Control.seeksReference (above : List Frame) : Control → Bool
  | .give _ | .run (.entry _ (.createReference ..)) => true
  | .run (.script .callback []) =>
    match above with
    | .engineScripted .. :: _ => true
    | _ => false
  | _ => false

/-- Whether a frame does nothing but pass on the response to the call that creates a reference. -/
def Frame.seeksReference : Frame → Bool
  | .forwarded _ | .engineScripted _ (.createReference ..) => true
  | _ => false

/-- A move does nothing but pass on the call that creates a reference, or the response. -/
structure Move.Seeks (s : Session) (m : Move) : Prop where
  control : m.control.seeksReference m.frames = true
  frames : m.frames.all Frame.seeksReference = true
  ids : m.session.ids = s.ids

/-- Whether a thread is about to create a function from a value to call and the data of a
finalizer. -/
def Thread.creates (env func data : Word) (th : Thread) : Bool :=
  match th.control with
  | .run (.createFunction env' spec ..) =>
    env' = env && spec.func = func && spec.finalizer.bind Finalizer.data? = some data
  | _ => false

theorem Thread.exists_of_creates {env func data : Word} {th : Thread}
    (h : th.creates env func data = true) :
    ∃ spec delivery invoker below,
      th = { control := .run (.createFunction env spec delivery invoker), stack := below } ∧
        spec.func = func ∧ spec.finalizer.bind Finalizer.data? = some data := by
  obtain ⟨control, stack⟩ := th
  unfold Thread.creates at h
  split at h
  · next env' spec delivery invoker hc =>
    obtain ⟨⟨rfl, hfunc⟩, hdata⟩ : (env' = env ∧ spec.func = func) ∧ _ := by simpa using h
    exact ⟨spec, delivery, invoker, stack, congrArg (Thread.mk · stack) hc, hfunc, hdata⟩
  · simp at h

namespace Session

variable {s s' u u' : Session} {t v : ThreadId} {f : HandleId} {fn : ThreadsafeFunction}
  {below : List Frame} {env reference : Word} {spec : FunctionSpec} {delivery : Delivery}
  {invoker : Option InvokerId} {finalizer : Option Finalizer} {talk : List Exchange}
  {asks : List (Request × List Mark)}

/-! ### After the creation -/

/-- A function goes on keeping its reference, or deletes it. -/
theorem Keeps.step (hk : u.Keeps f env reference finalizer asks) (h : u.Reachable)
    (hrest : u.OthersAtRest v) (hstep : u.step v = some u') :
    u'.Keeps f env reference finalizer (asks ++ references (u.exchanges v u' f)) := by
  cases hk with
  | @held fn _ hf henv hfinalizer hreference hvalues =>
    -- the step keeps the reference, or it is the end of the finalizer
    obtain ⟨fn', hf', henv', hfinalizer', ⟨hsame, hasked⟩ | ⟨hzero, hover, hasked⟩⟩ :=
      h.reference_step hrest hstep hf
    · refine .held hf' (henv'.trans henv) (hfinalizer'.trans hfinalizer) (hsame.trans hreference) ?_
      rcases hasked with hasked | ⟨hnonnull, hasked⟩
      · simpa [hasked] using hvalues
      · rw [hasked, henv, hreference]
        intro a ha
        rcases List.mem_append.1 ha with ha | ha
        · exact hvalues a ha
        · obtain rfl := List.mem_singleton.1 ha
          exact ⟨hreference ▸ hnonnull, rfl⟩
    · rw [hasked, henv, hreference]
      split_ifs with hnonnull
      · exact .deleted hf' hzero hnonnull hvalues (hfinalizer ▸ hover)
      · refine .held hf' (henv'.trans henv) (hfinalizer'.trans hfinalizer) ?_
          (by simpa using hvalues)
        rw [hzero, not_not.1 hnonnull]
  | @deleted fn values told hf hreference hnonnull hvalues hover =>
    -- the function holds null, and asks for nothing about it
    obtain ⟨fn', hf', -, -, ⟨hsame, hasked⟩ | ⟨hzero, -, hasked⟩⟩ := h.reference_step hrest hstep hf
    · have hnone := hasked.resolve_right fun h => h.1 hreference
      rw [hnone, List.append_nil]
      exact .deleted hf' (hsame.trans hreference) hnonnull hvalues hover
    · rw [hasked, if_neg (by simp [hreference]), List.append_nil]
      exact .deleted hf' hzero hnonnull hvalues hover

/-- What a function keeps depends on the function alone. -/
theorem Keeps.congr (hk : u.Keeps f env reference finalizer asks)
    (hsame : u'.functions.object? f = u.functions.object? f) :
    u'.Keeps f env reference finalizer asks := by
  cases hk with
  | held hf henv hfinalizer hreference hvalues =>
    exact .held (hsame.trans hf) henv hfinalizer hreference hvalues
  | deleted hf hreference hnonnull hvalues hover =>
    exact .deleted (hsame.trans hf) hreference hnonnull hvalues hover

/-- A function without a reference asks for nothing. -/
theorem Keeps.eq_nil (hk : u.Keeps f env 0 finalizer asks) : asks = [] := by
  cases hk with
  | held hf henv hfinalizer hreference hvalues =>
    exact List.eq_nil_iff_forall_not_mem.2 fun a ha => (hvalues a ha).1 rfl
  | deleted hf hreference hnonnull => exact absurd rfl hnonnull

/-! ### The creation -/

/-- An entry that is called to create a reference. -/
theorem entry_seeks (hs : s.EnginesSilent) (t : ThreadId) (p : Provider) (env value count : Word)
    (out : Bool) : (s.entry t p (.createReference env value count out)).Seeks s := by
  unfold entry
  split
  · rw [engineEntry_of_silent hs]
    exact ⟨rfl, rfl, rfl⟩
  · exact ⟨rfl, rfl, rfl⟩
  · split
    · exact ⟨rfl, rfl, rfl⟩
    · exact ⟨rfl, rfl, rfl⟩
    · exact ⟨rfl, rfl, ids_log ..⟩
  · unfold forward
    dsimp only
    split
    · exact ⟨rfl, rfl, ids_log ..⟩
    · next d hd =>
      obtain ⟨env', hrequest⟩ := request_of_route rfl hd
      split
      · exact ⟨rfl, rfl, ids_log ..⟩
      · rw [hrequest]
        exact ⟨rfl, rfl, rfl⟩

/-- A frame that passes on the response to the call that creates a reference. -/
theorem resume_seeks {fr : Frame} (hfr : fr.seeksReference = true) (r : Reply) :
    (fr.resume t s r).Seeks s := by
  unfold Frame.seeksReference at hfr
  split at hfr
  · exact ⟨rfl, rfl, rfl⟩
  · next slot env value count out =>
    have hnone :=
      s.engines.finalizerCall_answer slot (r := .createReference env value count out) rfl
    simp only [Frame.resume, engineAnswer, hnone]
    exact ⟨rfl, rfl, rfl⟩
  · simp at hfr

/-- A frame that passes on a response is no part of a function. -/
theorem function?_of_seeksReference {fr : Frame} (hfr : fr.seeksReference = true)
    (next : HandleId) : fr.function? next = none := by
  unfold Frame.seeksReference at hfr
  split at hfr
  · rfl
  · rfl
  · simp at hfr

/-- A thread that passes on the call or the response does so above any frames. -/
theorem seeksReference_append {control : Control} {above : List Frame}
    (hc : control.seeksReference above = true) (frames : List Frame) :
    control.seeksReference (above ++ frames) = true := by
  unfold Control.seeksReference at hc
  split at hc
  · rfl
  · rfl
  · split at hc
    · rfl
    · simp at hc
  · simp at hc

/-- A thread that passes on the call or the response is in the middle of an operation. -/
theorem atRest_of_seeksReference {control : Control} {above : List Frame}
    (hc : control.seeksReference above = true) (fr : Frame) (below : List Frame) :
    ({ control := control, stack := above ++ fr :: below } : Thread).atRest = false := by
  unfold Control.seeksReference at hc
  split at hc
  · cases above <;> rfl
  · rfl
  · split at hc
    · rfl
    · simp at hc
  · simp at hc

/-- A piece of code that passes on the call that creates a reference. -/
theorem code_seeks (hs : s.EnginesSilent) {c : Code} {above : List Frame} {m : Move}
    (hc : (Control.run c).seeksReference above = true) (hm : c.step t s = some m) :
    m.Seeks s ∧ ∀ next, c.function? next = none := by
  unfold Control.seeksReference at hc
  split at hc
  · next heq => cases heq
  · next p env value count out heq =>
    obtain rfl := Control.run.inj heq
    obtain rfl := Option.some.inj hm
    exact ⟨entry_seeks hs t p env value count out, fun _ => rfl⟩
  · next heq =>
    obtain rfl := Control.run.inj heq
    obtain rfl := Option.some.inj hm
    exact ⟨⟨rfl, rfl, rfl⟩, fun _ => rfl⟩
  · simp at hc

/-- A function that was registered is what it was created from. -/
theorem object?_registerFunction (s : Session) (env reference : Word) (spec : FunctionSpec)
    (delivery : Delivery) (invoker : Option InvokerId) :
    (s.registerFunction env reference spec delivery invoker).session.functions.object? ⟨s.ids.next⟩
      = some (.create env reference spec delivery invoker) := by
  show (Session.life (Session.log _ _ _) _).function = _
  rw [life_log]
  exact (Registry.object?_insert ..).trans (if_pos rfl)

/-- A fatal error leaves the functions alone. -/
theorem object?_fatalError (s : Session) (location message : String) (f : HandleId) :
    (s.fatalError location message).session.functions.object? f = s.functions.object? f := by
  have hplain : (s.fatalError location message).Plain s := (plain_fatalError ..).2 (.refl s)
  exact congrArg Life.function (life_of_follows (f := f) hplain.session trivial)

theorem halted_fatalError (s : Session) (location message : String) :
    (s.fatalError location message).session.halted = true := by
  unfold fatalError
  dsimp only
  split <;> rfl

theorem called?_fatalError (s : Session) (location message : String) :
    (s.fatalError location message).control.called? = none := by
  unfold fatalError
  dsimp only
  split <;> rfl

/-- While a thread is in the middle of an operation, no other thread steps. -/
theorem Reachable.eq_of_othersAtRest (h : u.Reachable) (hrest : u.OthersAtRest v) {th : Thread}
    (hth : u.threads.get? t = some th) (hbusy : th.atRest = false) : v = t := by
  by_contra hne
  have := hrest t (h.sound.sane.placed _ (Assoc.mem_of_get? hth)) (Ne.symm hne)
  simp [isBusy, hth, hbusy] at this

/-- How far a thread has come that creates a function above some frames, and what has passed between
the function and the injected host by then. -/
inductive Creation (s : Session) (t : ThreadId) (below : List Frame) (f : HandleId) (env : Word)
    (spec : FunctionSpec) (delivery : Delivery) (invoker : Option InvokerId) (u : Session) :
    List Exchange → Prop where
  /-- The function is about to be created. -/
  | due
      (hth : u.threads.get? t = some
        { control := .run (.createFunction env spec delivery invoker), stack := below })
      (hnext : (⟨u.ids.next⟩ : HandleId) = f) :
    Creation s t below f env spec delivery invoker u []
  /-- The host was asked for a reference, and has not answered yet. -/
  | sought {told : List Mark} {control : Control} (above : List Frame) (hfunc : spec.func ≠ 0)
      (hth : u.threads.get? t = some
        { control := control, stack := above ++ .referenced env spec delivery invoker :: below })
      (hcontrol : control.seeksReference above = true)
      (habove : above.all Frame.seeksReference = true)
      (hnext : (⟨u.ids.next⟩ : HandleId) = f) :
    Creation s t below f env spec delivery invoker u
      [.asked (.createReference env spec.func 1 true) told]
  /-- The host has created no reference. -/
  | failed {told : List Mark} {response : Response} (hfunc : spec.func ≠ 0)
      (hstatus : response.status ≠ .ok) (hnone : u.functions.object? f = none)
      (hhalted : u.halted = true)
      (hfatal : ∃ v : Session, s.Onward v ∧
        (apply (v.fatalError "" "Failed to create JS function reference") t below).Onward u) :
    Creation s t below f env spec delivery invoker u
      [.asked (.createReference env spec.func 1 true) told, .referred response]
  /-- The function was created with nothing to call. -/
  | plain {talk : List Exchange} (hfunc : spec.func = 0)
      (hkeeps : u.Keeps f env 0 spec.finalizer (references talk)) :
    Creation s t below f env spec delivery invoker u talk
  /-- The function was created with the reference that the host has created. -/
  | created {told : List Mark} {response : Response} (talk : List Exchange) (hfunc : spec.func ≠ 0)
      (hstatus : response.status = .ok)
      (hkeeps : u.Keeps f env (response.out.getD 0) spec.finalizer (references talk)) :
    Creation s t below f env spec delivery invoker u
      (.asked (.createReference env spec.func 1 true) told :: .referred response :: talk)

/-- A function that was registered keeps the reference that it was created with. -/
theorem keeps_registerFunction (hnext : (⟨u.ids.next⟩ : HandleId) = f) (t : ThreadId)
    (below : List Frame) (env reference : Word) (spec : FunctionSpec) (delivery : Delivery)
    (invoker : Option InvokerId) :
    (apply (u.registerFunction env reference spec delivery invoker) t below).Keeps f env reference
      spec.finalizer [] :=
  .held (hnext ▸ object?_registerFunction u env reference spec delivery invoker) rfl rfl rfl
    (by simp)

/-- The first step of a creation. -/
theorem Creation.begin (hth : u.threads.get? t = some
      { control := .run (.createFunction env spec delivery invoker), stack := below })
    (hnext : (⟨u.ids.next⟩ : HandleId) = f) (hstep : u.step t = some u') :
    Creation s t below f env spec delivery invoker u' (u.exchanges t u' f) := by
  have hfirst := step_run (running_of_step hstep) hth rfl
  obtain rfl := Option.some.inj (hstep.symm.trans hfirst)
  rw [exchanges_apply hth (congrArg some hnext)]
  unfold createFunction
  split_ifs with hfunc
  · exact .sought [] hfunc (threads_apply ..) rfl rfl hnext
  · exact .plain (not_not.1 hfunc) (keeps_registerFunction hnext ..)

/-- The host has answered the call that creates the reference. -/
theorem Creation.answer {told : List Mark} {r : Reply} (ho : s.Onward u) (h : u.Reachable)
    (hfunc : spec.func ≠ 0)
    (hth : u.threads.get? t = some
      { control := .give r, stack := .referenced env spec delivery invoker :: below })
    (hnext : (⟨u.ids.next⟩ : HandleId) = f) (hstep : u.step t = some u') :
    Creation s t below f env spec delivery invoker u'
      ([.asked (.createReference env spec.func 1 true) told] ++ u.exchanges t u' f) := by
  have hanswer := step_give (running_of_step hstep) hth
  obtain rfl := Option.some.inj (hstep.symm.trans hanswer)
  rw [exchanges_apply hth (congrArg some hnext)]
  simp only [Frame.resume, afterCreateReference, Thread.referred?]
  split_ifs with hstatus
  · exact .created [] hfunc hstatus (keeps_registerFunction hnext ..)
  · rw [called?_fatalError]
    refine .failed hfunc hstatus ?_ (halted_fatalError ..) ⟨u, ho, .refl⟩
    exact (object?_fatalError ..).trans (hnext ▸ h.sound.sane.object?_next)

/-- A thread that waits for the host to create a reference passes the call on, or the response. -/
theorem Creation.await {told : List Mark} {control : Control} {above : List Frame}
    (ho : s.Onward u) (h : u.Reachable) (hs : u.EnginesSilent) (hfunc : spec.func ≠ 0)
    (hth : u.threads.get? t = some
      { control := control, stack := above ++ .referenced env spec delivery invoker :: below })
    (hcontrol : control.seeksReference above = true)
    (habove : above.all Frame.seeksReference = true)
    (hnext : (⟨u.ids.next⟩ : HandleId) = f) (hstep : u.step t = some u') :
    Creation s t below f env spec delivery invoker u'
      ([.asked (.createReference env spec.func 1 true) told] ++ u.exchanges t u' f) := by
  have hpass {m : Move} {above' : List Frame} (hm : m.Seeks u)
      (ha : above'.all Frame.seeksReference = true) :
      Creation s t below f env spec delivery invoker
        (apply m t (above' ++ .referenced env spec delivery invoker :: below))
        [.asked (.createReference env spec.func 1 true) told] :=
    .sought (m.frames ++ above') hfunc ((threads_apply ..).trans (by simp))
      (seeksReference_append hm.control above') (by rw [List.all_append, hm.frames, ha]; rfl)
      ((congrArg (fun ids : IdSource => (⟨ids.next⟩ : HandleId)) hm.ids).trans hnext)
  obtain ⟨m, rest, hm, rfl⟩ := exists_moves hstep hth
  -- the stack is kept as a variable, so that it can be split at its top frame
  generalize hstack : above ++ .referenced env spec delivery invoker :: below = stack at hm
  cases hm with
  | @run c m _ hm =>
    obtain ⟨hseeks, hfunction⟩ := code_seeks hs hcontrol hm
    rw [exchanges_eq_nil hth (by simp [Thread.function?, hfunction]), List.append_nil, ← hstack]
    exact hpass hseeks habove
  | give r fr =>
    cases above with
    | nil =>
      -- nothing is left above the frame that waits, so this is the answer
      obtain ⟨rfl, rfl⟩ := List.cons_eq_cons.1 hstack
      exact Creation.answer ho h hfunc hth hnext hstep
    | cons fr' above =>
      obtain ⟨rfl, rfl⟩ := List.cons_eq_cons.1 hstack
      obtain ⟨hfr, habove⟩ : fr'.seeksReference = true ∧ above.all Frame.seeksReference = true := by
        simpa using habove
      have hfunction := function?_of_seeksReference hfr ⟨u.ids.next⟩
      rw [exchanges_eq_nil hth (by simp [Thread.function?, hfunction]), List.append_nil]
      exact hpass (resume_seeks hfr r) habove
  | unwind | refuse => simp [Control.seeksReference] at hcontrol

/-- A step of any thread. -/
theorem Creation.step (hc : Creation s t below f env spec delivery invoker u talk)
    (ho : s.Onward u) (h : u.Reachable) (hs : u.EnginesSilent) (hrest : u.OthersAtRest v)
    (hstep : u.step v = some u') :
    Creation s t below f env spec delivery invoker u' (talk ++ u.exchanges v u' f) := by
  cases hc with
  | due hth hnext =>
    obtain rfl := h.eq_of_othersAtRest hrest hth rfl
    exact Creation.begin hth hnext hstep
  | sought above hfunc hth hcontrol habove hnext =>
    obtain rfl := h.eq_of_othersAtRest hrest hth (atRest_of_seeksReference hcontrol ..)
    exact Creation.await ho h hs hfunc hth hcontrol habove hnext hstep
  | failed _ _ _ hhalted => simp [running_of_step hstep] at hhalted
  | plain hfunc hkeeps =>
    exact .plain hfunc (references_append .. ▸ hkeeps.step h hrest hstep)
  | created talk hfunc hstatus hkeeps =>
    exact .created _ hfunc hstatus (references_append .. ▸ hkeeps.step h hrest hstep)

/-- Nothing changes for a thread that has something left to do, and for the functions. -/
theorem Creation.same (hc : Creation s t below f env spec delivery invoker u talk)
    (hthreads : ∀ th, u.threads.get? t = some th → (∀ r, th ≠ { control := .give r }) →
      u'.threads.get? t = some th)
    (hids : u'.ids = u.ids) (hhalted : u'.halted = u.halted)
    (hf : u'.functions.object? f = u.functions.object? f)
    (hon : ∀ u₀ : Session, u₀.Onward u → u₀.Onward u') :
    Creation s t below f env spec delivery invoker u' talk := by
  cases hc with
  | due hth hnext => exact .due (hthreads _ hth (by simp)) (hids ▸ hnext)
  | sought above hfunc hth hcontrol habove hnext =>
    exact .sought above hfunc (hthreads _ hth (by simp)) hcontrol habove (hids ▸ hnext)
  | failed hfunc hstatus hnone hhalted' hfatal =>
    obtain ⟨v, hv, hv'⟩ := hfatal
    exact .failed hfunc hstatus (hf.trans hnone) (hhalted.trans hhalted') ⟨v, hv, hon _ hv'⟩
  | plain hfunc hkeeps => exact .plain hfunc (hkeeps.congr hf)
  | created talk hfunc hstatus hkeeps => exact .created talk hfunc hstatus (hkeeps.congr hf)

/-- Losing a task creates nothing and aborts nothing. -/
theorem ids_halted_loseTask (i : InvokerId) (position : Nat) :
    (s.loseTask i position).ids = s.ids ∧ (s.loseTask i position).halted = s.halted := by
  unfold loseTask
  split
  · exact ⟨rfl, rfl⟩
  · split
    · exact ⟨rfl, rfl⟩
    · next sub _ =>
      unfold signal
      cases sub.completion <;> exact ⟨rfl, rfl⟩

/-- A thread that is about to create a function from some specification has come so far by the end
of any run that goes on. -/
theorem Talks.creation (ht : s.Talks f talk s') (h : s.Reachable) (hs : s'.EnginesSilent)
    (hth : s.threads.get? t = some
      { control := .run (.createFunction env spec delivery invoker), stack := below })
    (hnext : (⟨s.ids.next⟩ : HandleId) = f) :
    Creation s t below f env spec delivery invoker s' talk := by
  induction ht with
  | refl => exact .due hth hnext
  | @act talk u a hu hidle ih =>
    refine (ih hs).same (fun th hth hleft => ?_) rfl rfl rfl fun u₀ hu₀ => hu₀.act a hidle
    have hne : .main ≠ t := by
      rintro rfl
      obtain ⟨r, hr⟩ := hidle
      exact hleft r (Option.some.inj (hth.symm.trans hr))
    rw [beginAction, setThread, Assoc.get?_insert, if_neg hne, hth]
  | @step talk u u' v hu hrest hstep ih =>
    have hu' := hu.onward
    have h' := h.onward hu'
    -- engines that are silent in the end were silent all along
    have hs' : u.EnginesSilent := (Onward.refl.step v hrest hstep).silent h' hs
    exact (ih hs').step hu' h' hs' hrest hstep
  | @lose talk u i position hu ih =>
    have h' := h.onward hu.onward
    have hs' : u.EnginesSilent := (Onward.refl.lose i position).silent h' hs
    refine (ih hs').same (fun th hth _ => ?_) ?_ ?_ (loseTask_step f i position).2
      fun u₀ hu₀ => hu₀.lose i position
    · rw [(follows_loseTask i position).threads, hth]
    · exact (ids_halted_loseTask i position).1
    · exact (ids_halted_loseTask i position).2

/-! ### The whole lifetime -/

/-- What a function has asked about the reference that it was created with, by the end of some
run. -/
structure RefersTo (s : Session) (f : HandleId) (env reference : Word)
    (finalizer : Option Finalizer) (asks : List (Request × List Mark)) : Prop where
  /-- It has asked for the value behind the reference, or deleted the reference in its teardown,
  after the addon's finalizer. -/
  named (a : Request × List Mark) (ha : a ∈ asks) : reference ≠ 0 ∧
    (a.1 = .getReferenceValue env reference true ∨
      a.1 = .deleteReference env reference ∧ FinalizerOver finalizer a.2)
  /-- Nothing is asked after the deletion. -/
  before (a : Request × List Mark) (ha : a ∈ asks.dropLast) :
    a.1 = .getReferenceValue env reference true
  /-- A teardown that is over has deleted the reference. -/
  deleted (hreference : reference ≠ 0) (hended : .teardownEnded ∈ s.marks f) :
    ∃ told, (.deleteReference env reference, told) ∈ asks

/-- What a function that is created from a specification, by a thread above some frames, has asked
about a reference in a run from its creation to another session. -/
structure ReferenceLifetime (s : Session) (t : ThreadId) (below : List Frame) (f : HandleId)
    (env : Word) (spec : FunctionSpec) (talk : List Exchange) (s' : Session) : Prop where
  /-- A function with nothing to call asks about no reference. -/
  null (hfunc : spec.func = 0) : references talk = []
  /-- Any other asks for one reference before there is a function; if the host creates none, there
  is none for good, and the thread aborts the process at once. -/
  pending (hfunc : spec.func ≠ 0) (hnone : s'.functions.object? f = none) :
    talk = [] ∨
      (∃ told, talk = [.asked (.createReference env spec.func 1 true) told]) ∨
      ∃ told response, talk = [.asked (.createReference env spec.func 1 true) told,
          .referred response] ∧ response.status ≠ .ok ∧ s'.halted = true ∧
        ∃ u : Session, s.Onward u ∧
          (apply (u.fatalError "" "Failed to create JS function reference") t below).Onward s'
  /-- A function was created with the reference that the host has created, and asks about no
  other. -/
  created (hfunc : spec.func ≠ 0) (hsome : s'.functions.object? f ≠ none) :
    ∃ told response rest, talk = .asked (.createReference env spec.func 1 true) told ::
        .referred response :: rest ∧ response.status = .ok ∧
      RefersTo s' f env (response.out.getD 0) spec.finalizer (references rest)

theorem Keeps.refersTo (hk : u.Keeps f env reference finalizer asks) (h : u.Reachable) :
    RefersTo u f env reference finalizer asks := by
  cases hk with
  | held hf henv hfinalizer hreference hvalues =>
    refine ⟨fun a ha => (hvalues a ha).imp_right .inl,
      fun a ha => (hvalues a (List.mem_of_mem_dropLast ha)).2, fun hnonnull hended => ?_⟩
    -- a teardown that is over has left no reference
    have hzero := (h.run f id).reference_eq_zero (.inr ((marks_life u f).symm ▸ hended))
    have hl : (u.life f).function = _ := hf
    rw [Life.reference, hl, Option.map_some, Option.getD_some, hreference] at hzero
    exact absurd hzero hnonnull
  | @deleted _ values told hf hreference hnonnull hvalues hover =>
    refine ⟨fun a ha => ?_, fun a ha => ?_, fun _ _ => ⟨told, by simp⟩⟩
    · rcases List.mem_append.1 ha with ha | ha
      · exact (hvalues a ha).imp_right .inl
      · obtain rfl := List.mem_singleton.1 ha
        exact ⟨hnonnull, .inr ⟨rfl, hover⟩⟩
    · rw [List.dropLast_concat] at ha
      exact (hvalues a ha).2

/-- A function that keeps a reference was created. -/
theorem Keeps.object?_ne_none (hk : u.Keeps f env reference finalizer asks) :
    u.functions.object? f ≠ none := by
  cases hk with
  | held hf | deleted hf => simp [hf]

/-- A function that is created asks the injected host for one reference, if it has something to
call, then only for the value behind that reference, and deletes it once, after its finalizer. -/
theorem Reachable.reference_lifetime (h : s.Reachable)
    (hth : s.threads.get? t = some
      { control := .run (.createFunction env spec delivery invoker), stack := below })
    (htalk : s.Talks ⟨s.ids.next⟩ talk s') (hsilent : s'.EnginesSilent) :
    ReferenceLifetime s t below ⟨s.ids.next⟩ env spec talk s' := by
  have h' := h.onward htalk.onward
  cases htalk.creation h hsilent hth rfl with
  | due hth' hnext =>
    have hnone := hnext ▸ h'.sound.sane.object?_next
    exact ⟨fun _ => rfl, fun _ _ => .inl rfl, fun _ hsome => absurd hnone hsome⟩
  | sought above hfunc hth' hcontrol habove hnext =>
    have hnone := hnext ▸ h'.sound.sane.object?_next
    exact ⟨fun hnull => absurd hnull hfunc, fun _ _ => .inr (.inl ⟨_, rfl⟩),
      fun _ hsome => absurd hnone hsome⟩
  | failed hfunc hstatus hnone hhalted hfatal =>
    exact ⟨fun hnull => absurd hnull hfunc,
      fun _ _ => .inr (.inr ⟨_, _, rfl, hstatus, hhalted, hfatal⟩),
      fun _ hsome => absurd hnone hsome⟩
  | plain hfunc hkeeps =>
    exact ⟨fun _ => hkeeps.eq_nil, fun hfunc' => absurd hfunc hfunc',
      fun hfunc' => absurd hfunc hfunc'⟩
  | created rest hfunc hstatus hkeeps =>
    exact ⟨fun hnull => absurd hnull hfunc, fun _ hnone => absurd hnone hkeeps.object?_ne_none,
      fun _ _ => ⟨_, _, rest, rfl, hstatus, hkeeps.refersTo h'⟩⟩

/-- The response to the call that has created the reference. -/
def referred? (talk : List Exchange) : Option Response :=
  talk.findSome? fun
    | .referred r => some r
    | .asked .. => none

/-- A session in which a function is about to be created that has something to call and a finalizer;
the invoker takes two tasks and hands every later one back. -/
def creatingWithReference : Session :=
  ((start [] none).during?
    [.createHost "node" 0
        [.createReference, .getReferenceValue, .deleteReference, .getUndefined, .callFunction] [],
      .inject (some "node"),
      .createInvoker "queue" (.limited 2)]
    (.createFunction
      { name := "f", env := .word 1, func := .word 5, finalize := some (.word 9),
        invoker := some "queue" }) 1).get (by decide +kernel)

/-- The function is called twice, delivers one item and is aborted.  Its teardown runs at once, and
then the task that is left.  What passes, and the session at the end. -/
def abortedWithReference : List Exchange × Session :=
  (creatingWithReference.talkingThrough? ⟨1⟩ 60
    [.call (.named "f") (.word 2) .nonBlocking,
      .call (.named "f") (.word 3) .nonBlocking,
      .pump "queue" .one,
      .release (.named "f") .abort,
      .pump "queue" (.drained 0)]).get (by decide +kernel)

theorem reference_lifetime_abortedWithReference :
    (references abortedWithReference.1).map (fun a => a.1.entry)
        = [.createReference, .getReferenceValue, .deleteReference] ∧
      ∃ told, (.deleteReference 1 6, told) ∈ references abortedWithReference.1 ∧
        .finalizerCalled ∈ told := by
  refine ⟨by decide +kernel, ?_⟩
  have hreachable : creatingWithReference.Reachable :=
    (Reachable.start [] none).during? (Option.some_get _).symm
  have htalk : creatingWithReference.Talks ⟨1⟩ ([] ++ abortedWithReference.1)
      abortedWithReference.2 :=
    Talks.refl.talkingThrough? (Option.some_get _).symm
  rw [List.nil_append] at htalk
  have hnext : (⟨creatingWithReference.ids.next⟩ : HandleId) = ⟨1⟩ := by decide +kernel
  have hsilent : abortedWithReference.2.EnginesSilent := by
    refine enginesSilent_of_keys ?_
    rw [show abortedWithReference.2.scripts = [] from List.isEmpty_iff.1 (by decide +kernel)]
    simp
  obtain ⟨main, hmain, hcreates⟩ := (Option.any_eq_true ..).1
    (by decide +kernel :
      (creatingWithReference.threads.get? .main).any (Thread.creates 1 5 9) = true)
  obtain ⟨spec, delivery, invoker, below, rfl, hfunc, hdata⟩ := Thread.exists_of_creates hcreates
  have hlifetime := hreachable.reference_lifetime hmain (hnext ▸ htalk) hsilent
  rw [hnext] at hlifetime
  obtain ⟨_, response, rest, heq, -, hrefers⟩ :=
    hlifetime.created (by rw [hfunc]; decide) (by decide +kernel)
  -- the engine has numbered the reference one above the value
  have hresponse : referred? abortedWithReference.1 = some { status := .ok, out := some 6 } := by
    decide +kernel
  obtain rfl : response = { status := .ok, out := some 6 } := by
    rw [heq] at hresponse
    exact Option.some.inj hresponse
  obtain ⟨told, htold⟩ := hrefers.deleted (by decide) (by decide +kernel)
  refine ⟨told, ?_, ?_⟩
  · rw [heq]
    exact List.mem_cons_of_mem _ htold
  · rcases (hrefers.named _ htold).2 with hvalue | ⟨-, hover⟩
    · simp at hvalue
    · exact hover.called 9 hdata

end Session

end AddonHost
