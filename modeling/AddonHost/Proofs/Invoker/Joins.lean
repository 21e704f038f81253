import AddonHost.Proofs.Invoker.Completions

/-!
What is final.

What an interpreter thread was told is final (`Service.Since`): a thread that was told to stop
starts no task any more, one that has ended does not run again, and one that is waited for stays so.
Therefore it is reported on once: of all who wait for its end, the first to have asked holds the
claim, and it goes on after the end (`Service.Joins`, `Run.joins`).
-/

namespace AddonHost

/-- Whether a duty is to report on an interpreter thread. -/
def Duty.isReport (i : InvokerId) : Duty → Bool
  | joined j => j = i
  | _ => false

namespace Service

open Event

variable {unfailing : Prop} {i j : InvokerId} {t : ThreadId} {l l' : Service}
  {duties : ThreadId → List Duty} {ds ds' : List Duty} {r r' : InterpreterThread}

/-- What stays of an interpreter thread, with what was told. -/
structure Since (i : InvokerId) (es : List Event) (r : InterpreterThread) (es' : List Event)
    (r' : InterpreterThread) : Prop where
  ended : r.phase ≠ .running → r'.phase ≠ .running
  joined : r.joined = true → r'.joined = true
  stopped : r.shutdown = true → r'.shutdown = true
  idle : r.shutdown = true → startedOn i es' = startedOn i es

theorem Since.refl (i : InvokerId) (es : List Event) (r : InterpreterThread) :
    Since i es r es r := ⟨id, id, id, fun _ => rfl⟩

theorem Since.trans {es es' es'' : List Event} {r'' : InterpreterThread} (h : Since i es r es' r')
    (h' : Since i es' r' es'' r'') : Since i es r es'' r'' :=
  ⟨h'.ended ∘ h.ended, h'.joined ∘ h.joined, h'.stopped ∘ h.stopped,
    fun hs => (h'.idle (h.stopped hs)).trans (h.idle hs)⟩

theorem cores_mapThread (hi : l.cores i = some (.thread r))
    (f : InterpreterThread → InterpreterThread) :
    (l.modify i (.mapThread f)).cores i = some (.thread (f r)) := by
  simp [hi, InvokerCore.mapThread]

theorem Step.since (hs : Step unfailing t j (l, ds) (l', ds')) (hi : l.cores i = some (.thread r))
    (hunpumped : .pumping i ∉ ds) :
    ∃ r', l'.cores i = some (.thread r') ∧ Since i l.told r l'.told r' := by
  by_cases hj : j = i
  · subst hj
    cases hs with
    | create hnone => simp [hi] at hnone
    | discard hcore | beginPump hcore => simp [hi] at hcore
    | count => exact ⟨r, by simp [hi, InvokerCore.mapManual], .refl ..⟩
    | accept task hcore | await task hcore =>
      obtain rfl := Option.some.inj (hi.symm.trans hcore)
      exact ⟨_, Function.update_self .., id, id, id, fun _ => by simp [Service.enqueue]⟩
    | inline hcore =>
      obtain rfl := Option.some.inj (hi.symm.trans hcore)
      exact ⟨_, Function.update_self .., id, id, id, fun _ => rfl⟩
    | ranInline | ended | failed => exact ⟨r, hi, id, id, id, fun _ => by simp⟩
    | start hcore hopen =>
      obtain rfl := InvokerCore.thread.inj (Option.some.inj (hi.symm.trans hcore))
      exact ⟨_, Function.update_self .., id, id, id, fun hstop => by simp [hopen] at hstop⟩
    | pump => simp at hunpumped
    | looped => exact ⟨_, cores_mapThread hi _, id, id, id, fun _ => rfl⟩
    | loopFailed => exact ⟨_, cores_mapThread hi _, by simp, id, id, fun _ => rfl⟩
    | drop hcore =>
      obtain rfl := InvokerCore.thread.inj (Option.some.inj (hi.symm.trans hcore))
      exact ⟨_, Function.update_self .., id, id, id, fun _ => by simp [dequeue]⟩
    | exit hcore =>
      obtain rfl := InvokerCore.thread.inj (Option.some.inj (hi.symm.trans hcore))
      exact ⟨_, Function.update_self .., by simp, id, id, fun _ => rfl⟩
    | stop => exact ⟨_, cores_mapThread hi _, id, id, fun _ => rfl, fun _ => rfl⟩
    | join asks hcore =>
      obtain rfl := InvokerCore.thread.inj (Option.some.inj (hi.symm.trans hcore))
      exact ⟨_, Function.update_self .., id, fun _ => rfl, id, fun _ => rfl⟩
    | failedInline | goOn | awaitedEnd | report | endPump => exact ⟨r, hi, .refl ..⟩
  · have ha := hs.apart hj
    exact ⟨r, ha.cores.trans hi, id, id, id, fun _ => ha.started⟩

/-- Who has asked for the report on an interpreter thread. -/
structure Joins (i : InvokerId) (l : Service) (duties : ThreadId → List Duty)
    (asker : Option ThreadId) : Prop where
  claim (t : ThreadId) :
    ((duties t).filter (Duty.isReport i)).length = if asker = some t then 1 else 0
  joined : asker.isSome = true → ∃ r, l.cores i = some (.thread r) ∧ r.joined = true
  ended (t : ThreadId) : .joined i ∈ duties t → l.HasEnded i ∨ .ending i ∈ duties t

variable {asker : Option ThreadId}

/-- Nobody but the asker is about to report. -/
theorem Joins.eq_of_mem (h : Joins i l duties asker) (hmem : .joined i ∈ duties t) :
    asker = some t := by
  by_contra hne
  have hclaim := h.claim t
  rw [if_neg hne, List.length_eq_zero_iff, List.filter_eq_nil_iff] at hclaim
  exact hclaim _ hmem (by simp [Duty.isReport])

/-- A thread changes its duties, and keeps to its claim. -/
theorem Joins.update (h : Joins i l duties asker)
    (hreport : ds.filter (Duty.isReport i) = (duties t).filter (Duty.isReport i))
    (hjoined : asker.isSome = true → ∃ r, l'.cores i = some (.thread r) ∧ r.joined = true)
    (hended : asker.isSome = true → l.HasEnded i → l'.HasEnded i)
    (hending : .ending i ∈ duties t → l'.HasEnded i ∨ .ending i ∈ ds) :
    Joins i l' (Function.update duties t ds) asker := by
  have hmem (hjoined : .joined i ∈ ds) : .joined i ∈ duties t := by
    have hfilter : .joined i ∈ ds.filter (Duty.isReport i) :=
      List.mem_filter.2 ⟨hjoined, by simp [Duty.isReport]⟩
    exact (List.mem_filter.1 (hreport ▸ hfilter)).1
  refine ⟨fun u => ?_, hjoined, fun u hu => ?_⟩
  · by_cases hut : u = t
    · subst hut
      rw [Function.update_self, hreport, h.claim]
    · rw [Function.update_of_ne hut, h.claim]
  · by_cases hut : u = t
    · subst hut
      rw [Function.update_self] at hu ⊢
      have hasker := h.eq_of_mem (hmem hu)
      rcases h.ended u (hmem hu) with hend | hend
      · exact .inl (hended (by simp [hasker]) hend)
      · exact hending hend
    · rw [Function.update_of_ne hut] at hu ⊢
      exact (h.ended u hu).imp_left (hended (by simp [h.eq_of_mem hu]))

/-- Someone waits for the end of an interpreter thread, and asks for its report if `asks`. -/
theorem Joins.join (h : Joins i l duties none) (r : InterpreterThread) (asks : Bool) :
    Joins i (l.set i (.thread { r with joined := true }))
      (Function.update duties t (.ending i :: if asks then .joined i :: duties t else duties t))
      (if asks then some t else none) := by
  have hnone (u : ThreadId) : (duties u).filter (Duty.isReport i) = [] := by
    simpa using h.claim u
  have hnot (u : ThreadId) : .joined i ∉ duties u := fun hmem => by
    simpa using h.eq_of_mem hmem
  refine ⟨fun u => ?_, fun _ => ⟨_, Function.update_self .., rfl⟩, fun u hu => ?_⟩
  · by_cases hut : u = t
    · subst hut
      cases asks <;> simp [Duty.isReport, hnone]
    · cases asks <;> simp [hut, Ne.symm hut, hnone]
  · by_cases hut : u = t
    · subst hut
      simp
    · simp [hut, hnot] at hu

/-- The report is given. -/
theorem Joins.report (h : Joins i l duties asker) (hds : duties t = .joined i :: ds) :
    Joins i l (Function.update duties t ds) none := by
  have hasker : asker = some t := h.eq_of_mem (t := t) (by simp [hds])
  have hnone (u : ThreadId) :
      ((Function.update duties t ds u).filter (Duty.isReport i)).length = 0 := by
    have hclaim := h.claim u
    by_cases hut : u = t
    · subst hut
      rw [hds] at hclaim
      simpa [Duty.isReport, hasker] using hclaim
    · simpa [hut, hasker, Ne.symm hut] using hclaim
  refine ⟨by simpa using hnone, by simp, fun u hu => ?_⟩
  have hzero := hnone u
  rw [List.length_eq_zero_iff, List.filter_eq_nil_iff] at hzero
  exact absurd (by simp [Duty.isReport]) (hzero _ hu)

/-- An interpreter thread that has ended stays so. -/
theorem Step.hasEnded (hs : Step unfailing t j (l, ds) (l', ds'))
    (hi : l.cores i = some (.thread r)) (hunpumped : .pumping i ∉ ds) (h : l.HasEnded i) :
    l'.HasEnded i := by
  obtain ⟨r', hr', hsince⟩ := hs.since hi hunpumped
  intro r'' hr''
  obtain rfl := InvokerCore.thread.inj (Option.some.inj (hr'.symm.trans hr''))
  exact hsince.ended (h r hi)

/-- A thread gives up waiting for an end only after the end. -/
theorem Step.ending (hs : Step unfailing t j (l, ds) (l', ds')) (h : .ending i ∈ ds) :
    l'.HasEnded i ∨ .ending i ∈ ds' := by
  cases hs with
  | awaitedEnd hi =>
    rcases List.mem_cons.1 h with heq | h
    · obtain rfl := Duty.ending.inj heq
      exact .inl hi
    · exact .inr h
  | join asks => cases asks <;> simp [h]
  | _ => simp_all

theorem Joins.step (h : Joins i l duties asker)
    (hunpumped : ∀ r, l.cores i = some (.thread r) → .pumping i ∉ duties t)
    (hs : Step unfailing t j (l, duties t) (l', ds)) :
    ∃ asker', Joins i l' (Function.update duties t ds) asker' := by
  have hthread (hasker : asker.isSome = true) :
      ∃ r, l.cores i = some (.thread r) ∧ r.joined = true := h.joined hasker
  have hjoined (hasker : asker.isSome = true) :
      ∃ r, l'.cores i = some (.thread r) ∧ r.joined = true := by
    obtain ⟨r, hi, hr⟩ := hthread hasker
    obtain ⟨r', hi', hsince⟩ := hs.since hi (hunpumped r hi)
    exact ⟨r', hi', hsince.joined hr⟩
  have hended (hasker : asker.isSome = true) (hend : l.HasEnded i) : l'.HasEnded i := by
    obtain ⟨r, hi, -⟩ := hthread hasker
    exact hs.hasEnded hi (hunpumped r hi) hend
  have hkeep (hreport : ds.filter (Duty.isReport i) = (duties t).filter (Duty.isReport i)) :
      ∃ asker', Joins i l' (Function.update duties t ds) asker' :=
    ⟨asker, h.update hreport hjoined hended hs.ending⟩
  generalize hds : duties t = ds₀ at hs hkeep
  cases hs with
  | @join _ _ r asks hi _ hr =>
    by_cases hj : j = i
    · subst hj
      obtain rfl : asker = none := by
        cases asker with
        | none => rfl
        | some u =>
          obtain ⟨r', hi', hr'⟩ := hthread rfl
          obtain rfl := InvokerCore.thread.inj (Option.some.inj (hi.symm.trans hi'))
          simp [hr] at hr'
      have hjoin := h.join (t := t) r asks
      rw [hds] at hjoin
      exact ⟨_, hjoin⟩
    · exact hkeep (by cases asks <;> simp [Duty.isReport, hj])
  | report =>
    by_cases hj : j = i
    · subst hj
      exact ⟨none, h.report hds⟩
    · exact hkeep (by simp [Duty.isReport, hj])
  | _ => exact hkeep (by simp [Duty.isReport])

theorem Run.unpumped (h : Run unfailing l duties) (hi : l.cores i = some (.thread r))
    (t : ThreadId) : .pumping i ∉ duties t := by
  obtain ⟨r', stage, -, -, hp⟩ := Run.kept h hi
  exact hp.unpumped t

/-- In every run, one thread at most has a claim to the report on an interpreter thread, and it goes
on after the end. -/
theorem Run.joins (h : Run unfailing l duties) (i : InvokerId) :
    ∃ asker, Joins i l duties asker := by
  induction h with
  | refl => exact ⟨none, by simp, by simp, by simp⟩
  | next hr hn ih =>
    obtain ⟨asker, ih⟩ := ih
    cases hn with
    | @step l l' duties t j ds hs => exact ih.step (fun r hi => Run.unpumped hr hi t) hs
    | @spawn l duties j name hj hnil =>
      have hne (hasker : asker.isSome = true) : i ≠ j := by
        rintro rfl
        obtain ⟨r, hi, -⟩ := ih.joined hasker
        simp [hj] at hi
      refine ⟨asker, ih.update (by simp [hnil, Duty.isReport]) (fun hasker => ?_)
        (fun hasker hend r hi => ?_) (by simp [hnil])⟩
      · simpa [hne hasker] using ih.joined hasker
      · exact hend r (by simpa [hne hasker] using hi)

/-- What an interpreter thread was told stays so when a run goes on. -/
theorem Onward.since {duties' : ThreadId → List Duty} (h : Onward unfailing l duties l' duties')
    (hrun : Run unfailing l duties) (hi : l.cores i = some (.thread r)) :
    ∃ r', l'.cores i = some (.thread r') ∧ Since i l.told r l'.told r' := by
  induction h with
  | refl => exact ⟨r, hi, .refl ..⟩
  | next ho hn ih =>
    obtain ⟨r', hr', hsince⟩ := ih
    cases hn with
    | @step l' l'' duties' t j ds hs =>
      obtain ⟨r'', hr'', hsince'⟩ := hs.since hr' (Run.unpumped (hrun.trans ho) hr' t)
      exact ⟨r'', hr'', hsince.trans hsince'⟩
    | @spawn l' duties' j name hj hnil =>
      have hne : i ≠ j := by
        rintro rfl
        simp [hj] at hr'
      exact ⟨r', by simpa [hne] using hr', hsince.trans ⟨id, id, id, fun _ => rfl⟩⟩

/-- Nobody asks for the report on an interpreter thread that someone waits for already. -/
theorem Step.report_mem (hs : Step unfailing t j (l, ds) (l', ds'))
    (hi : l.cores i = some (.thread r)) (hr : r.joined = true) (hmem : .joined i ∈ ds') :
    .joined i ∈ ds := by
  cases hs with
  | @join _ _ r' asks hj hstop hr' =>
    by_cases hne : j = i
    · subst hne
      obtain rfl := InvokerCore.thread.inj (Option.some.inj (hi.symm.trans hj))
      simp [hr] at hr'
    · cases asks <;> simp_all [Ne.symm hne]
  | _ => simp_all

theorem Onward.report_mem {duties' : ThreadId → List Duty}
    (h : Onward unfailing l duties l' duties') (hrun : Run unfailing l duties)
    (hi : l.cores i = some (.thread r)) (hr : r.joined = true) (hmem : .joined i ∈ duties' t) :
    .joined i ∈ duties t := by
  induction h with
  | refl => exact hmem
  | next ho hn ih =>
    obtain ⟨r', hr', hsince⟩ := ho.since hrun hi
    refine ih ?_
    cases hn with
    | @step l' l'' duties' u j ds hs =>
      by_cases hu : t = u
      · subst hu
        exact hs.report_mem hr' (hsince.joined hr) (by simpa using hmem)
      · simpa [hu] using hmem
    | @spawn l' duties' j name hj hnil =>
      by_cases hu : t = .interpreter j
      · subst hu
        simp at hmem
      · simpa [hu] using hmem

end Service

end AddonHost
