import AddonHost.Proofs.Handle.Moves

/-!
Handles are unique and never come back.

Five registries share one source of ids.  For as long as handles are not given out twice (there are
`2 ^ 64` of them, and null is none), `Reachable.uniqueHandles` says of any two moments of a run:

* the ids that are given out differ, also as handles, and none is null;
* an object is created under an id that is given out just then, in one registry, and its handle
  resolves in that registry or in none;
* a handle that resolves goes on resolving to the same id until a step that finalizes the function,
  deletes the job, fails to create the wrapped function, removes the hook or drops the multiplexer
  (`Thread.Erases`);
* from then on it resolves in no registry.
-/

namespace AddonHost

namespace Session

variable {s s' : Session} {k : RegistryKind} {id : HandleId} {w : Word}

/-- Somewhere on the way between two sessions of a run, a thread has a cause to make an id stop
resolving, and its step does so. -/
def Loses (s : Session) (k : RegistryKind) (id : HandleId) (s' : Session) : Prop :=
  ∃ (u u' : Session) (t : ThreadId) (th : Thread), s.Onward u ∧ u.threads.get? t = some th ∧
    th.Erases u k id ∧ u.step t = some u' ∧ u.resolved? k id.value = some id ∧
    u'.resolved? k id.value = none ∧ u'.Onward s'

/-- What holds of the handles at two moments of a run. -/
structure UniqueHandles (s s' : Session) : Prop where
  /-- Ids that were given out stay so, and the next one comes after them. -/
  givenOut : s.givenOut <+: s'.givenOut ∧ s'.freshId.2.givenOut = s'.givenOut ++ [s'.freshId.1]
  /-- They have handles of their own, and none is null. -/
  values : (s'.givenOut.map HandleId.value).Nodup ∧ 0 ∉ s'.givenOut.map HandleId.value
  /-- Objects are created in one registry, under ids that are given out. -/
  created (k : RegistryKind) (id : HandleId) : s'.handles.created k id = true →
    id ∈ s'.givenOut ∧ ∀ k', s'.handles.created k' id = true → k' = k
  /-- No object is created under an id that was given out before. -/
  fresh (k : RegistryKind) (id : HandleId) : s'.handles.created k id = true →
    s.handles.created k id = true ∨ id ∉ s.givenOut
  /-- A handle resolves in one registry at most, to the id that it belongs to, whose object was
  created there. -/
  resolved (k : RegistryKind) (w : Word) (id : HandleId) : s'.resolved? k w = some id →
    id.value = w ∧ s'.handles.created k id = true ∧ ∀ k', k' ≠ k → s'.resolved? k' w = none
  /-- It goes on resolving until there is a cause to end that. -/
  lost (k : RegistryKind) (w : Word) (id : HandleId) : s.resolved? k w = some id →
    s'.resolved? k w = some id ∨ s'.resolved? k w = none ∧ s.Loses k id s'
  /-- The handle of an object that is gone resolves in no registry. -/
  gone (k : RegistryKind) (id : HandleId) : s.handles.created k id = true →
    s.resolved? k id.value = none → ∀ k', s'.resolved? k' id.value = none

theorem givenOut_mono (h : s.ids.next ≤ s'.ids.next) : s.givenOut <+: s'.givenOut := by
  obtain ⟨n, hn⟩ := Nat.exists_eq_add_of_le (Nat.sub_le_sub_right h 1)
  rw [givenOut, givenOut, hn, ← List.range'_append_1, List.map_append]
  exact List.prefix_append _ _

theorem givenOut_freshId (hpos : 0 < s.ids.next) :
    s.freshId.2.givenOut = s.givenOut ++ [s.freshId.1] := by
  obtain ⟨n, hn⟩ := Nat.exists_eq_succ_of_ne_zero hpos.ne'
  simp [givenOut, freshId, hn, List.range'_1_concat, Nat.add_comm]

theorem values_givenOut (hpos : 0 < s.ids.next) (hn : s.ids.next ≤ 2 ^ 64) :
    (s.givenOut.map HandleId.value).Nodup ∧ 0 ∉ s.givenOut.map HandleId.value := by
  constructor
  · refine List.Nodup.map_on (fun id hid id' hid' hvalue => ?_) ?_
    · have := ((mem_givenOut hpos).1 hid).2
      have := ((mem_givenOut hpos).1 hid').2
      exact (HandleId.value_inj (by omega) (by omega)).1 hvalue
    · exact (List.nodup_range' ..).map fun _ _ h => HandleId.mk.inj h
  · intro hmem
    obtain ⟨id, hid, hzero⟩ := List.mem_map.1 hmem
    obtain ⟨hlt, hnext⟩ := (mem_givenOut hpos).1 hid
    have hnull := HandleId.isNull_eq_false hlt (by omega)
    simp [HandleId.isNull, hzero] at hnull

/-- The registries at every moment of a run. -/
theorem Reachable.handlesSound (h : s.Reachable) (hn : s.ids.next < 2 ^ 64) : s.handles.Sound := by
  induction h with
  | start vars level =>
    rw [handles_start]
    exact .initial
  | act a _ _ ih => exact ih hn
  | @step u u' t hu _ hstep ih =>
    have hlt : u.ids.next < 2 ^ 64 := (hu.multiplexersStep hstep).nextId_le.trans_lt hn
    obtain ⟨th, -, hhandles⟩ := hu.handlesStep hlt hstep
    exact hhandles.sound (ih hlt)
  | @lose u i position _ ih =>
    have hlt : (u.loseTask i position).handles.nextId < 2 ^ 64 := hn
    rw [handles_loseTask] at hlt ⊢
    exact ih hlt

/-- The registries at two moments of a run. -/
theorem Onward.handlesLater (ho : s.Onward s') (h : s.Reachable) (hn : s'.ids.next < 2 ^ 64) :
    s.handles.Later s'.handles := by
  induction ho with
  | refl => exact .refl _
  | act a _ _ ih => exact ih hn
  | @step u u' t hu _ hstep ih =>
    have hlt := ((h.onward hu).multiplexersStep hstep).nextId_le.trans_lt hn
    obtain ⟨th, -, hhandles⟩ := (h.onward hu).handlesStep hlt hstep
    exact (ih hlt).trans hhandles.later
  | @lose u i position _ ih =>
    have hlt : (u.loseTask i position).handles.nextId < 2 ^ 64 := hn
    rw [handles_loseTask] at hlt ⊢
    exact ih hlt

/-- A handle resolves to the registered id that has it. -/
theorem Reachable.resolved?_iff (h : s.Reachable) (hn : s.ids.next < 2 ^ 64) :
    s.resolved? k w = some id ↔ s.handles.live k id = true ∧ id.value = w :=
  resolved?_eq_some_iff (h.registry_below hn k) hn.le

/-- The handle of an id that was given out resolves to nothing if the id is not registered. -/
theorem Reachable.resolved?_none_iff (h : s.Reachable) (hn : s.ids.next < 2 ^ 64)
    (hid : id.number < s.ids.next) :
    s.resolved? k id.value = none ↔ s.handles.live k id = false := by
  rw [← Bool.not_eq_true, Option.eq_none_iff_forall_ne_some]
  refine ⟨fun hnone hlive => hnone id ((h.resolved?_iff hn).2 ⟨hlive, rfl⟩),
    fun hgone own hown => ?_⟩
  obtain ⟨hlive, hvalue⟩ := (h.resolved?_iff hn).1 hown
  have hsound := h.handlesSound hn
  have hlt : own.number < s.ids.next := (hsound.given k own (hsound.created k own hlive)).2
  rw [(HandleId.value_inj (hlt.trans hn) (hid.trans hn)).1 hvalue] at hlive
  exact hgone hlive

/-- What is registered stays so until there is a cause to end that. -/
theorem Onward.live_or_loses (ho : s.Onward s') (h : s.Reachable) (hn : s'.ids.next < 2 ^ 64)
    (hlive : s.handles.live k id = true) :
    s'.handles.live k id = true ∨ s'.handles.live k id = false ∧ s.Loses k id s' := by
  induction ho with
  | refl => exact .inl hlive
  | @act u a _ hidle ih =>
    refine (ih hn).imp_right fun ⟨hgone, v, v', t, th, hv, hth, hc, hstep, hres, hres', hv'⟩ => ?_
    exact ⟨hgone, v, v', t, th, hv, hth, hc, hstep, hres, hres', hv'.act a hidle⟩
  | @step u u' t hu hrest hstep ih =>
    have hreachable := h.onward hu
    have hlt := (hreachable.multiplexersStep hstep).nextId_le.trans_lt hn
    obtain ⟨th, hth, hhandles⟩ := hreachable.handlesStep hlt hstep
    have hsound := hreachable.handlesSound hlt
    rcases ih hlt with hlive' | ⟨hgone, v, v', t', th', hv, hth', hc, hstep', hres, hres', hv'⟩
    · cases hgone : u'.handles.live k id with
      | true => exact .inl rfl
      | false =>
        have hgiven := (hsound.given k id (hsound.created k id hlive')).2
        have hnone : u'.resolved? k id.value = none :=
          ((hreachable.step t hrest hstep).resolved?_none_iff hn
            (hgiven.trans_le hhandles.later.nextId)).2 hgone
        exact .inr ⟨rfl, u, u', t, th, hu, hth, hhandles.erased_of_live hlive' hgone, hstep,
          (hreachable.resolved?_iff hlt).2 ⟨hlive', rfl⟩, hnone, .refl⟩
    · have hgiven := (hsound.given k id ((hu.handlesLater h hlt).created k id
        ((h.handlesSound ((hu.handlesLater h hlt).nextId.trans_lt hlt)).created k id hlive))).2
      exact .inr ⟨hhandles.later.gone k id hgiven hgone, v, v', t', th', hv, hth', hc, hstep', hres,
        hres', hv'.step t hrest hstep⟩
  | @lose u i position _ ih =>
    have hlt : (u.loseTask i position).handles.nextId < 2 ^ 64 := hn
    rw [handles_loseTask] at hlt ⊢
    refine (ih hlt).imp_right fun ⟨hgone, v, v', t, th, hv, hth, hc, hstep, hres, hres', hv'⟩ => ?_
    exact ⟨hgone, v, v', t, th, hv, hth, hc, hstep, hres, hres', hv'.lose i position⟩

/-- Handles are unique, and they never come back. -/
theorem Reachable.uniqueHandles (h : s.Reachable) (ho : s.Onward s') (hn : s'.ids.next < 2 ^ 64) :
    UniqueHandles s s' := by
  have h' := h.onward ho
  have hlater := ho.handlesLater h hn
  have hlt : s.ids.next < 2 ^ 64 := hlater.nextId.trans_lt hn
  have hsound := h.handlesSound hlt
  have hsound' := h'.handlesSound hn
  constructor
  · exact ⟨givenOut_mono hlater.nextId, givenOut_freshId hsound'.positive⟩
  · exact values_givenOut hsound'.positive hn.le
  · intro k id hc
    exact ⟨(mem_givenOut hsound'.positive).2 (hsound'.given k id hc),
      fun k' hc' => hsound'.unique k k' id hc hc'⟩
  · intro k id hc
    refine (hlater.fresh k id hc).imp_right fun hid hmem => ?_
    exact absurd ((mem_givenOut hsound.positive).1 hmem).2 (Nat.not_lt.2 hid)
  · intro k w id hres
    obtain ⟨hlive, rfl⟩ := (h'.resolved?_iff hn).1 hres
    have hc := hsound'.created k id hlive
    refine ⟨rfl, hc, fun k' hne => ?_⟩
    rw [h'.resolved?_none_iff hn (hsound'.given k id hc).2, ← Bool.not_eq_true]
    exact fun hlive' => hne (hsound'.unique k k' id hc (hsound'.created k' id hlive'))
  · intro k w id hres
    obtain ⟨hlive, rfl⟩ := (h.resolved?_iff hlt).1 hres
    rcases ho.live_or_loses h hn hlive with hlive' | ⟨hgone, hloses⟩
    · exact .inl ((h'.resolved?_iff hn).2 ⟨hlive', rfl⟩)
    · have hgiven := (hsound.given k id (hsound.created k id hlive)).2
      exact .inr ⟨(h'.resolved?_none_iff hn (hgiven.trans_le hlater.nextId)).2 hgone, hloses⟩
  · intro k id hc hnone k'
    have hgiven := (hsound.given k id hc).2
    rw [h'.resolved?_none_iff hn (hgiven.trans_le hlater.nextId)]
    rw [h.resolved?_none_iff hlt hgiven] at hnone
    by_cases hk : k' = k
    · exact hlater.gone k' id hgiven (hk ▸ hnone)
    -- the object was created in another registry, and nothing was or will be under its id here
    rw [← Bool.not_eq_true]
    exact fun hlive => hk (hsound'.unique k k' id (hlater.created k id hc)
      (hsound'.created k' id hlive))

/-- A session with an object in each registry. -/
def allRegistered : Session :=
  ((start [] none).performed?
    [.createFunction { name := "f", threads := 1, callJs := true },
      .createJob "job" (.word 7) (.word 8) false,
      .createHost "host" 0 [.createThreadsafeFunction, .addAsyncCleanupHook] [],
      .createMultiplexer "m" false false,
      .wrap "m" "host" (.word 16) "env",
      .entry "m" .createThreadsafeFunction
        { env := .named "env", callJs := true, threads := .word 1, out := some "function" },
      .entry "m" .addAsyncCleanupHook
        { env := .named "env", hook := true, out := some "hook" }]).get (by decide +kernel)

/-- The same session after all of them were given up, and a new job was created. -/
def allGivenUp : Session :=
  (allRegistered.performed?
    [.release (.named "f") .release, .deleteJob (.named "job"), .dropMultiplexer "m",
      .createJob "next" (.word 7) (.word 8) false]).get (by decide +kernel)

theorem uniqueHandles_allGivenUp :
    (allRegistered.Loses .functions ⟨1⟩ allGivenUp ∧ allRegistered.Loses .jobs ⟨2⟩ allGivenUp ∧
      allRegistered.Loses .envs ⟨3⟩ allGivenUp ∧
      allRegistered.Loses .wrappedFunctions ⟨4⟩ allGivenUp ∧
      allRegistered.Loses .hooks ⟨5⟩ allGivenUp) ∧
      allGivenUp.resolved? .jobs 6 = some ⟨6⟩ ∧ allGivenUp.resolved? .functions 6 = none := by
  have hreachable : allRegistered.Reachable :=
    (Reachable.start [] none).performed? (Option.some_get _).symm
  have honward : allRegistered.Onward allGivenUp :=
    Onward.refl.performed? (Option.some_get _).symm
  have hunique := hreachable.uniqueHandles honward (by decide +kernel)
  have hlost (k : RegistryKind) (id : HandleId)
      (hres : allRegistered.resolved? k id.value = some id)
      (hgone : allGivenUp.resolved? k id.value = none) : allRegistered.Loses k id allGivenUp :=
    ((hunique.lost k id.value id hres).resolve_left (by simp [hgone])).2
  have hnext : allGivenUp.resolved? .jobs 6 = some ⟨6⟩ := by decide +kernel
  refine ⟨⟨hlost _ _ ?_ ?_, hlost _ _ ?_ ?_, hlost _ _ ?_ ?_, hlost _ _ ?_ ?_, hlost _ _ ?_ ?_⟩,
    hnext, (hunique.resolved .jobs 6 ⟨6⟩ hnext).2.2 .functions (by decide)⟩ <;>
    decide +kernel

end Session

end AddonHost
