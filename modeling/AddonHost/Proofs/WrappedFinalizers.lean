import AddonHost.Proofs.Finalizer.Chronicle
import AddonHost.Proofs.Ownership

/-!
The finalizers of functions that were created through a multiplexer.

A multiplexer gives the host a finalizer of its own, which calls the addon's and then forgets the
wrapped handle.  `Chronicle.finalizer_survives` says of each creation that was forwarded in a run,
whatever hosts, multiplexers and finalizers have done since:

* the host was given the multiplexer's finalizer, around the one that the addon passed, for a handle
  that was reserved for this creation alone, and nobody calls another finalizer for that handle;
* the addon's finalizer is called in it as often as the host calls it, each time with the env and
  the hint that the host passes, and not at all if the addon passed none;
* whenever a finalizer of the addon is called, the addon gets the data that it passed;
* once the host has called it, some thread is still inside it, or the handle does not resolve any
  more and is listed by no env.
-/

namespace AddonHost

/-- The env and the hint with which the multiplexer's finalizer for a handle is called. -/
def FinalizerMark.wrapperCall? (id : HandleId) : FinalizerMark → Option (Word × Word)
  | .called _ ⟨.wrapped id' _, env, hint⟩ => if id' = id then some (env, hint) else none
  | _ => none

namespace Session

variable {s s' : Session} {ms : List FinalizerMark} {id : HandleId}

/-- A wrapped function does not resolve, and no env lists it. -/
def Forgets (s : Session) (id : HandleId) : Prop :=
  s.findWrappedFunction id.value = .error .unknownFunction ∧
    ∀ handle env e, s.wrapped.envs.entry? handle = some (env, e) → id ∉ e.functions

/-- A function that is not live is forgotten. -/
theorem forgets_of_live? (h : s.multiplexers.Owned) (hids : s.ids.next ≤ 2 ^ 64)
    (hid : id.number < s.ids.next) (hlive : s.wrapped.functions.live? id = none) :
    s.Forgets id := by
  have hwrapped := h.wrapped
  refine ⟨?_, fun handle env e he hmem => ?_⟩
  · have hentry : s.wrapped.functions.entry? ⟨id.value.toNat⟩ = none := by
      cases hentry : s.wrapped.functions.entry? ⟨id.value.toNat⟩ with
      | none => rfl
      | some p =>
        obtain ⟨hp, hvalue⟩ := (hwrapped.functions.entry?_eq_some_iff hids).1 hentry
        rw [HandleId.value_toNat] at hvalue
        rw [(hwrapped.functions.value_inj hids (Registry.live?_eq_some_iff.1 hp).1 hid).1 hvalue,
          show s.multiplexers.wrapped = s.wrapped from rfl, hlive] at hp
        cases hp
    rw [findWrappedFunction, Registry.get?, hentry]
    rfl
  · obtain ⟨he, -⟩ := (hwrapped.envs.entry?_eq_some_iff hids).1 he
    obtain ⟨f, hf, -⟩ := Option.map_eq_some_iff.1 ((hwrapped.mem_functions_iff he).1 hmem)
    rw [show s.multiplexers.wrapped = s.wrapped from rfl, hlive] at hf
    cases hf

/-- Whether some thread is inside the multiplexer's finalizer for a handle. -/
def Inside (s : Session) (id : HandleId) : Prop := ∃ p ∈ s.threads, .unwrapped id ∈ p.2.stack

/-- A step leaves a thread inside a multiplexer's finalizer, or erases the function. -/
theorem Kept.inside_step {t : ThreadId} (h : Kept s ms) (hs : s.Reachable)
    (hstep : s.step t = some s') (hinside : s.Inside id) :
    s'.Inside id ∨ s'.wrapped = s.wrapped.eraseFunction id := by
  obtain ⟨th, m, below, before, after, new, hm, -, rfl, -, hbefore, hafter, -⟩ :=
    h.traced.exists_treats hs hstep
  obtain ⟨p, hp, hid⟩ := hinside
  rw [hbefore, List.mem_append, List.mem_cons] at hp
  rcases hp with hp | rfl | hp
  · exact .inl ⟨p, by simp [hafter, hp], hid⟩
  · rcases hm.mem_below (h.shielded (t, th) (by simp [hbefore])) hid with hbelow | ⟨r, -, rfl⟩
    · exact .inl ⟨(t, m.after below), by simp [hafter], List.mem_append_right _ hbelow⟩
    · exact .inr rfl
  · exact .inl ⟨p, by simp [hafter, hp], hid⟩

/-- Once a multiplexer's finalizer was called, some thread is inside it, or the function is not live
any more. -/
theorem Chronicle.inside_or (h : Chronicle s ms) (hids : s.ids.next ≤ 2 ^ 64)
    {caller : Option HandleId} {inner : Option Finalizer} {env hint : Word}
    (hcall : .called caller ⟨.wrapped id inner, env, hint⟩ ∈ ms) :
    s.Inside id ∨ s.wrapped.functions.live? id = none := by
  induction h with
  | start => cases hcall
  | @act s ms a hc hidle ih =>
    refine (ih hids hcall).imp_left fun ⟨p, hp, hid⟩ => ?_
    obtain ⟨before, after, r, hbefore, hafter⟩ := hidle.exists_threads a
    rw [hbefore, List.mem_append, List.mem_cons] at hp
    rcases hp with hp | rfl | hp
    · exact ⟨p, by simp [hafter, hp], hid⟩
    · cases hid
    · exact ⟨p, by simp [hafter, hp], hid⟩
  | @step s s' ms t hc _ hstep ih =>
    have hreachable := hc.reachable
    have hroute := hreachable.multiplexersStep hstep
    have hids' : s.ids.next ≤ 2 ^ 64 := le_trans hroute.nextId_le hids
    have howned := hreachable.owned hids'
    rcases List.mem_append.1 hcall with hcall | hcall
    · have hid : id.number < s.ids.next :=
        (hc.kept.traced.forwarded _ _ _ (hc.kept.traced.called _ _ hcall _ _ rfl)).1
      rcases ih hids' hcall with hinside | hlive
      · refine (hc.kept.inside_step hreachable hstep hinside).imp_right fun herase => ?_
        rw [herase]
        exact (congrFun (howned.wrapped.live?_eraseFunction hids' hid) id).trans
          (Function.update_self ..)
      · exact .inr ((hroute.fades howned hids).functions id hid hlive)
    · obtain ⟨th, m, below, before, after, new, -, htreats, rfl, hmarks, -, hafter, -⟩ :=
        hc.kept.traced.exists_treats hreachable hstep
      rw [hmarks, mem_finalizerMarks_called] at hcall
      exact .inl ⟨(t, m.after below), by simp [hafter], htreats.mem_stack hcall⟩
  | @lose s ms i position hc ih =>
    have hfollows := follows_loseTask (s := s) i position
    have hwrapped : (s.loseTask i position).wrapped = s.wrapped :=
      congrArg Multiplexers.wrapped (multiplexers_of_follows hfollows rfl)
    rw [Inside, hfollows.threads, hwrapped]
    exact ih (hfollows.ids.trans hids) hcall

/-- A handle is reserved for one creation. -/
theorem Traced.given_inj (h : Traced s ms)
    {given given' substituted substituted' : Option Finalizer}
    (hforward : .forwarded id given substituted ∈ ms)
    (hforward' : .forwarded id given' substituted' ∈ ms) : given = given' := by
  have hdiffer := List.pairwise_filterMap.1 h.handles
  by_contra hne
  have hmarks : FinalizerMark.forwarded id given substituted
      ≠ .forwarded id given' substituted' := fun heq => hne (FinalizerMark.forwarded.inj heq).2.1
  have hsymm : Std.Symm fun mark mark' : FinalizerMark =>
      ∀ own, mark.handle? = some own → ∀ own', mark'.handle? = some own' → own ≠ own' :=
    ⟨fun _ _ h own hown own' hown' => (h own' hown' own hown).symm⟩
  exact hdiffer.forall hforward hforward' hmarks id rfl id rfl rfl

/-- Nobody calls another finalizer for a handle than the one that was given to the host. -/
theorem Traced.inner_eq (h : Traced s ms) {given substituted : Option Finalizer}
    (hforward : .forwarded id given substituted ∈ ms) {caller : Option HandleId}
    {inner : Option Finalizer} {env hint : Word}
    (hcall : .called caller ⟨.wrapped id inner, env, hint⟩ ∈ ms) : inner = given :=
  h.given_inj (h.called _ _ hcall _ _ rfl) hforward

/-- The addon's finalizer survives the forwarding of a creation. -/
theorem Chronicle.finalizer_survives (h : Chronicle s ms) {given substituted : Option Finalizer}
    (hforward : .forwarded id given substituted ∈ ms) :
    substituted = some (.wrapped id given) ∧
    (ms.filterMap FinalizerMark.handle?).count id = 1 ∧
    (∀ caller inner env hint, .called caller ⟨.wrapped id inner, env, hint⟩ ∈ ms →
      inner = given) ∧
    (ms.filterMap (FinalizerMark.callBy? id) ++ s.innerCalls id).Perm
      ((ms.filterMap (FinalizerMark.wrapperCall? id)).filterMap fun call =>
        given.map fun fin => ⟨fin, call.1, call.2⟩) ∧
    s.finalized = (ms.filterMap fun mark => mark.call?.bind FinalizerCall.event?) ∧
    (s.ids.next ≤ 2 ^ 64 → ms.filterMap (FinalizerMark.wrapperCall? id) ≠ [] →
      s.Inside id ∨ s.Forgets id) := by
  have hkept := h.kept
  have hlt := (hkept.traced.forwarded _ _ _ hforward).1
  refine ⟨(hkept.traced.forwarded _ _ _ hforward).2.1, ?_,
    fun _ _ _ _ hcall => hkept.traced.inner_eq hforward hcall, ?_, hkept.finalized,
    fun hids hne => ?_⟩
  · exact List.count_eq_one_of_mem hkept.traced.handles
      (List.mem_filterMap.2 ⟨_, hforward, rfl⟩)
  · -- each call of the multiplexer's finalizer makes one call, if there is something inside it
    have hcalls : (ms.filterMap fun mark => mark.call?.bind (FinalizerCall.inner? id))
        = (ms.filterMap (FinalizerMark.wrapperCall? id)).filterMap fun call =>
          given.map fun fin => ⟨fin, call.1, call.2⟩ := by
      rw [List.filterMap_filterMap]
      refine List.filterMap_congr fun mark hmark => ?_
      rcases mark with _ | ⟨caller, data | ⟨id', inner⟩, env, hint⟩
      · rfl
      · rfl
      · by_cases hid : id' = id
        · subst hid
          obtain rfl := hkept.traced.inner_eq hforward hmark
          cases inner <;>
            simp [FinalizerMark.call?, FinalizerCall.inner?, FinalizerMark.wrapperCall?]
        · cases inner <;>
            simp [FinalizerMark.call?, FinalizerCall.inner?, FinalizerMark.wrapperCall?, hid]
    rw [← hcalls]
    exact Multiset.coe_eq_coe.1 ((Multiset.coe_add ..).symm.trans (hkept.inner id))
  · obtain ⟨call, hcall⟩ := List.exists_mem_of_ne_nil _ hne
    obtain ⟨mark, hmark, hmem⟩ := List.mem_filterMap.1 hcall
    rcases mark with _ | ⟨caller, data | ⟨id', inner⟩, env, hint⟩
    · cases hmem
    · cases hmem
    · obtain ⟨rfl, -⟩ : id' = id ∧ (env, hint) = call := by
        simpa [FinalizerMark.wrapperCall?] using hmem
      exact (h.inside_or hids hmark).imp_right
        (forgets_of_live? (h.reachable.owned hids) hids hlt)

/-- A creation through a multiplexer is about to be forwarded.  The host calls the finalizer before
it answers, and the addon drops the multiplexer in it. -/
def creationDue : Session :=
  ((start [] none).during?
    [.createHost "host" 0 [.createThreadsafeFunction] [],
      .createMultiplexer "left" false false,
      .wrap "left" "host" (.word 16) "left env",
      .setEngine 0 .createThreadsafeFunction .ok .finalize,
      .script (.finalize (.word 21)) [.dropMultiplexer "left"]]
    (.entry "left" .createThreadsafeFunction
      { env := .named "left env", callJs := true, threads := .word 1, finalize := true,
        data := .word 21, context := .word 5, out := some "function" })
    1).get
    (by decide +kernel)

/-- The creation was forwarded. -/
def creationForwarded : Session := (creationDue.step .main).get (by decide +kernel)

/-- The host is about to call the multiplexer's finalizer. -/
def finalizerDue : Session := creationForwarded.settle 3

/-- The host calls it. -/
def finalizerEntered : Session := (finalizerDue.step .main).get (by decide +kernel)

/-- The creation has returned. -/
def createdFinalized : Session := finalizerEntered.settle 20

/-- The run in which the multiplexer is dropped by the finalizer. -/
theorem exists_chronicle_createdFinalized :
    ∃ ms, Chronicle createdFinalized ms ∧
      .forwarded ⟨2⟩ (some (.extension 21)) (some (.wrapped ⟨2⟩ (some (.extension 21)))) ∈ ms ∧
      .called none ⟨.wrapped ⟨2⟩ (some (.extension 21)), 16, 5⟩ ∈ ms := by
  have hreachable : creationDue.Reachable :=
    (Reachable.start [] none).during? (Option.some_get _).symm
  have hforward : creationDue.step .main = some creationForwarded := (Option.some_get _).symm
  have hcall : finalizerDue.step .main = some finalizerEntered := (Option.some_get _).symm
  have hforwarded :
      .forwarded ⟨2⟩ (some (.extension 21)) (some (.wrapped ⟨2⟩ (some (.extension 21))))
        ∈ creationDue.finalizerMarks creationForwarded .main := by
    decide +kernel
  have hcalled : .called none ⟨.wrapped ⟨2⟩ (some (.extension 21)), 16, 5⟩
      ∈ finalizerDue.finalizerMarks finalizerEntered .main := by
    decide +kernel
  obtain ⟨ms, hms⟩ := hreachable.exists_chronicle
  obtain ⟨ms', hdue⟩ :=
    (hms.step .main (by decide +kernel) hforward).onward (Onward.refl.settle 3)
  obtain ⟨ms'', hcreated⟩ :=
    (hdue.step .main (by decide +kernel) hcall).onward (Onward.refl.settle 20)
  refine ⟨_, hcreated, ?_, List.mem_append_left _ (List.mem_append_right _ hcalled)⟩
  simp only [List.mem_append]
  exact .inl (.inl (.inl (.inr hforwarded)))

theorem finalizer_survives_droppedInFinalizer :
    ∃ ms, Chronicle createdFinalized ms ∧
      .forwarded ⟨2⟩ (some (.extension 21)) (some (.wrapped ⟨2⟩ (some (.extension 21)))) ∈ ms ∧
      (ms.filterMap (FinalizerMark.callBy? ⟨2⟩)).Perm
        ((ms.filterMap (FinalizerMark.wrapperCall? ⟨2⟩)).map fun call =>
          ⟨.extension 21, call.1, call.2⟩) ∧
      (16, 5) ∈ ms.filterMap (FinalizerMark.wrapperCall? ⟨2⟩) ∧
      createdFinalized.finalized = [(16, 21, 5)] ∧ createdFinalized.Forgets ⟨2⟩ := by
  obtain ⟨ms, hms, hforwarded, hcalled⟩ := exists_chronicle_createdFinalized
  obtain ⟨-, -, -, hcalls, -, hforgets⟩ := hms.finalizer_survives hforwarded
  have hnone : createdFinalized.innerCalls ⟨2⟩ = [] := by decide +kernel
  have hmem : (16, 5) ∈ ms.filterMap (FinalizerMark.wrapperCall? ⟨2⟩) :=
    List.mem_filterMap.2 ⟨_, hcalled, rfl⟩
  have hstacks : ∀ p ∈ createdFinalized.threads, p.2.stack.isEmpty = true := by decide +kernel
  have houtside : ¬createdFinalized.Inside ⟨2⟩ := fun ⟨p, hp, hid⟩ =>
    List.ne_nil_of_mem hid (List.isEmpty_iff.1 (hstacks p hp))
  refine ⟨ms, hms, hforwarded, ?_, hmem, by decide +kernel,
    (hforgets (by decide +kernel) (List.ne_nil_of_mem hmem)).resolve_left houtside⟩
  rw [hnone, List.append_nil] at hcalls
  simpa using hcalls

end Session

end AddonHost
