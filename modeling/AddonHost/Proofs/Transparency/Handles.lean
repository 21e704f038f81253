import AddonHost.Proofs.Transparency.Twin

/-!
Handles in both sessions.

A handle resolves in both sessions, or in none.  A new function or job makes a new pair of handles.
When a function is torn down, its wrapped handle is forgotten first and the raw one right after it;
in between the function is `ending`.
-/

namespace AddonHost

/-- The null handle resolves to nothing. -/
theorem Registry.entry?_null {α : Type*} (r : Registry α) : r.entry? ⟨(0 : Word)⟩ = none :=
  if_pos (by decide)

namespace Registry.Below

variable {α : Type*} {r : Registry α} {n : ℕ} {id : HandleId}

/-- What the handle of an id resolves to that was given out. -/
theorem entry?_value (h : r.Below n) (hn : n ≤ 2 ^ 64) (hid : id.number < n) :
    r.entry? ⟨id.value⟩ = (r.live? id).map fun a => (id, a) := by
  refine Option.ext fun ⟨own, a⟩ => ?_
  rw [h.entry?_eq_some_iff hn, HandleId.value_toNat]
  constructor
  · rintro ⟨hlive, hvalue⟩
    obtain rfl := (h.value_inj hn (live?_eq_some_iff.1 hlive).1 hid).1 hvalue
    simp [hlive]
  · intro hmap
    obtain ⟨a', hlive, heq⟩ := Option.map_eq_some_iff.1 hmap
    obtain ⟨rfl, rfl⟩ := Prod.mk.inj heq
    exact ⟨hlive, rfl⟩

/-- The id that the handle of an id finds that was given out. -/
theorem find?_value (h : r.Below n) (hn : n ≤ 2 ^ 64) (hid : id.number < n) :
    r.find? ⟨id.value⟩ = if r.owns id then some id else none := by
  refine Option.ext fun own => ?_
  rw [h.find?_eq_some_iff hn, HandleId.value_toNat, owns]
  constructor
  · rintro ⟨hmem, hvalue⟩
    obtain rfl := (h.value_inj hn hmem hid).1 hvalue
    simp [hmem]
  · intro hif
    split at hif
    · next hmem =>
      obtain rfl := Option.some.inj hif
      exact ⟨by simpa using hmem, rfl⟩
    · simp at hif

/-- The null handle finds nothing. -/
theorem find?_null (h : r.Below n) (hn : n ≤ 2 ^ 64) : r.find? ⟨(0 : Word)⟩ = none := by
  rw [Option.eq_none_iff_forall_ne_some]
  intro own hfind
  obtain ⟨hmem, hvalue⟩ := (h.find?_eq_some_iff hn).1 hfind
  obtain ⟨hpos, hlt⟩ := h own hmem
  have hnull := HandleId.isNull_eq_false hpos (by omega)
  rw [HandleId.isNull, hvalue, HandleId.value_toNat] at hnull
  simp at hnull

end Registry.Below

namespace Wrapped

variable {m : Wrapped} {n : ℕ} {env : HandleId} {e : WrappedEnv}

/-- Forgetting a function changes the lists of envs alone. -/
theorem Consistent.exists_env_eraseFunction (h : m.Consistent n) (hn : n ≤ 2 ^ 64)
    (he : m.envs.live? env = some e) (id : HandleId) :
    ∃ e', (m.eraseFunction id).envs.live? env = some e' ∧ e'.raw = e.raw ∧ e'.host = e.host := by
  cases hfind : (m.functions.find? id).bind m.functions.object? with
  | none => exact ⟨e, by rw [Wrapped.eraseFunction, hfind]; exact he, rfl, rfl⟩
  | some f =>
    obtain ⟨own, hlive, hvalue⟩ := (h.functions.find?_bind_eq_some_iff hn).1 hfind
    rw [h.eraseFunction_eq hn hlive hvalue, Registry.live?_modify, Function.update_apply]
    split
    · next heq =>
      subst heq
      exact ⟨{ e with functions := e.functions.filter fun k => k.value != own.value }, by rw [he]; rfl,
        rfl, rfl⟩
    · exact ⟨e, he, rfl, rfl⟩

end Wrapped

variable {A : Addon} {past : List Event} {pairs pairs' : List Pair} {hosts : Assoc HostId Host}
  {ending : Option HandleId} {s d : Session} {w f f' j j' : HandleId} {v v' : Word}

/-- A host of the addon is alive. -/
theorem Addon.Served.liveHost (h : A.Served hosts) (hs : s.hosts = hosts) {host : HostId}
    (hhost : A.hosts host) :
    ∃ table, s.liveHost? host = some table ∧
      ∀ e : Entry, e.ofRuntime = true → table.provider? e = some .runtime := by
  obtain ⟨h', hget, hholders, htable⟩ := h host hhost
  exact ⟨h'.table, by simp [Session.liveHost?, hs, hget, hholders], htable⟩

namespace Twin

/-! ### Resolving -/

/-- A wrapped env resolves to the raw env that it stands for. -/
theorem resolveEnv (h : Twin A past pairs hosts ending s d) {name : String} {raw : Word}
    (hkind : A.kind name = .env raw) :
    ∃ own e, s.wrapped.envs.entry? ⟨s.value (.named name)⟩ = some (own, e) ∧
      s.wrapped.envs.live? own = some e ∧ e.raw = raw ∧ A.hosts e.host := by
  obtain ⟨own, e, hlive, hvalue, hraw, hhost⟩ := h.envs hkind
  refine ⟨own, e, ?_, hlive, hraw, hhost⟩
  rw [h.wrapped.envs.entry?_eq_some_iff h.ids, HandleId.value_toNat, hvalue]
  exact ⟨hlive, rfl⟩

/-- The handle of a function resolves in both sessions, or in none. -/
theorem resolveFunction (h : Twin A past pairs hosts none s d)
    (hv : Pair.Match pairs .function v v') :
    s.wrapped.functions.get? ⟨v⟩ = none ∧ d.functions.entry? ⟨v'⟩ = none ∨
      ∃ w f f' fn g, .function w f f' ∈ pairs ∧ s.wrapped.functions.get? ⟨v⟩ = some g ∧
        g.raw = f.value ∧ f.value ≠ 0 ∧ A.hosts g.host ∧
        s.functions.entry? ⟨f.value⟩ = some (f, fn.wrappedAs w) ∧
        d.functions.entry? ⟨v'⟩ = some (f', fn) ∧ d.functions.object? f' = some fn := by
  obtain ⟨rfl, rfl⟩ | ⟨w, f, f', hp, rfl, rfl⟩ := hv
  · exact .inl ⟨by rw [Registry.get?, Registry.entry?_null]; rfl, Registry.entry?_null _⟩
  have hids := h.ids
  have hids' : d.ids.next ≤ 2 ^ 64 := h.ids'.trans hids
  obtain ⟨hw, hf, hf'⟩ := h.known _ hp
  have hagrees := h.functions hp
  obtain ⟨fn, hobject', hobject, -⟩ := hagrees.object
  obtain ⟨env, host, hhost, hlive⟩ := hagrees.live
  have hfunction := h.functionsBelow.entry?_value hids hf.2
  rw [Registry.get?, h.wrapped.functions.entry?_value hids hw.2, hlive,
    h.functionsBelow'.entry?_value hids' hf'.2]
  by_cases howns : s.functions.owns f = true
  · right
    have hnull : f.value ≠ 0 := by
      have := HandleId.isNull_eq_false hf.1 (hf.2.trans_le hids)
      simpa [HandleId.isNull] using this
    refine ⟨w, f, f', fn, { raw := f.value, env := env, host := host }, hp, by simp [howns], rfl,
      hnull, hhost, ?_, ?_, hobject'⟩
    · simp [hfunction, Registry.live?, howns, hobject]
    · simp [Registry.live?, ← hagrees.owns, howns, hobject']
  · left
    simp [Registry.live?, ← hagrees.owns, howns]

/-- No function is registered under a wrapped handle. -/
theorem get?_of_match (h : Twin A past pairs hosts ending s d)
    (hv : Pair.Match pairs .function v v') : s.functions.get? ⟨v⟩ = none := by
  obtain ⟨rfl, -⟩ | ⟨w, f, f', hp, rfl, -⟩ := hv
  · rw [Registry.get?, Registry.entry?_null]
    rfl
  obtain ⟨hw, -, -⟩ := h.known _ hp
  have hforeign : s.functions.owns w = false := by
    simpa [Registry.owns] using (h.functions hp).foreign
  rw [Registry.get?, h.functionsBelow.entry?_value h.ids hw.2]
  simp [Registry.live?, hforeign]

/-! ### Creating functions -/

/-- Envs when the lists of one of them have changed. -/
theorem exists_env_modify (h : Twin A past pairs hosts ending s d) {own : HandleId}
    {g : WrappedEnv → WrappedEnv} (hg : ∀ e, (g e).raw = e.raw ∧ (g e).host = e.host)
    {name : String} {raw : Word} (hkind : A.kind name = .env raw) :
    ∃ own' e, (s.wrapped.envs.modify own g).live? own' = some e ∧
      s.value (.named name) = own'.value ∧ e.raw = raw ∧ A.hosts e.host := by
  obtain ⟨own', e, hlive, hvalue, hraw, hhost⟩ := h.envs hkind
  rw [Registry.live?_modify]
  by_cases heq : own' = own
  · subst heq
    refine ⟨own', g e, by simp [hlive], hvalue, (hg e).1.trans hraw, ?_⟩
    rw [(hg e).2]
    exact hhost
  · exact ⟨own', e, by rw [Function.update_of_ne heq, hlive], hvalue, hraw, hhost⟩

/-- Before a host creates a function, a wrapped handle is reserved for it. -/
theorem reserveFunction (h : Twin A past pairs hosts ending s d) (hids : s.ids.next < 2 ^ 64)
    {own : HandleId} {e : WrappedEnv} (he : s.wrapped.envs.live? own = some e) (host : HostId) :
    Twin A past pairs hosts ending
      { s with
        ids := ⟨s.ids.next + 1⟩
        wrapped := s.wrapped.reserveFunction ⟨s.ids.next⟩ own host } d := by
  have hlive := h.wrapped.functions.live?_insert hids { env := own, host := host }
  refine { h with
    envs := fun {name raw} hkind => h.exists_env_modify
      (g := fun e => { e with functions := e.functions ++ [⟨s.ids.next⟩] }) (fun _ => ⟨rfl, rfl⟩) hkind
    pos := Nat.succ_pos _
    ids := hids
    ids' := h.ids'.trans (Nat.le_succ _)
    known := fun p hp => (h.known p hp).mono (Nat.le_succ _) le_rfl
    wrapped := h.wrapped.reserveFunction h.pos hids he host
    functionsBelow := h.functionsBelow.mono (Nat.le_succ _)
    jobsBelow := h.jobsBelow.mono (Nat.le_succ _)
    functions := fun {w f f'} hp => ?_ }
  have hagrees := h.functions hp
  refine { hagrees with live := ?_ }
  have hne : w ≠ ⟨s.ids.next⟩ := by
    rintro rfl
    exact Nat.lt_irrefl _ (h.known _ hp).1.2
  obtain ⟨env, host', hhost, hw⟩ := hagrees.live
  refine ⟨env, host', hhost, ?_⟩
  rw [← hw]
  exact (congrFun hlive w).trans (Function.update_of_ne hne _ _)

/-- What a new function is to those that there were. -/
theorem agrees_insert (h : Twin A past pairs hosts ending s d) (hids : s.ids.next < 2 ^ 64)
    (fn fn' : ThreadsafeFunction) (hp : .function w f f' ∈ pairs) :
    FunctionAgrees A s.wrapped ending (s.functions.insert ⟨s.ids.next⟩ fn)
      (d.functions.insert ⟨d.ids.next⟩ fn') w f f' := by
  obtain ⟨hw, hf, hf'⟩ := h.known _ hp
  have hids' : d.ids.next < 2 ^ 64 := h.ids'.trans_lt hids
  have hagrees := h.functions hp
  have hne : (⟨s.ids.next⟩ : HandleId) ≠ f := by
    rintro rfl
    exact Nat.lt_irrefl _ hf.2
  have hne' : (⟨d.ids.next⟩ : HandleId) ≠ f' := by
    rintro rfl
    exact Nat.lt_irrefl _ hf'.2
  have hvalue : f.value ≠ (⟨s.ids.next⟩ : HandleId).value := fun heq =>
    hne.symm ((HandleId.value_inj (hf.2.trans hids) hids).1 heq)
  have hvalue' : f'.value ≠ (⟨d.ids.next⟩ : HandleId).value := fun heq =>
    hne'.symm ((HandleId.value_inj (hf'.2.trans hids') hids').1 heq)
  have howns : (s.functions.insert ⟨s.ids.next⟩ fn).owns f = s.functions.owns f := by
    simp [Registry.owns_insert_of_ne _ hne, hvalue]
  have howns' : (d.functions.insert ⟨d.ids.next⟩ fn').owns f' = d.functions.owns f' := by
    simp [Registry.owns_insert_of_ne _ hne', hvalue']
  refine ⟨fun hmem => ?_, ?_, ?_, ?_⟩
  · rcases (Registry.mem_ids_insert ..).1 hmem with ⟨hmem, -⟩ | rfl
    · exact hagrees.foreign hmem
    · exact Nat.lt_irrefl _ hw.2
  · simpa [hne, hne'] using hagrees.object
  · rw [howns, howns', hagrees.owns]
  · rw [howns]
    exact hagrees.live

/-- A function is registered in both sessions. -/
theorem insertFunction (h : Twin A past pairs hosts ending s d) (hids : s.ids.next < 2 ^ 64)
    (fn fn' : ThreadsafeFunction) :
    Twin A past pairs hosts ending
      { s with ids := ⟨s.ids.next + 1⟩, functions := s.functions.insert ⟨s.ids.next⟩ fn }
      { d with ids := ⟨d.ids.next + 1⟩, functions := d.functions.insert ⟨d.ids.next⟩ fn' } :=
  { h with
    pos := Nat.succ_pos _
    pos' := Nat.succ_pos _
    ids := hids
    ids' := Nat.succ_le_succ h.ids'
    known := fun p hp => (h.known p hp).mono (Nat.le_succ _) (Nat.le_succ _)
    wrapped := h.wrapped.mono (Nat.le_succ _)
    functionsBelow := h.functionsBelow.insert h.pos _
    functionsBelow' := h.functionsBelow'.insert h.pos' _
    jobsBelow := h.jobsBelow.mono (Nat.le_succ _)
    jobsBelow' := h.jobsBelow'.mono (Nat.le_succ _)
    functions := fun hp => h.agrees_insert hids fn fn' hp }

/-- A reserved handle gets the raw handle of its function. -/
theorem bindFunction (h : Twin A past pairs hosts none s d) {g : WrappedFunction}
    {fn : ThreadsafeFunction} {n n' : ℕ} (hg : s.wrapped.functions.live? w = some g)
    (hhost : A.hosts g.host) (hf : s.functions.live? f = some (fn.wrappedAs w))
    (hf' : d.functions.live? f' = some fn) (hof : fn.OfAddon)
    (hforeign : w ∉ s.functions.ids) (hknown : ∀ p ∈ pairs, p.Below n n') (hnw : n ≤ w.number)
    (hnf : n ≤ f.number) (hnf' : n' ≤ f'.number) :
    Twin A past (.function w f f' :: pairs) hosts none
      { s with wrapped := s.wrapped.bindFunction w f.value } d := by
  have hw := h.wrapped.functions w (Registry.live?_eq_some_iff.1 hg).1
  obtain ⟨howns, hobject⟩ := Registry.live?_eq_some_iff.1 hf
  obtain ⟨howns', hobject'⟩ := Registry.live?_eq_some_iff.1 hf'
  have hfind : s.wrapped.functions.find? w = some w :=
    (h.wrapped.functions.find?_eq_some_iff h.ids).2 ⟨(Registry.live?_eq_some_iff.1 hg).1, rfl⟩
  have hbind : s.wrapped.bindFunction w f.value = { s.wrapped with
      functions := s.wrapped.functions.modify w fun k => { k with raw := f.value } } := by
    rw [Wrapped.bindFunction, hfind]
  have hlive : (s.wrapped.bindFunction w f.value).functions.live?
      = Function.update s.wrapped.functions.live? w (some { g with raw := f.value }) := by
    rw [hbind, Registry.live?_modify, hg]
    rfl
  have hbound : Twin A past pairs hosts none
      { s with wrapped := s.wrapped.bindFunction w f.value } d := by
    refine { h with
      envs := fun {name raw} hkind => ?_
      wrapped := h.wrapped.bindFunction w f.value
      functions := fun {w₂ f₂ f₂'} hp => ?_ }
    · rw [Wrapped.envs_bindFunction]
      exact h.envs hkind
    · have hne : w₂ ≠ w := by
        rintro rfl
        have := (hknown _ hp).1.2
        omega
      refine { h.functions hp with live := ?_ }
      rw [hlive, Function.update_of_ne hne]
      exact (h.functions hp).live
  refine hbound.extend (h.renames.consFunction hknown hnw hnf hnf')
    ⟨hw, h.functionsBelow f howns, h.functionsBelow' f' howns'⟩ ?_ (by simp)
  rintro _ _ _ ⟨⟩
  have hown : s.functions.owns f = true := by simpa [Registry.owns] using howns
  have hown' : d.functions.owns f' = true := by simpa [Registry.owns] using howns'
  refine ⟨hforeign, ⟨fn, hobject', hobject, hof⟩, hown.trans hown'.symm, g.env, g.host,
    hhost, ?_⟩
  rw [hlive, Function.update_self, if_pos ⟨hown, by simp⟩]

/-! ### Forgetting functions -/

/-- A wrapped handle is forgotten. -/
theorem eraseFunction (h : Twin A past pairs hosts none s d) (hw : w.number < s.ids.next)
    (hending : ∀ {w₂ f₂ f₂' : HandleId}, .function w₂ f₂ f₂' ∈ pairs → (w₂ = w ↔ ending = some f₂)) :
    Twin A past pairs hosts ending { s with wrapped := s.wrapped.eraseFunction w } d := by
  have hlive := h.wrapped.live?_eraseFunction h.ids hw
  refine { h with
    envs := fun {name raw} hkind => ?_
    wrapped := h.wrapped.eraseFunction h.ids w
    functions := fun {w₂ f₂ f₂'} hp => ?_ }
  · obtain ⟨own, e, he, hvalue, hraw, hhost⟩ := h.envs hkind
    obtain ⟨e', he', hraw', hhost'⟩ := h.wrapped.exists_env_eraseFunction h.ids he w
    exact ⟨own, e', he', hvalue, hraw'.trans hraw, hhost' ▸ hhost⟩
  · have hagrees := h.functions hp
    obtain ⟨env, host, hhost, hw₂⟩ := hagrees.live
    refine { hagrees with live := ⟨env, host, hhost, ?_⟩ }
    rw [hlive, Function.update_apply, hw₂]
    by_cases heq : w₂ = w
    · rw [if_pos heq, if_neg fun hlive => hlive.2 ((hending hp).1 heq)]
    · have hne : ending ≠ some f₂ := fun heq' => heq ((hending hp).2 heq')
      rw [if_neg heq]
      simp [hne]

/-- A reserved handle is forgotten when its function was not created. -/
theorem forgetReserved (h : Twin A past pairs hosts none s d) {n n' : ℕ}
    (hknown : ∀ p ∈ pairs, p.Below n n') (hnw : n ≤ w.number) (hw : w.number < s.ids.next) :
    Twin A past pairs hosts none { s with wrapped := s.wrapped.eraseFunction w } d := by
  refine h.eraseFunction hw fun {w₂ f₂ f₂'} hp => ?_
  have hne : w₂ ≠ w := by
    rintro rfl
    have := (hknown _ hp).1.2
    omega
  simp [hne]

/-- The finalizer of a function has returned: its wrapped handle is forgotten. -/
theorem unwrap (h : Twin A past pairs hosts none s d) (hp : .function w f f' ∈ pairs) :
    Twin A past pairs hosts (some f) { s with wrapped := s.wrapped.eraseFunction w } d :=
  h.eraseFunction (h.known _ hp).1.2 fun hp₂ =>
    ⟨fun heq => congrArg some ((h.renames.wrapped hp hp₂).1 heq.symm),
      fun heq => ((h.renames.wrapped hp hp₂).2 (Option.some.inj heq)).symm⟩

/-- A function is unregistered at the end of its teardown. -/
theorem unregister (h : Twin A past pairs hosts (some f) s d) (hp : .function w f f' ∈ pairs) :
    Twin A past pairs hosts none { s with functions := s.functions.erase f }
      { d with functions := d.functions.erase f' } := by
  refine { h with
    functionsBelow := h.functionsBelow.erase f
    functionsBelow' := h.functionsBelow'.erase f'
    functions := fun {w₂ f₂ f₂'} hp₂ => ?_ }
  have hagrees := h.functions hp₂
  obtain ⟨env, host, hhost, hlive⟩ := hagrees.live
  obtain ⟨hinj, hinj'⟩ := h.functionValue_iff hp hp₂
  have hsame : f₂ = f ↔ f₂' = f' := by
    rw [eq_comm, h.renames.functions hp hp₂, eq_comm]
  refine ⟨fun hmem => hagrees.foreign ((Registry.mem_ids_erase ..).1 hmem).1, hagrees.object, ?_,
    env, host, hhost, ?_⟩
  · rw [Registry.owns_erase, Registry.owns_erase, hagrees.owns]
    simp only [bne, hinj, hinj', hsame, beq_eq_decide]
  · rw [hlive, Registry.owns_erase]
    by_cases heq : f₂ = f
    · simp [heq]
    · have hvalue : f₂.value ≠ f.value := fun hv => heq (hinj.1 hv)
      simp [hvalue, Ne.symm heq]

/-! ### Jobs -/

theorem jobValue_iff (h : Twin A past pairs hosts ending s d) (hp : .job j j' ∈ pairs)
    {j₂ j₂' : HandleId} (hp₂ : .job j₂ j₂' ∈ pairs) :
    (j₂.value = j.value ↔ j₂ = j) ∧ (j₂'.value = j'.value ↔ j₂' = j') := by
  have hknown := h.known _ hp
  have hknown₂ := h.known _ hp₂
  simp only [Pair.Below] at hknown hknown₂
  have hids := h.ids
  have hids' := h.ids'
  exact ⟨HandleId.value_inj (by omega) (by omega), HandleId.value_inj (by omega) (by omega)⟩

/-- The handle of a job finds it in both sessions, or in none. -/
theorem resolveJob (h : Twin A past pairs hosts ending s d) (hv : Pair.Match pairs .job v v') :
    s.jobs.find? ⟨v⟩ = none ∧ d.jobs.find? ⟨v'⟩ = none ∨
      ∃ j j', .job j j' ∈ pairs ∧ s.jobs.find? ⟨v⟩ = some j ∧ d.jobs.find? ⟨v'⟩ = some j' := by
  have hids := h.ids
  have hids' : d.ids.next ≤ 2 ^ 64 := h.ids'.trans hids
  obtain ⟨rfl, rfl⟩ | ⟨j, j', hp, rfl, rfl⟩ := hv
  · exact .inl ⟨h.jobsBelow.find?_null hids, h.jobsBelow'.find?_null hids'⟩
  obtain ⟨hj, hj'⟩ := h.known _ hp
  rw [h.jobsBelow.find?_value hids hj.2, h.jobsBelow'.find?_value hids' hj'.2, ← (h.jobs hp).owns]
  split
  · exact .inr ⟨j, j', hp, rfl, rfl⟩
  · exact .inl ⟨rfl, rfl⟩

/-- The handle of a job resolves in both sessions, or in none. -/
theorem resolveJobEntry (h : Twin A past pairs hosts ending s d)
    (hv : Pair.Match pairs .job v v') :
    s.jobs.entry? ⟨v⟩ = none ∧ d.jobs.entry? ⟨v'⟩ = none ∨
      ∃ j j' job, .job j j' ∈ pairs ∧ s.jobs.entry? ⟨v⟩ = some (j, job) ∧
        d.jobs.entry? ⟨v'⟩ = some (j', job) := by
  have hids := h.ids
  have hids' : d.ids.next ≤ 2 ^ 64 := h.ids'.trans hids
  obtain ⟨rfl, rfl⟩ | ⟨j, j', hp, rfl, rfl⟩ := hv
  · exact .inl ⟨Registry.entry?_null _, Registry.entry?_null _⟩
  obtain ⟨hj, hj'⟩ := h.known _ hp
  have hagrees := h.jobs hp
  obtain ⟨job, hobject', hobject⟩ := hagrees.object
  rw [h.jobsBelow.entry?_value hids hj.2, h.jobsBelow'.entry?_value hids' hj'.2]
  by_cases howns : s.jobs.owns j = true
  · exact .inr ⟨j, j', job, hp, by simp [Registry.live?, howns, hobject],
      by simp [Registry.live?, ← hagrees.owns, howns, hobject']⟩
  · exact .inl (by simp [Registry.live?, ← hagrees.owns, howns])

/-- A job is created in both sessions. -/
theorem insertJob (h : Twin A past pairs hosts ending s d) (hids : s.ids.next < 2 ^ 64)
    (job : AsyncJob) :
    Twin A past (.job ⟨s.ids.next⟩ ⟨d.ids.next⟩ :: pairs) hosts ending
      { s with ids := ⟨s.ids.next + 1⟩, jobs := s.jobs.insert ⟨s.ids.next⟩ job }
      { d with ids := ⟨d.ids.next + 1⟩, jobs := d.jobs.insert ⟨d.ids.next⟩ job } := by
  have hids' : d.ids.next < 2 ^ 64 := h.ids'.trans_lt hids
  have hinserted : Twin A past pairs hosts ending
      { s with ids := ⟨s.ids.next + 1⟩, jobs := s.jobs.insert ⟨s.ids.next⟩ job }
      { d with ids := ⟨d.ids.next + 1⟩, jobs := d.jobs.insert ⟨d.ids.next⟩ job } := by
    refine { h with
      pos := Nat.succ_pos _
      pos' := Nat.succ_pos _
      ids := hids
      ids' := Nat.succ_le_succ h.ids'
      known := fun p hp => (h.known p hp).mono (Nat.le_succ _) (Nat.le_succ _)
      wrapped := h.wrapped.mono (Nat.le_succ _)
      functionsBelow := h.functionsBelow.mono (Nat.le_succ _)
      functionsBelow' := h.functionsBelow'.mono (Nat.le_succ _)
      jobsBelow := h.jobsBelow.insert h.pos _
      jobsBelow' := h.jobsBelow'.insert h.pos' _
      jobs := fun {j j'} hp => ?_ }
    obtain ⟨hj, hj'⟩ := h.known _ hp
    have hagrees := h.jobs hp
    have hne : (⟨s.ids.next⟩ : HandleId) ≠ j := by
      rintro rfl
      exact Nat.lt_irrefl _ hj.2
    have hne' : (⟨d.ids.next⟩ : HandleId) ≠ j' := by
      rintro rfl
      exact Nat.lt_irrefl _ hj'.2
    have hvalue : j.value ≠ (⟨s.ids.next⟩ : HandleId).value := fun heq =>
      hne.symm ((HandleId.value_inj (hj.2.trans hids) hids).1 heq)
    have hvalue' : j'.value ≠ (⟨d.ids.next⟩ : HandleId).value := fun heq =>
      hne'.symm ((HandleId.value_inj (hj'.2.trans hids') hids').1 heq)
    have howns : (s.jobs.insert ⟨s.ids.next⟩ job).owns j = s.jobs.owns j := by
      simp [Registry.owns_insert_of_ne _ hne, hvalue]
    have howns' : (d.jobs.insert ⟨d.ids.next⟩ job).owns j' = d.jobs.owns j' := by
      simp [Registry.owns_insert_of_ne _ hne', hvalue']
    refine ⟨by simpa [hne, hne'] using hagrees.object, ?_⟩
    rw [howns, howns', hagrees.owns]
  refine hinserted.extend (h.renames.consJob h.known le_rfl le_rfl)
    ⟨⟨h.pos, Nat.lt_succ_self _⟩, h.pos', Nat.lt_succ_self _⟩ (by simp) ?_
  rintro _ _ ⟨⟩
  exact ⟨⟨job, by simp, by simp⟩, by simp [Registry.owns_insert_self]⟩

/-- A job that both have changed in the same way. -/
theorem modifyJob (h : Twin A past pairs hosts ending s d) (hp : .job j j' ∈ pairs)
    (g : AsyncJob → AsyncJob) :
    Twin A past pairs hosts ending (s.modifyJob j g) (d.modifyJob j' g) := by
  refine { h with jobs := fun {j₂ j₂'} hp₂ => ?_ }
  have hagrees := h.jobs hp₂
  refine { hagrees with object := ?_ }
  obtain ⟨job, hobject', hobject⟩ := hagrees.object
  simp only [Session.modifyJob, Registry.object?_modify]
  by_cases heq : j = j₂
  · obtain rfl : j' = j₂' := (h.renames.jobs hp hp₂).1 heq
    subst heq
    exact ⟨g job, by simp [hobject'], by simp [hobject]⟩
  · have heq' : j' ≠ j₂' := fun h' => heq ((h.renames.jobs hp hp₂).2 h')
    exact ⟨job, by simpa [heq'] using hobject', by simpa [heq] using hobject⟩

/-- A job that both have unregistered. -/
theorem eraseJob (h : Twin A past pairs hosts ending s d) (hp : .job j j' ∈ pairs) :
    Twin A past pairs hosts ending { s with jobs := s.jobs.erase j }
      { d with jobs := d.jobs.erase j' } := by
  refine { h with
    jobsBelow := h.jobsBelow.erase j
    jobsBelow' := h.jobsBelow'.erase j'
    jobs := fun {j₂ j₂'} hp₂ => ?_ }
  have hagrees := h.jobs hp₂
  obtain ⟨hinj, hinj'⟩ := h.jobValue_iff hp hp₂
  have hsame : j₂ = j ↔ j₂' = j' := by
    rw [eq_comm, h.renames.jobs hp hp₂, eq_comm]
  refine ⟨hagrees.object, ?_⟩
  rw [Registry.owns_erase, Registry.owns_erase, hagrees.owns]
  simp only [bne, hinj, hinj', hsame, beq_eq_decide]

end Twin

end AddonHost
