import AddonHost.Proofs.Handle.Value
import AddonHost.Registry

/-!
Registries, and the lists that owners keep.

Two notions of bookkeeping that know nothing of multiplexers:

* `Registry.live?` is what is registered under an id itself, and `Registry.Below` says that the ids
  of a registry were given out before a number.  While there are enough handles, a handle resolves
  to the one live id that has it, and each operation changes `live?` in one place.
* `Listed` says that each thing with an owner stands once in its owner's list, and that no list
  holds anything else.
-/

namespace AddonHost

namespace Registry

variable {α : Type*} {r : Registry α} {n : ℕ} {id own handle : HandleId} {a : α}

/-- What is registered under an id itself. -/
def live? (r : Registry α) (id : HandleId) : Option α :=
  if r.owns id then r.object? id else none

/-- The ids of a registry were given out before a number. -/
def Below (r : Registry α) (n : ℕ) : Prop := ∀ id ∈ r.ids, 0 < id.number ∧ id.number < n

theorem live?_eq_some_iff : r.live? id = some a ↔ id ∈ r.ids ∧ r.object? id = some a := by
  simp [live?, owns]

theorem Below.mono {m : ℕ} (h : r.Below n) (hm : n ≤ m) : r.Below m :=
  fun id hid => ⟨(h id hid).1, (h id hid).2.trans_le hm⟩

theorem Below.erase (h : r.Below n) (id : HandleId) : (r.erase id).Below n :=
  fun _ hid => h _ ((mem_ids_erase ..).1 hid).1

theorem Below.modify (h : r.Below n) (id : HandleId) (f : α → α) : (r.modify id f).Below n := h

theorem Below.insert (h : r.Below n) (hpos : 0 < n) (a : α) : (r.insert ⟨n⟩ a).Below (n + 1) := by
  intro id hid
  rcases (mem_ids_insert ..).1 hid with ⟨hid, -⟩ | rfl
  · have := h id hid
    omega
  · exact ⟨hpos, Nat.lt_succ_self n⟩

theorem Below.foldl_erase (h : r.Below n) (ids : List HandleId) :
    (ids.foldl Registry.erase r).Below n := by
  induction ids generalizing r with
  | nil => exact h
  | cons id ids ih => exact ih (h.erase id)

/-- While there are enough handles, live ids have handles of their own. -/
theorem Below.value_inj (h : r.Below n) (hn : n ≤ 2 ^ 64) (hid : id ∈ r.ids)
    (hown : own.number < n) : id.value = own.value ↔ id = own := by
  have := h id hid
  exact HandleId.value_inj (by omega) (by omega)

theorem Below.live?_eq_none (h : r.Below n) : r.live? ⟨n⟩ = none := by
  cases hlive : r.live? ⟨n⟩ with
  | none => rfl
  | some a => exact absurd (h _ (live?_eq_some_iff.1 hlive).1).2 (Nat.lt_irrefl n)

/-! ### Resolving -/

theorem Below.find?_eq_some_iff (h : r.Below n) (hn : n ≤ 2 ^ 64) :
    r.find? handle = some id ↔ id ∈ r.ids ∧ id.value = handle.value := by
  constructor
  · intro hfind
    exact ⟨List.mem_of_find?_eq_some hfind, by simpa using List.find?_some hfind⟩
  · rintro ⟨hid, hvalue⟩
    cases hfind : r.find? handle with
    | none =>
      have := List.find?_eq_none.1 hfind id hid
      simp [hvalue] at this
    | some own =>
      have hown : own.value = handle.value := by simpa using List.find?_some hfind
      have hmem : own ∈ r.ids := List.mem_of_find?_eq_some hfind
      rw [(h.value_inj hn hmem (h id hid).2).1 (hown.trans hvalue.symm)]

/-- What a handle finds is the live object that has it. -/
theorem Below.find?_bind_eq_some_iff (h : r.Below n) (hn : n ≤ 2 ^ 64) :
    (r.find? handle).bind r.object? = some a ↔
      ∃ id, r.live? id = some a ∧ id.value = handle.value := by
  simp only [Option.bind_eq_some_iff, h.find?_eq_some_iff hn, live?_eq_some_iff]
  grind

/-- A handle resolves to the live object that has it. -/
theorem Below.entry?_eq_some_iff (h : r.Below n) (hn : n ≤ 2 ^ 64) :
    r.entry? handle = some (id, a) ↔ r.live? id = some a ∧ id.value = handle.value := by
  rw [live?_eq_some_iff]
  constructor
  · intro hentry
    obtain ⟨hid, hvalue, hobject⟩ := Registry.entry?_eq_some hentry
    exact ⟨⟨hid, hobject⟩, hvalue⟩
  · rintro ⟨⟨hid, hobject⟩, hvalue⟩
    obtain ⟨hpos, hlt⟩ := h id hid
    have hnull : handle.isNull = false := by
      have := HandleId.isNull_eq_false hpos (by omega)
      rwa [HandleId.isNull, hvalue] at this
    unfold Registry.entry?
    rw [if_neg (by simp [hnull]), (h.find?_eq_some_iff hn).2 ⟨hid, hvalue⟩]
    simp [hobject]

/-- What handles resolve to when some of the live objects are gone. -/
theorem Below.entry?_filter {r' : Registry α} (h : r.Below n) (h' : r'.Below n) (hn : n ≤ 2 ^ 64)
    {kept : HandleId → α → Bool} (hlive : ∀ id, r'.live? id = (r.live? id).filter (kept id))
    (handle : HandleId) :
    r'.entry? handle = (r.entry? handle).filter fun p => kept p.1 p.2 := by
  refine Option.ext fun ⟨id, a⟩ => ?_
  rw [h'.entry?_eq_some_iff hn, Option.filter_eq_some_iff, h.entry?_eq_some_iff hn, hlive,
    Option.filter_eq_some_iff]
  tauto

theorem Below.entry?_self (h : r.Below n) (hn : n ≤ 2 ^ 64) (hlive : r.live? id = some a) :
    r.entry? id = some (id, a) := (h.entry?_eq_some_iff hn).2 ⟨hlive, rfl⟩

/-! ### What operations make live -/

theorem Below.live?_insert (h : r.Below n) (hn : n < 2 ^ 64) (a : α) :
    (r.insert ⟨n⟩ a).live? = Function.update r.live? ⟨n⟩ (some a) := by
  funext id
  rw [Function.update_apply]
  by_cases hid : id = ⟨n⟩
  · subst hid
    simp [live?, owns_insert_self]
  · rw [if_neg hid, live?, live?, owns_insert_of_ne _ (Ne.symm hid), object?_insert,
      if_neg (Ne.symm hid)]
    by_cases howns : r.owns id = true
    · have hmem : id ∈ r.ids := by simpa [owns] using howns
      have hvalue : id.value ≠ (⟨n⟩ : HandleId).value := by
        have := h id hmem
        exact fun hv => hid ((HandleId.value_inj (by omega) (by simpa using hn)).1 hv)
      simp [howns, hvalue]
    · simp [howns]

theorem Below.live?_erase (h : r.Below n) (hn : n ≤ 2 ^ 64) (hid : id.number < n) :
    (r.erase id).live? = Function.update r.live? id none := by
  funext own
  rw [Function.update_apply, live?, live?, owns_erase, object?_erase]
  by_cases hown : own = id
  · simp [hown]
  · by_cases howns : r.owns own = true
    · have hmem : own ∈ r.ids := by simpa [owns] using howns
      have hvalue : own.value ≠ id.value := fun hv => hown ((h.value_inj hn hmem hid).1 hv)
      simp [howns, hvalue, hown]
    · simp [howns]

theorem live?_modify (r : Registry α) (id : HandleId) (f : α → α) :
    (r.modify id f).live? = Function.update r.live? id ((r.live? id).map f) := by
  funext own
  rw [Function.update_apply, live?, live?, live?]
  simp only [owns, ids_modify, object?_modify]
  rcases eq_or_ne own id with rfl | hne
  · by_cases hmem : own ∈ r.ids <;> simp [hmem]
  · simp [hne, hne.symm]

theorem isSome_live?_modify (r : Registry α) (id : HandleId) (f : α → α) (own : HandleId) :
    ((r.modify id f).live? own).isSome = (r.live? own).isSome := by
  rw [live?_modify, Function.update_apply]
  split <;> simp [*]

theorem Below.live?_foldl_erase (h : r.Below n) (hn : n ≤ 2 ^ 64) {ids : List HandleId}
    (hids : ∀ id ∈ ids, id.number < n) (own : HandleId) :
    (ids.foldl Registry.erase r).live? own = if own ∈ ids then none else r.live? own := by
  induction ids generalizing r with
  | nil => simp
  | cons id ids ih =>
    have hid := hids id List.mem_cons_self
    rw [List.foldl_cons, ih (h.erase id) fun own hown => hids own (List.mem_cons_of_mem _ hown),
      h.live?_erase hn hid, Function.update_apply]
    by_cases hown : own = id
    · simp [hown]
    · simp [hown]

/-! ### What stopped resolving -/

/-- No id that was given out before a number becomes live again. -/
def Fades (r r' : Registry α) (n : ℕ) : Prop :=
  ∀ id, id.number < n → r.live? id = none → r'.live? id = none

theorem Fades.refl (r : Registry α) (n : ℕ) : r.Fades r n := fun _ _ h => h

theorem Fades.trans {r' r'' : Registry α} {m : ℕ} (h : r.Fades r' n) (h' : r'.Fades r'' m)
    (hm : n ≤ m) : r.Fades r'' n :=
  fun id hid hnone => h' id (hid.trans_le hm) (h id hid hnone)

theorem Below.fades_insert (h : r.Below n) (hn : n < 2 ^ 64) (a : α) :
    r.Fades (r.insert ⟨n⟩ a) n := by
  intro id hid hnone
  have hne : id ≠ ⟨n⟩ := by
    rintro rfl
    exact absurd hid (Nat.lt_irrefl n)
  rw [h.live?_insert hn, Function.update_of_ne hne, hnone]

theorem fades_erase (r : Registry α) (id : HandleId) (n : ℕ) : r.Fades (r.erase id) n := by
  intro own _ hnone
  rw [live?] at hnone ⊢
  rw [owns_erase, object?_erase]
  split at hnone <;> simp_all

/-- A registry in which the same ids are live. -/
theorem Fades.of_isSome {r' : Registry α}
    (h : ∀ id, (r'.live? id).isSome = (r.live? id).isSome) (n : ℕ) : r.Fades r' n := by
  intro id _ hnone
  rw [← Option.not_isSome_iff_eq_none, h, hnone]
  simp

/-- Erasing a handle is erasing the id that it resolves to. -/
theorem erase_congr (hvalue : id.value = handle.value) : r.erase handle = r.erase id := by
  simp [Registry.erase, hvalue]

end Registry

/-- Each thing with an owner stands once in its owner's list, and lists hold nothing else. -/
structure Listed {κ : Type*} (lists : κ → Option (List HandleId)) (owners : HandleId → Option κ) :
    Prop where
  owned : ∀ id k, owners id = some k → ∃ l, lists k = some l ∧ l.count id = 1
  listed : ∀ k l, lists k = some l → ∀ id ∈ l, owners id = some k

namespace Listed

variable {κ : Type*} {lists : κ → Option (List HandleId)} {owners : HandleId → Option κ} {k : κ}
  {l : List HandleId} {id : HandleId}

theorem count_eq_one (h : Listed lists owners) (hid : owners id = some k) (hk : lists k = some l) :
    l.count id = 1 := by
  obtain ⟨l', hl', hcount⟩ := h.owned id k hid
  obtain rfl : l = l' := by simpa [hk] using hl'
  exact hcount

theorem mem_iff (h : Listed lists owners) (hk : lists k = some l) : id ∈ l ↔ owners id = some k := by
  refine ⟨h.listed k l hk id, fun hid => ?_⟩
  rw [← List.count_pos_iff, h.count_eq_one hid hk]
  exact Nat.one_pos

variable [DecidableEq κ]

/-- An owner gets something that had none. -/
theorem add (h : Listed lists owners) (hid : owners id = none) (hk : lists k = some l) :
    Listed (Function.update lists k (some (l ++ [id]))) (Function.update owners id (some k)) := by
  have hnot : id ∉ l := by simp [h.mem_iff hk, hid]
  constructor
  · intro id' k' hown
    rw [Function.update_apply] at hown
    split at hown
    · next heq =>
      obtain rfl := Option.some.inj hown
      exact ⟨l ++ [id], by simp, by simp [heq, List.count_eq_zero.2 hnot]⟩
    · next hne =>
      obtain ⟨l', hl', hcount⟩ := h.owned id' k' hown
      rcases eq_or_ne k' k with rfl | hkne
      · obtain rfl : l = l' := by simpa [hk] using hl'
        refine ⟨l ++ [id], by simp, ?_⟩
        rw [List.count_append, hcount, List.count_eq_zero.2 (by simpa using hne)]
      · exact ⟨l', by rwa [Function.update_of_ne hkne], hcount⟩
  · intro k' l' hl' id' hmem
    rw [Function.update_apply] at hl'
    split at hl'
    · next heq =>
      obtain rfl := Option.some.inj hl'
      rcases List.mem_append.1 hmem with hmem | hmem
      · have hne : id' ≠ id := fun h => hnot (h ▸ hmem)
        rw [Function.update_of_ne hne, heq]
        exact h.listed k l hk id' hmem
      · obtain rfl := List.mem_singleton.1 hmem
        simp [heq]
    · have hne : id' ≠ id := by
        rintro rfl
        simp [h.listed k' l' hl' _ hmem] at hid
      rw [Function.update_of_ne hne]
      exact h.listed k' l' hl' id' hmem

/-- Something leaves its owner. -/
theorem remove (h : Listed lists owners) (hid : owners id = some k) (hk : lists k = some l) :
    Listed (Function.update lists k (some (l.filter (· ≠ id)))) (Function.update owners id none) := by
  constructor
  · intro id' k' hown
    rw [Function.update_apply] at hown
    split at hown
    · simp at hown
    · next hne =>
      obtain ⟨l', hl', hcount⟩ := h.owned id' k' hown
      rcases eq_or_ne k' k with rfl | hkne
      · obtain rfl : l = l' := by simpa [hk] using hl'
        refine ⟨_, Function.update_self .., ?_⟩
        rw [List.count_filter (by simpa using hne), hcount]
      · exact ⟨l', by rwa [Function.update_of_ne hkne], hcount⟩
  · intro k' l' hl' id' hmem
    rw [Function.update_apply] at hl'
    split at hl'
    · next heq =>
      obtain rfl := Option.some.inj hl'
      obtain ⟨hmem, hne⟩ := List.mem_filter.1 hmem
      rw [Function.update_of_ne (by simpa using hne), heq]
      exact h.listed k l hk id' hmem
    · next hkne =>
      have hne : id' ≠ id := by
        rintro rfl
        have := h.listed k' l' hl' _ hmem
        rw [hid, Option.some_inj] at this
        exact hkne this.symm
      rw [Function.update_of_ne hne]
      exact h.listed k' l' hl' id' hmem

/-- An owner goes, and all that it owns. -/
theorem drop (h : Listed lists owners) (k : κ) :
    Listed (Function.update lists k none) fun id => (owners id).filter (· ≠ k) := by
  constructor
  · intro id k' hown
    obtain ⟨hown, hne⟩ := Option.filter_eq_some_iff.1 hown
    rw [Function.update_of_ne (by simpa using hne)]
    exact h.owned id k' hown
  · intro k' l hl id hmem
    rw [Function.update_apply] at hl
    split at hl
    · simp at hl
    · next hne =>
      rw [h.listed k' l hl id hmem]
      simp [hne]

/-- A new owner owns nothing. -/
theorem new (h : Listed lists owners) (hk : lists k = none) :
    Listed (Function.update lists k (some [])) owners := by
  constructor
  · intro id k' hown
    obtain ⟨l, hl, hcount⟩ := h.owned id k' hown
    have hne : k' ≠ k := by
      rintro rfl
      simp [hk] at hl
    exact ⟨l, by rwa [Function.update_of_ne hne], hcount⟩
  · intro k' l hl id hmem
    rw [Function.update_apply] at hl
    split at hl
    · obtain rfl := Option.some.inj hl
      simp at hmem
    · exact h.listed k' l hl id hmem

end Listed

end AddonHost
