/-!
Association lists.

An `Assoc κ α` is a list of pairs in which the first pair with a key counts.  Setting a key keeps
its place, so the order of the pairs is the order in which keys were first set.  The view is
`Assoc.get?`, and each operation has one equation through it.
-/

namespace AddonHost

/-- A finite map as a list of pairs, in the order in which the keys were first set. -/
abbrev Assoc (κ : Type u) (α : Type v) := List (κ × α)

namespace Assoc

variable {κ : Type u} {α : Type v} [DecidableEq κ]

/-- The value at a key. -/
def get? (m : Assoc κ α) (k : κ) : Option α :=
  match m with
  | [] => none
  | (k', a) :: rest => if k' = k then some a else get? rest k

/-- Whether a key is set. -/
def contains (m : Assoc κ α) (k : κ) : Bool := (get? m k).isSome

/-- Set the value at a key. -/
def insert (m : Assoc κ α) (k : κ) (a : α) : Assoc κ α :=
  match m with
  | [] => [(k, a)]
  | (k', b) :: rest => if k' = k then (k, a) :: rest else (k', b) :: insert rest k a

/-- Unset a key. -/
def erase (m : Assoc κ α) (k : κ) : Assoc κ α :=
  match m with
  | [] => []
  | (k', a) :: rest => if k' = k then erase rest k else (k', a) :: erase rest k

/-- Change the value at a key, if it is set. -/
def modify (m : Assoc κ α) (k : κ) (f : α → α) : Assoc κ α :=
  match m with
  | [] => []
  | (k', a) :: rest => if k' = k then (k', f a) :: rest else (k', a) :: modify rest k f

@[simp] theorem get?_nil (k : κ) : get? ([] : Assoc κ α) k = none := rfl

theorem get?_insert (m : Assoc κ α) (k k' : κ) (a : α) :
    get? (insert m k a) k' = if k = k' then some a else get? m k' := by
  induction m with
  | nil => simp [insert, get?]
  | cons p rest ih =>
    obtain ⟨j, b⟩ := p
    by_cases hj : j = k
    · subst hj
      by_cases hk : j = k' <;> simp [insert, get?, hk]
    · by_cases hk : j = k'
      · subst hk
        simp [insert, get?, hj, Ne.symm hj]
      · simp [insert, get?, hj, hk, ih]

theorem get?_erase (m : Assoc κ α) (k k' : κ) :
    get? (erase m k) k' = if k = k' then none else get? m k' := by
  induction m with
  | nil => simp [erase]
  | cons p rest ih =>
    obtain ⟨j, b⟩ := p
    by_cases hj : j = k
    · subst hj
      by_cases hk : j = k'
      · subst hk
        simpa [erase] using ih
      · simpa [erase, get?, hk] using ih
    · by_cases hk : j = k'
      · subst hk
        simp [erase, get?, hj, Ne.symm hj]
      · simp [erase, get?, hj, hk, ih]

theorem get?_modify (m : Assoc κ α) (k k' : κ) (f : α → α) :
    get? (modify m k f) k' = if k = k' then (get? m k').map f else get? m k' := by
  induction m with
  | nil => simp [modify]
  | cons p rest ih =>
    obtain ⟨j, b⟩ := p
    by_cases hj : j = k
    · subst hj
      by_cases hk : j = k'
      · simp [modify, get?, hk]
      · simp [modify, get?, hk]
    · by_cases hk : j = k'
      · subst hk
        simp [modify, get?, hj, Ne.symm hj]
      · simp [modify, get?, hj, hk, ih]

/-- A change that is undone at the key where it was made. -/
theorem modify_modify_of_eq {m : Assoc κ α} {k : κ} {a : α} {f g : α → α}
    (hm : get? m k = some a) (h : g (f a) = a) : modify (modify m k f) k g = m := by
  induction m with
  | nil => rfl
  | cons p rest ih =>
    obtain ⟨j, b⟩ := p
    by_cases hj : j = k
    · obtain rfl : b = a := by simpa [get?, hj] using hm
      simp [modify, hj, h]
    · have hrest : get? rest k = some a := by simpa [get?, hj] using hm
      simp [modify, hj, ih hrest]

/-- The pair that counts for a key, with those before and after it. -/
theorem exists_of_get? {m : Assoc κ α} {k : κ} {a : α} (h : get? m k = some a) :
    ∃ before after, m = before ++ (k, a) :: after ∧ ∀ p ∈ before, p.1 ≠ k := by
  induction m with
  | nil => simp at h
  | cons p rest ih =>
    obtain ⟨j, b⟩ := p
    by_cases hj : j = k
    · subst hj
      obtain rfl : b = a := by simpa [get?] using h
      exact ⟨[], rest, rfl, by simp⟩
    · obtain ⟨before, after, rfl, hne⟩ := ih (by simpa [get?, hj] using h)
      exact ⟨(j, b) :: before, after, rfl, by simpa [hj] using hne⟩

theorem mem_of_get? {m : Assoc κ α} {k : κ} {a : α} (h : get? m k = some a) : (k, a) ∈ m := by
  obtain ⟨before, after, rfl, -⟩ := exists_of_get? h
  simp

theorem get?_of_mem {m : Assoc κ α} (h : (m.map Prod.fst).Nodup) {k : κ} {a : α}
    (hmem : (k, a) ∈ m) : get? m k = some a := by
  induction m with
  | nil => simp at hmem
  | cons p rest ih =>
    obtain ⟨j, b⟩ := p
    simp only [List.map_cons, List.nodup_cons] at h
    rcases List.mem_cons.1 hmem with heq | hmem
    · obtain ⟨rfl, rfl⟩ := Prod.mk.inj heq
      simp [get?]
    · have hne : j ≠ k := fun hjk => h.1 (hjk ▸ List.mem_map_of_mem hmem)
      simpa [get?, hne] using ih h.2 hmem

/-- After a key was set, a pair is the new one or an old one. -/
theorem mem_of_mem_insert {m : Assoc κ α} {k : κ} {a : α} {p : κ × α} (h : p ∈ insert m k a) :
    p = (k, a) ∨ p ∈ m := by
  induction m with
  | nil => exact .inl (List.mem_singleton.1 h)
  | cons q rest ih =>
    obtain ⟨j, b⟩ := q
    unfold insert at h
    split at h
    · exact (List.mem_cons.1 h).imp_right (List.mem_cons_of_mem _)
    · rcases List.mem_cons.1 h with rfl | h
      · exact .inr List.mem_cons_self
      · exact (ih h).imp_right (List.mem_cons_of_mem _)

/-- Setting a key that is set replaces the pair that counts. -/
theorem insert_append_cons {before after : Assoc κ α} {k : κ} (hne : ∀ p ∈ before, p.1 ≠ k)
    (a b : α) : insert (before ++ (k, a) :: after) k b = before ++ (k, b) :: after := by
  induction before with
  | nil => simp [insert]
  | cons p rest ih =>
    have hp : p.1 ≠ k := hne p (by simp)
    simp [insert, hp, ih fun q hq => hne q (by simp [hq])]

/-- Setting a key that is not set appends a pair. -/
theorem insert_of_get?_eq_none {m : Assoc κ α} {k : κ} (h : get? m k = none) (a : α) :
    insert m k a = m ++ [(k, a)] := by
  induction m with
  | nil => rfl
  | cons p rest ih =>
    obtain ⟨j, b⟩ := p
    by_cases hj : j = k
    · simp [get?, hj] at h
    · simp [insert, hj, ih (by simpa [get?, hj] using h)]

theorem length_modify (m : Assoc κ α) (k : κ) (f : α → α) : (modify m k f).length = m.length := by
  induction m with
  | nil => rfl
  | cons p rest ih =>
    simp only [modify]
    split <;> simp [ih]

/-- A change that is undone. -/
theorem modify_modify_of_leftInverse {f g : α → α} (h : ∀ a, g (f a) = a) (m : Assoc κ α) (k : κ) :
    modify (modify m k f) k g = m := by
  induction m with
  | nil => rfl
  | cons p rest ih =>
    obtain ⟨j, b⟩ := p
    by_cases hj : j = k <;> simp [modify, hj, h, ih]

end Assoc

end AddonHost
