import AddonHost.Assoc
import AddonHost.Handle

/-!
Registries of objects under handle ids.

An object is registered under an id when it is created and stays reachable by whoever holds it
after the id stopped resolving: a task may still carry a threadsafe function that is gone from the
registry.  So a registry keeps every object (`object?`) and, apart from that, the ids that resolve
(`ids`).  Erasing an id makes it stop resolving and forgets nothing.

A handle resolves to the registered id that has this handle (`find?`, `entry?`); registering an
object takes the place of an older one with the same handle.
-/

namespace AddonHost

/-- Objects by id, and the ids that resolve, in the order of registration. -/
structure Registry (α : Type u) where
  objects : Assoc HandleId α := []
  ids : List HandleId := []

namespace Registry

variable {α : Type u}

/-- The object behind an id, whether or not the id still resolves. -/
def object? (r : Registry α) (id : HandleId) : Option α := r.objects.get? id

/-- Whether an id is registered itself. -/
def owns (r : Registry α) (id : HandleId) : Bool := r.ids.contains id

/-- The registered id with the handle of the given one. -/
def find? (r : Registry α) (id : HandleId) : Option HandleId :=
  r.ids.find? fun own => own.value == id.value

/-- Whether the handle of an id resolves. -/
def contains (r : Registry α) (id : HandleId) : Bool := (r.find? id).isSome

/-- The registered id that a handle resolves to, with its object; the null handle resolves to
nothing. -/
def entry? (r : Registry α) (id : HandleId) : Option (HandleId × α) :=
  if id.isNull then none
  else (r.find? id).bind fun own => (r.object? own).map fun a => (own, a)

/-- The object that a handle resolves to. -/
def get? (r : Registry α) (id : HandleId) : Option α := (r.entry? id).map Prod.snd

/-- Register an object under an id. -/
def insert (r : Registry α) (id : HandleId) (a : α) : Registry α where
  objects := r.objects.insert id a
  ids := r.ids.filter (fun own => own.value != id.value) ++ [id]

/-- Make the handle of an id stop resolving. -/
def erase (r : Registry α) (id : HandleId) : Registry α :=
  { r with ids := r.ids.filter fun own => own.value != id.value }

/-- Change the object behind an id, whether or not the id still resolves. -/
def modify (r : Registry α) (id : HandleId) (f : α → α) : Registry α :=
  { r with objects := r.objects.modify id f }

/-- The number of ids that resolve. -/
def size (r : Registry α) : Nat := r.ids.length

/-- The description of a registry. -/
def debugText (r : Registry α) : String :=
  "HandleRegistry \x7b entries: " ++ Nat.repr r.size ++ " \x7d"

@[simp] theorem object?_insert (r : Registry α) (id id' : HandleId) (a : α) :
    (r.insert id a).object? id' = if id = id' then some a else r.object? id' :=
  Assoc.get?_insert ..

@[simp] theorem object?_erase (r : Registry α) (id id' : HandleId) :
    (r.erase id).object? id' = r.object? id' := rfl

@[simp] theorem object?_modify (r : Registry α) (id id' : HandleId) (f : α → α) :
    (r.modify id f).object? id' = if id = id' then (r.object? id').map f else r.object? id' :=
  Assoc.get?_modify ..

@[simp] theorem ids_modify (r : Registry α) (id : HandleId) (f : α → α) :
    (r.modify id f).ids = r.ids := rfl

theorem mem_ids_insert (r : Registry α) (id id' : HandleId) (a : α) :
    id' ∈ (r.insert id a).ids ↔ id' ∈ r.ids ∧ id'.value ≠ id.value ∨ id' = id := by
  simp [insert]

theorem mem_ids_erase (r : Registry α) (id id' : HandleId) :
    id' ∈ (r.erase id).ids ↔ id' ∈ r.ids ∧ id'.value ≠ id.value := by
  simp [erase]

theorem owns_erase (r : Registry α) (id id' : HandleId) :
    (r.erase id).owns id' = (r.owns id' && id'.value != id.value) := by
  rw [Bool.eq_iff_iff]
  simp [owns, mem_ids_erase]

theorem owns_insert_of_ne (r : Registry α) {id id' : HandleId} (hne : id ≠ id') (a : α) :
    (r.insert id a).owns id' = (r.owns id' && id'.value != id.value) := by
  rw [Bool.eq_iff_iff]
  simp [owns, mem_ids_insert, hne.symm]

theorem owns_insert_self (r : Registry α) (id : HandleId) (a : α) :
    (r.insert id a).owns id = true := by
  simp [owns, mem_ids_insert]

/-- Of an entry that a handle resolves to, the id is registered and has this handle. -/
theorem entry?_eq_some {r : Registry α} {id own : HandleId} {a : α}
    (h : r.entry? id = some (own, a)) :
    own ∈ r.ids ∧ own.value = id.value ∧ r.object? own = some a := by
  unfold entry? at h
  split at h
  · simp at h
  · obtain ⟨own', hfind, h⟩ := Option.bind_eq_some_iff.1 h
    obtain ⟨a', ha, h⟩ := Option.map_eq_some_iff.1 h
    obtain ⟨rfl, rfl⟩ := Prod.mk.inj h
    exact ⟨List.mem_of_find?_eq_some hfind, by simpa using List.find?_some hfind, ha⟩

/-- A registered id that shares its handle with no other is what its handle resolves to. -/
theorem entry?_self_iff {r : Registry α} {id : HandleId} {a : α} (hnull : id.isNull = false)
    (ha : r.object? id = some a) (hinj : ∀ own ∈ r.ids, own.value = id.value → own = id) :
    r.entry? id = some (id, a) ↔ r.owns id = true := by
  rw [owns, List.contains_iff_mem]
  refine ⟨fun h => ?_, fun hmem => ?_⟩
  · obtain ⟨hmem, -, -⟩ := entry?_eq_some h
    exact hmem
  have hfind : r.find? id = some id := by
    cases hfind : r.find? id with
    | none =>
      have := List.find?_eq_none.1 hfind id hmem
      simp at this
    | some own =>
      have hvalue : own.value = id.value := by simpa using List.find?_some hfind
      rw [hinj own (List.mem_of_find?_eq_some hfind) hvalue]
  unfold entry?
  simp [hnull, hfind, ha]

end Registry

end AddonHost
