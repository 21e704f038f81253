import Mathlib
import AddonHost.Handle

/-!
The handles of ids.

What crosses the boundary is the word of an id, and a word has room for `2 ^ 64` ids.  As long as no
more were given out, an id is known by its handle, and none but the null id has the null handle.
-/

namespace AddonHost

namespace HandleId

variable {id id' : HandleId}

theorem toNat_value (h : id.number < 2 ^ 64) : id.value.toNat = id.number := by
  rw [value, Nat.toUInt64_eq, UInt64.toNat_ofNat', Nat.mod_eq_of_lt h]

/-- Ids of which no more were given out than there are words have handles of their own. -/
theorem value_inj (h : id.number < 2 ^ 64) (h' : id'.number < 2 ^ 64) :
    id.value = id'.value ↔ id = id' := by
  rw [← UInt64.toNat_inj, toNat_value h, toNat_value h']
  exact ⟨congrArg HandleId.mk, congrArg number⟩

/-- The handles of the first ids are not null. -/
theorem isNull_eq_false (hpos : 0 < id.number) (h : id.number < 2 ^ 64) : id.isNull = false := by
  have hne : id.value ≠ 0 := by
    rw [Ne, ← UInt64.toNat_inj, toNat_value h]
    exact hpos.ne'
  simpa [isNull] using hne

/-- Two ids with one handle are far apart: more ids were given out than there are words. -/
theorem lt_of_value_eq {n : ℕ} (hne : id ≠ id') (h : id.value = id'.value)
    (hid : id.number < n) (hid' : id'.number < n) : 2 ^ 64 < n :=
  Nat.lt_of_not_le fun _ => hne ((value_inj (by omega) (by omega)).1 h)

end HandleId

end AddonHost
