import AddonHost.Word

/-!
Handle identifiers.

An opaque handle is a number, not an address, so a stale handle fails to resolve instead of
reaching a newer object.  Numbers come from an `IdSource`; the source is shared by all registries,
so one number never names two kinds of object.  Zero is the null handle.

An id is the place of its object among all that were ever given a number, so no two objects share
an id.  What crosses the boundary is the word of an id (`HandleId.value`), its low 64 bits.
-/

namespace AddonHost

/-- The number behind an opaque handle. -/
structure HandleId where
  number : Nat
  deriving DecidableEq, Repr, Inhabited

namespace HandleId

/-- The handle of an id. -/
def value (id : HandleId) : Word := id.number.toUInt64

/-- A word is the handle of its number. -/
@[simp] theorem value_toNat (w : Word) : (⟨w.toNat⟩ : HandleId).value = w := by
  simp [value]

/-- The null handle. -/
def null : HandleId := ⟨0⟩

/-- Whether a handle is null. -/
def isNull (id : HandleId) : Bool := id.value == 0

/-- An id as log lines show it. -/
def text (id : HandleId) : String := "#" ++ id.value.decimal

/-- An id as the description of a record shows it. -/
def debugText (id : HandleId) : String :=
  if id.isNull then "HandleId(NONE)" else "HandleId(" ++ id.value.decimal ++ ")"

end HandleId

/-- A source of handle ids: the next number to give out. -/
structure IdSource where
  next : Nat := 1
  deriving DecidableEq, Repr, Inhabited

namespace IdSource

/-- The next id, and the source after it. -/
def take (s : IdSource) : HandleId × IdSource := (⟨s.next⟩, ⟨s.next + 1⟩)

/-- The next `n` ids, in order, and the source after them. -/
def takeMany (s : IdSource) : Nat → List HandleId × IdSource
  | 0 => ([], s)
  | n + 1 =>
    let (id, s') := s.take
    let (ids, s'') := s'.takeMany n
    (id :: ids, s'')

/-- The description of a source; its counter is a word. -/
def debugText (s : IdSource) : String :=
  "IdAllocator \x7b next: " ++ Word.decimal s.next.toUInt64 ++ " \x7d"

@[simp] theorem take_fst (s : IdSource) : s.take.1 = ⟨s.next⟩ := rfl

@[simp] theorem take_snd (s : IdSource) : s.take.2 = ⟨s.next + 1⟩ := rfl

end IdSource

end AddonHost
