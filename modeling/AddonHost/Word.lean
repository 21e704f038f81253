/-!
Machine words.

Everything that crosses the boundary between the host and an addon is 64 bits wide: opaque
handles, user data, queue bounds and holder counts.  `Word.pred` is the saturating decrement that
holder counts use (`Word.toNat_pred`), and `Word.pointer` is the text of a handle in log lines.
-/

namespace AddonHost

/-- A value that crosses the boundary: a handle, user data, a bound or a count. -/
abbrev Word := UInt64

/-- A word is read as a number where one is meant. -/
instance : Coe Word Nat := ⟨UInt64.toNat⟩

namespace Word

/-- One less, stopping at zero. -/
def pred (n : Word) : Word := if n = 0 then 0 else n - 1

/-- A word as an address: `0x` and lower-case hexadecimal digits, without padding. -/
def pointer (w : Word) : String := "0x" ++ String.ofList (Nat.toDigits 16 w.toNat)

/-- A word in decimal. -/
def decimal (w : Word) : String := Nat.repr w.toNat

theorem toNat_pred (n : Word) : (pred n).toNat = n.toNat - 1 := by
  unfold pred
  split
  · next h => simp [h]
  · next h =>
    have hn : n.toNat ≠ 0 := fun h0 => h (UInt64.toNat_inj.1 h0)
    have hlt : n.toNat < 2 ^ 64 := n.toNat_lt
    rw [UInt64.toNat_sub_of_le]
    · simp
    · rw [UInt64.le_iff_toNat_le]
      simp
      omega

end Word

end AddonHost
