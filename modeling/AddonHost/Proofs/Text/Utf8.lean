import Mathlib
import AddonHost.Text.Utf8

/-!
What is read from octets that may be damaged.

`WellFormed` lists the octets of characters, with the number that they stand for.  They are the
octets that `encodeChar` writes (`wellFormed_encodeChar`, `WellFormed.encodeChar_ofNat`), and the
same that strings are made of (`encodeChar_eq`).  `Lossy` says what is read from any octets, without
saying how:

* the octets of a character give the character;
* where no character is next, the longest part that could start one, or a single octet if none
  could, gives one replacement character.

The main statements say that this is what is read (`lossy_iff`), that a text is read from its own
octets (`decodeLossy_encode`), and that valid octets are the octets of what is read from them
(`toByteArray_decodeLossy`).
-/

namespace AddonHost.Text

/-! ### Well-formed octets -/

/-- The least second octet after a first one. -/
def lowAfter (a : Nat) : Nat := if a = 0xe0 then 0xa0 else if a = 0xf0 then 0x90 else 0x80

/-- The greatest second octet after a first one. -/
def highAfter (a : Nat) : Nat := if a = 0xed then 0x9f else if a = 0xf4 then 0x8f else 0xbf

/-- Whether an octet goes on with a character after its second octet. -/
def IsTail (b : UInt8) : Prop := 0x80 ≤ b.toNat ∧ b.toNat ≤ 0xbf

/-- Whether an octet may come second after a first one. -/
def IsSecond (a b : UInt8) : Prop := lowAfter a.toNat ≤ b.toNat ∧ b.toNat ≤ highAfter a.toNat

/-- The octets of a character, and its number. -/
inductive WellFormed : List UInt8 → Nat → Prop where
  | one {a : UInt8} : a.toNat ≤ 0x7f → WellFormed [a] a.toNat
  | two {a b : UInt8} : 0xc2 ≤ a.toNat → a.toNat ≤ 0xdf → IsTail b →
    WellFormed [a, b] ((a.toNat - 0xc0) * 64 + (b.toNat - 0x80))
  | three {a b c : UInt8} : 0xe0 ≤ a.toNat → a.toNat ≤ 0xef → IsSecond a b → IsTail c →
    WellFormed [a, b, c]
      (((a.toNat - 0xe0) * 64 + (b.toNat - 0x80)) * 64 + (c.toNat - 0x80))
  | four {a b c d : UInt8} : 0xf0 ≤ a.toNat → a.toNat ≤ 0xf4 → IsSecond a b → IsTail c →
    IsTail d →
    WellFormed [a, b, c, d]
      ((((a.toNat - 0xf0) * 64 + (b.toNat - 0x80)) * 64 + (c.toNat - 0x80)) * 64
        + (d.toNat - 0x80))

/-- The numbers of characters. -/
theorem toNat_cases (c : Char) : c.toNat < 0xd800 ∨ 0xdfff < c.toNat ∧ c.toNat < 0x110000 :=
  c.valid

theorem toNat_toUInt8 {n : Nat} (h : n < 256) : n.toUInt8.toNat = n :=
  UInt8.toNat_ofNat_of_lt' h

/-- What is written for a character is well-formed. -/
theorem wellFormed_encodeChar (c : Char) : WellFormed (encodeChar c) c.toNat := by
  have hvalid := toNat_cases c
  unfold encodeChar
  generalize c.toNat = n at hvalid
  simp only
  split_ifs with h1 h2 h3
  · have ha : n.toUInt8.toNat = n := toNat_toUInt8 (by omega)
    have h := WellFormed.one (a := n.toUInt8) (by omega)
    rwa [ha] at h
  · have ha : (0xc0 + n / 64).toUInt8.toNat = 0xc0 + n / 64 := toNat_toUInt8 (by omega)
    have hb : (0x80 + n % 64).toUInt8.toNat = 0x80 + n % 64 := toNat_toUInt8 (by omega)
    have h := WellFormed.two (by omega) (by omega) (b := (0x80 + n % 64).toUInt8)
      ⟨by omega, by omega⟩ (a := (0xc0 + n / 64).toUInt8)
    have hn : (0xc0 + n / 64 - 0xc0) * 64 + (0x80 + n % 64 - 0x80) = n := by omega
    rwa [ha, hb, hn] at h
  · have ha : (0xe0 + n / 4096).toUInt8.toNat = 0xe0 + n / 4096 := toNat_toUInt8 (by omega)
    have hb : (0x80 + n / 64 % 64).toUInt8.toNat = 0x80 + n / 64 % 64 := toNat_toUInt8 (by omega)
    have hc : (0x80 + n % 64).toUInt8.toNat = 0x80 + n % 64 := toNat_toUInt8 (by omega)
    have hsecond : IsSecond (0xe0 + n / 4096).toUInt8 (0x80 + n / 64 % 64).toUInt8 := by
      rw [IsSecond, ha, hb, lowAfter, highAfter]
      split_ifs <;> omega
    have h := WellFormed.three (by omega) (by omega) hsecond (c := (0x80 + n % 64).toUInt8)
      ⟨by omega, by omega⟩
    have hn : ((0xe0 + n / 4096 - 0xe0) * 64 + (0x80 + n / 64 % 64 - 0x80)) * 64
        + (0x80 + n % 64 - 0x80) = n := by omega
    rwa [ha, hb, hc, hn] at h
  · have ha : (0xf0 + n / 262144).toUInt8.toNat = 0xf0 + n / 262144 := toNat_toUInt8 (by omega)
    have hb : (0x80 + n / 4096 % 64).toUInt8.toNat = 0x80 + n / 4096 % 64 :=
      toNat_toUInt8 (by omega)
    have hc : (0x80 + n / 64 % 64).toUInt8.toNat = 0x80 + n / 64 % 64 := toNat_toUInt8 (by omega)
    have hd : (0x80 + n % 64).toUInt8.toNat = 0x80 + n % 64 := toNat_toUInt8 (by omega)
    have hsecond : IsSecond (0xf0 + n / 262144).toUInt8 (0x80 + n / 4096 % 64).toUInt8 := by
      rw [IsSecond, ha, hb, lowAfter, highAfter]
      split_ifs <;> omega
    have h := WellFormed.four (by omega) (by omega) hsecond (c := (0x80 + n / 64 % 64).toUInt8)
      ⟨by omega, by omega⟩ (d := (0x80 + n % 64).toUInt8) ⟨by omega, by omega⟩
    have hn : (((0xf0 + n / 262144 - 0xf0) * 64 + (0x80 + n / 4096 % 64 - 0x80)) * 64
        + (0x80 + n / 64 % 64 - 0x80)) * 64 + (0x80 + n % 64 - 0x80) = n := by omega
    rwa [ha, hb, hc, hd, hn] at h

/-- What well-formed octets stand for is the number of a character. -/
theorem WellFormed.isValidChar {w : List UInt8} {n : Nat} (h : WellFormed w n) :
    n.isValidChar := by
  show n < 0xd800 ∨ 0xdfff < n ∧ n < 0x110000
  cases h with
  | one ha => omega
  | @two a b ha ha' hb =>
    unfold IsTail at hb
    omega
  | @three a b c ha ha' hb hc =>
    unfold IsTail at hc
    rw [IsSecond, lowAfter, highAfter] at hb
    split_ifs at hb <;> omega
  | @four a b c d ha ha' hb hc hd =>
    unfold IsTail at hc hd
    rw [IsSecond, lowAfter, highAfter] at hb
    split_ifs at hb <;> omega

theorem WellFormed.length_pos {w : List UInt8} {n : Nat} (h : WellFormed w n) : 0 < w.length := by
  cases h <;> simp

theorem toUInt8_eq {n : Nat} {a : UInt8} (h : n = a.toNat) : n.toUInt8 = a := by
  subst h
  exact UInt8.ofNat_toNat

/-- Well-formed octets are what is written for a character. -/
theorem WellFormed.encodeChar_ofNat {w : List UInt8} {n : Nat} (h : WellFormed w n) :
    encodeChar (Char.ofNat n) = w := by
  have hn : (Char.ofNat n).toNat = n := by rw [Char.toNat_ofNat, if_pos h.isValidChar]
  unfold encodeChar
  simp only [hn]
  cases h with
  | @one a ha =>
    rw [if_pos (by omega), toUInt8_eq rfl]
  | @two a b ha ha' hb =>
    unfold IsTail at hb
    rw [if_neg (by omega), if_pos (by omega), toUInt8_eq (a := a) (by omega),
      toUInt8_eq (a := b) (by omega)]
  | @three a b c ha ha' hb hc =>
    unfold IsTail at hc
    have hlow : 0x800 ≤ (a.toNat - 0xe0) * 64 * 64 + (b.toNat - 0x80) * 64 ∧
        0x80 ≤ b.toNat ∧ b.toNat ≤ 0xbf := by
      rw [IsSecond, lowAfter, highAfter] at hb
      split_ifs at hb <;> omega
    rw [if_neg (by omega), if_neg (by omega), if_pos (by omega), toUInt8_eq (a := a) (by omega),
      toUInt8_eq (a := b) (by omega), toUInt8_eq (a := c) (by omega)]
  | @four a b c d ha ha' hb hc hd =>
    unfold IsTail at hc hd
    have hlow : 0x10 ≤ (a.toNat - 0xf0) * 64 + (b.toNat - 0x80) ∧
        0x80 ≤ b.toNat ∧ b.toNat ≤ 0xbf := by
      rw [IsSecond, lowAfter, highAfter] at hb
      split_ifs at hb <;> omega
    rw [if_neg (by omega), if_neg (by omega), if_neg (by omega), toUInt8_eq (a := a) (by omega),
      toUInt8_eq (a := b) (by omega), toUInt8_eq (a := c) (by omega),
      toUInt8_eq (a := d) (by omega)]

/-! ### Reading -/

namespace Utf8State

variable {b : UInt8} {bits owed low high : Nat}

theorem finish_one (hb : b.toNat ≤ 0x7f) (rest : List UInt8) :
    between.finish (b :: rest) = Char.ofNat b.toNat :: between.finish rest := by
  rw [finish, octet, startOctet, if_pos hb]
  rfl

theorem finish_two (hb : 0xc2 ≤ b.toNat) (hb' : b.toNat ≤ 0xdf) (rest : List UInt8) :
    between.finish (b :: rest) = (inside (b.toNat - 0xc0) 1 0x80 0xbf).finish rest := by
  rw [finish, octet, startOctet, if_neg (by omega), if_pos ⟨hb, hb'⟩]
  rfl

theorem finish_three (hb : 0xe0 ≤ b.toNat) (hb' : b.toNat ≤ 0xef) (rest : List UInt8) :
    between.finish (b :: rest)
      = (inside (b.toNat - 0xe0) 2 (lowAfter b.toNat) (highAfter b.toNat)).finish rest := by
  have hstart : startOctet b.toNat
      = ([], inside (b.toNat - 0xe0) 2 (lowAfter b.toNat) (highAfter b.toNat)) := by
    unfold startOctet lowAfter highAfter
    split_ifs <;> first | omega | simp_all
  rw [finish, octet, hstart]
  rfl

theorem finish_four (hb : 0xf0 ≤ b.toNat) (hb' : b.toNat ≤ 0xf4) (rest : List UInt8) :
    between.finish (b :: rest)
      = (inside (b.toNat - 0xf0) 3 (lowAfter b.toNat) (highAfter b.toNat)).finish rest := by
  have hstart : startOctet b.toNat
      = ([], inside (b.toNat - 0xf0) 3 (lowAfter b.toNat) (highAfter b.toNat)) := by
    unfold startOctet lowAfter highAfter
    split_ifs <;> first | omega | simp_all
  rw [finish, octet, hstart]
  rfl

/-- An octet that no character starts with. -/
theorem finish_none (hb : 0x80 ≤ b.toNat) (hb' : b.toNat < 0xc2 ∨ 0xf4 < b.toNat)
    (rest : List UInt8) :
    between.finish (b :: rest) = replacement :: between.finish rest := by
  have hstart : startOctet b.toNat = ([replacement], between) := by
    unfold startOctet
    split_ifs <;> first | omega | rfl
  rw [finish, octet, hstart]
  rfl

/-- The last octet of a character. -/
theorem finish_last (hlow : low ≤ b.toNat) (hhigh : b.toNat ≤ high) (rest : List UInt8) :
    (inside bits 1 low high).finish (b :: rest)
      = Char.ofNat (bits * 64 + (b.toNat - 0x80)) :: between.finish rest := by
  rw [finish, octet, if_pos ⟨hlow, hhigh⟩]
  rfl

/-- An octet inside a character. -/
theorem finish_next (hlow : low ≤ b.toNat) (hhigh : b.toNat ≤ high) (rest : List UInt8) :
    (inside bits (owed + 2) low high).finish (b :: rest)
      = (inside (bits * 64 + (b.toNat - 0x80)) (owed + 1) 0x80 0xbf).finish rest := by
  rw [finish, octet, if_pos ⟨hlow, hhigh⟩]
  rfl

/-- An octet that does not go on with a character is read again. -/
theorem finish_break (hb : ¬(low ≤ b.toNat ∧ b.toNat ≤ high)) (rest : List UInt8) :
    (inside bits owed low high).finish (b :: rest)
      = replacement :: between.finish (b :: rest) := by
  rw [finish, octet, if_neg hb, finish, octet]
  rfl

end Utf8State

open Utf8State

/-- The octets of a character are read as the character. -/
theorem WellFormed.finish {w : List UInt8} {n : Nat} (h : WellFormed w n) (rest : List UInt8) :
    between.finish (w ++ rest) = Char.ofNat n :: between.finish rest := by
  cases h with
  | one ha => exact finish_one ha rest
  | two ha ha' hb =>
    rw [List.cons_append, finish_two ha ha', List.cons_append, finish_last hb.1 hb.2,
      List.nil_append]
  | three ha ha' hb hc =>
    rw [List.cons_append, finish_three ha ha', List.cons_append, finish_next hb.1 hb.2,
      List.cons_append, finish_last hc.1 hc.2, List.nil_append]
  | four ha ha' hb hc hd =>
    rw [List.cons_append, finish_four ha ha', List.cons_append, finish_next hb.1 hb.2,
      List.cons_append, finish_next hc.1 hc.2, List.cons_append, finish_last hd.1 hd.2,
      List.nil_append]

theorem finish_encodeChar (c : Char) (rest : List UInt8) :
    between.finish (encodeChar c ++ rest) = c :: between.finish rest := by
  rw [(wellFormed_encodeChar c).finish, Char.ofNat_toNat]

/-- A text is read from its own octets. -/
theorem decodeLossy_encode (s : String) : decodeLossy (encode s) = s := by
  have hlist (cs : List Char) : between.finish (cs.flatMap encodeChar) = cs := by
    induction cs with
    | nil => rfl
    | cons c cs ih => rw [List.flatMap_cons, finish_encodeChar, ih]
  rw [decodeLossy, encode, hlist, String.ofList_toList]

/-! ### The octets of strings -/

/-- The octets that strings are made of are the ones written here. -/
theorem encodeChar_eq (c : Char) : encodeChar c = String.utf8EncodeChar c := by
  have hvalid : c.val.toNat < 0xd800 ∨ 0xdfff < c.val.toNat ∧ c.val.toNat < 0x110000 :=
    toNat_cases c
  have htoNat : c.toNat = c.val.toNat := rfl
  -- the digits of lead octets are written without the remainder, which they do not need
  have hlow (k : Nat) : 0x80 + k % 64 = k % 64 + 128 := by omega
  simp only [encodeChar, String.utf8EncodeChar, htoNat, hlow]
  generalize c.val.toNat = n at hvalid
  by_cases h1 : n < 0x80
  · rw [if_pos h1, if_pos (by omega)]
  · by_cases h2 : n < 0x800
    · rw [if_neg h1, if_pos h2, if_neg (by omega), if_pos (by omega),
        show 0xc0 + n / 64 = n / 64 % 32 + 192 by omega]
    · by_cases h3 : n < 0x10000
      · rw [if_neg h1, if_neg h2, if_pos h3, if_neg (by omega), if_neg (by omega),
          if_pos (by omega), show 0xe0 + n / 4096 = n / 4096 % 16 + 224 by omega]
      · rw [if_neg h1, if_neg h2, if_neg h3, if_neg (by omega), if_neg (by omega),
          if_neg (by omega), show 0xf0 + n / 262144 = n / 262144 % 8 + 240 by omega]

theorem toByteArray_encode (s : String) : (encode s).toByteArray = s.toByteArray := by
  have henc : encodeChar = String.utf8EncodeChar := funext encodeChar_eq
  calc (encode s).toByteArray
      = s.toList.utf8Encode := by rw [encode, henc]; rfl
    _ = s.toByteArray := by rw [← String.toByteArray_ofList, String.ofList_toList]

/-- Valid octets are the octets of what is read from them. -/
theorem toByteArray_decodeLossy {octets : List UInt8} (h : octets.toByteArray.IsValidUTF8) :
    (decodeLossy octets).toByteArray = octets.toByteArray := by
  obtain ⟨cs, hcs⟩ := h
  have hencode : (encode (String.ofList cs)).toByteArray = octets.toByteArray := by
    rw [toByteArray_encode, String.toByteArray_ofList, hcs]
  have hoctets : octets = encode (String.ofList cs) := by
    have := congrArg (fun b => b.data.toList) hencode
    simpa using this.symm
  rw [hoctets, decodeLossy_encode, toByteArray_encode]

/-! ### Damaged octets -/

/-- Whether a character could start with these octets. -/
def StartsCharacter (part : List UInt8) : Prop := ∃ c, part <+: encodeChar c

/-- A part that is damaged as a whole: it could start a character, or is a single octet that could
not, and the octet after it, if there is one, does not go on with a character. -/
structure MaximalSubpart (part rest : List UInt8) : Prop where
  ne_nil : part ≠ []
  starts : StartsCharacter part ∨ part.length = 1
  maximal : ∀ b, rest.head? = some b → ¬StartsCharacter (part ++ [b])

/-- What is read from octets: each character from its own octets, and, where no character is next,
one replacement character from the maximal damaged part. -/
inductive Lossy : List UInt8 → List Char → Prop where
  | nil : Lossy [] []
  | character (c : Char) {rest : List UInt8} {cs : List Char} :
    Lossy rest cs → Lossy (encodeChar c ++ rest) (c :: cs)
  | damaged {part rest : List UInt8} {cs : List Char} :
    (∀ c, ¬encodeChar c <+: part ++ rest) → MaximalSubpart part rest → Lossy rest cs →
    Lossy (part ++ rest) (replacement :: cs)

theorem StartsCharacter.mono {part whole : List UInt8} (h : StartsCharacter whole)
    (hpart : part <+: whole) : StartsCharacter part :=
  h.imp fun _ => hpart.trans

theorem WellFormed.startsCharacter {w part : List UInt8} {n : Nat} (h : WellFormed w n)
    (hpart : part <+: w) : StartsCharacter part :=
  ⟨Char.ofNat n, by rwa [h.encodeChar_ofNat]⟩

theorem isTail_least : IsTail 0x80 := by
  unfold IsTail
  decide

theorem lowAfter_lt (n : Nat) : lowAfter n < 256 := by
  unfold lowAfter
  split_ifs <;> omega

theorem isSecond_least (a : UInt8) : IsSecond a (lowAfter a.toNat).toUInt8 := by
  rw [IsSecond, toNat_toUInt8 (lowAfter_lt _), lowAfter, highAfter]
  split_ifs <;> omega

section Starts

variable {a b c d : UInt8}

theorem startsCharacter_two (ha : 0xc2 ≤ a.toNat) (ha' : a.toNat ≤ 0xdf) (hb : IsTail b) :
    StartsCharacter [a, b] :=
  (WellFormed.two ha ha' hb).startsCharacter (List.prefix_refl _)

theorem startsCharacter_three (ha : 0xe0 ≤ a.toNat) (ha' : a.toNat ≤ 0xef) (hb : IsSecond a b)
    (hc : IsTail c) : StartsCharacter [a, b, c] :=
  (WellFormed.three ha ha' hb hc).startsCharacter (List.prefix_refl _)

theorem startsCharacter_four (ha : 0xf0 ≤ a.toNat) (ha' : a.toNat ≤ 0xf4) (hb : IsSecond a b)
    (hc : IsTail c) (hd : IsTail d) : StartsCharacter [a, b, c, d] :=
  (WellFormed.four ha ha' hb hc hd).startsCharacter (List.prefix_refl _)

/-- An octet that no character starts with is one of those that are always damaged. -/
theorem range_of_not_startsCharacter (h : ¬StartsCharacter [a]) :
    0x80 ≤ a.toNat ∧ (a.toNat < 0xc2 ∨ 0xf4 < a.toNat) := by
  by_contra hrange
  refine h ?_
  have hfirst (rest : List UInt8) : [a] <+: a :: rest := List.prefix_append [a] rest
  by_cases h1 : a.toNat ≤ 0x7f
  · exact (WellFormed.one h1).startsCharacter (hfirst [])
  · by_cases h2 : a.toNat ≤ 0xdf
    · exact (startsCharacter_two (by omega) h2 isTail_least).mono (hfirst _)
    · by_cases h3 : a.toNat ≤ 0xef
      · exact (startsCharacter_three (by omega) h3 (isSecond_least a) isTail_least).mono
          (hfirst _)
      · exact (startsCharacter_four (by omega) (by omega) (isSecond_least a) isTail_least
          isTail_least).mono (hfirst _)

end Starts

/-- Octets that break off a character: reading stands inside the character, and every octet that it
would go on with goes on with a character. -/
theorem WellFormed.inside {w part : List UInt8} {n : Nat} (h : WellFormed w n) (hpart : part <+: w)
    (hnil : part ≠ []) (hwhole : part ≠ w) :
    ∃ bits owed low high,
      (∀ rest, between.finish (part ++ rest) = (Utf8State.inside bits owed low high).finish rest) ∧
      ∀ b : UInt8, low ≤ b.toNat → b.toNat ≤ high → StartsCharacter (part ++ [b]) := by
  cases h with
  | one ha =>
    simp only [List.prefix_cons_iff, List.prefix_nil] at hpart
    obtain rfl | ⟨_, rfl, rfl⟩ := hpart <;> contradiction
  | two ha ha' hb =>
    simp only [List.prefix_cons_iff, List.prefix_nil] at hpart
    obtain rfl | ⟨_, rfl, rfl | ⟨_, rfl, rfl⟩⟩ := hpart
    · contradiction
    · refine ⟨_, _, _, _, finish_two ha ha', fun b hlow hhigh => ?_⟩
      exact startsCharacter_two ha ha' ⟨hlow, hhigh⟩
    · contradiction
  | three ha ha' hb hc =>
    simp only [List.prefix_cons_iff, List.prefix_nil] at hpart
    obtain rfl | ⟨_, rfl, rfl | ⟨_, rfl, rfl | ⟨_, rfl, rfl⟩⟩⟩ := hpart
    · contradiction
    · refine ⟨_, _, _, _, finish_three ha ha', fun b hlow hhigh => ?_⟩
      exact (startsCharacter_three ha ha' ⟨hlow, hhigh⟩ isTail_least).mono
        (List.prefix_append _ [_])
    · refine ⟨_, _, _, _, fun rest => (finish_three ha ha' _).trans (finish_next hb.1 hb.2 rest),
        fun b hlow hhigh => ?_⟩
      exact startsCharacter_three ha ha' hb ⟨hlow, hhigh⟩
    · contradiction
  | four ha ha' hb hc hd =>
    simp only [List.prefix_cons_iff, List.prefix_nil] at hpart
    obtain rfl | ⟨_, rfl, rfl | ⟨_, rfl, rfl | ⟨_, rfl, rfl | ⟨_, rfl, rfl⟩⟩⟩⟩ := hpart
    · contradiction
    · refine ⟨_, _, _, _, finish_four ha ha', fun b hlow hhigh => ?_⟩
      exact (startsCharacter_four ha ha' ⟨hlow, hhigh⟩ isTail_least isTail_least).mono
        (List.prefix_append _ [_, _])
    · refine ⟨_, _, _, _, fun rest => (finish_four ha ha' _).trans (finish_next hb.1 hb.2 rest),
        fun b hlow hhigh => ?_⟩
      exact (startsCharacter_four ha ha' hb ⟨hlow, hhigh⟩ isTail_least).mono
        (List.prefix_append _ [_])
    · refine ⟨_, _, _, _, fun rest => ((finish_four ha ha' _).trans
          (finish_next hb.1 hb.2 _)).trans (finish_next hc.1 hc.2 rest),
        fun b hlow hhigh => ?_⟩
      exact startsCharacter_four ha ha' hb hc ⟨hlow, hhigh⟩
    · contradiction

/-- A damaged part is read as one replacement character. -/
theorem MaximalSubpart.finish {part rest : List UInt8} (h : MaximalSubpart part rest)
    (hnone : ∀ c, ¬encodeChar c <+: part ++ rest) :
    between.finish (part ++ rest) = replacement :: between.finish rest := by
  by_cases hstarts : StartsCharacter part
  · obtain ⟨c, hc⟩ := hstarts
    have hwhole : part ≠ encodeChar c := by
      rintro rfl
      exact hnone c (List.prefix_append _ _)
    obtain ⟨bits, owed, low, high, hfinish, hnext⟩ :=
      (wellFormed_encodeChar c).inside hc h.ne_nil hwhole
    rw [hfinish]
    -- the end cuts the character off, or an octet does that it would not go on with
    cases rest with
    | nil => rfl
    | cons b rest =>
      exact finish_break (fun hb => h.maximal b rfl (hnext b hb.1 hb.2)) rest
  · obtain ⟨a, rfl⟩ := List.length_eq_one_iff.mp (h.starts.resolve_left hstarts)
    obtain ⟨ha, ha'⟩ := range_of_not_startsCharacter hstarts
    exact finish_none ha ha' rest

/-- Where octets start a character, there is a longest such part. -/
theorem StartsCharacter.exists_maximalSubpart {part : List UInt8} (h : StartsCharacter part)
    (hnil : part ≠ []) (rest : List UInt8) :
    ∃ part' rest', part' ++ rest' = part ++ rest ∧ MaximalSubpart part' rest' := by
  induction rest generalizing part with
  | nil => exact ⟨part, [], rfl, hnil, .inl h, by simp⟩
  | cons b rest ih =>
    by_cases hb : StartsCharacter (part ++ [b])
    · obtain ⟨part', rest', heq, hpart'⟩ := ih hb (by simp)
      exact ⟨part', rest', by rw [heq, List.append_assoc, List.singleton_append], hpart'⟩
    · refine ⟨part, b :: rest, rfl, hnil, .inl h, ?_⟩
      simpa using hb

theorem exists_maximalSubpart (a : UInt8) (rest : List UInt8) :
    ∃ part' rest', part' ++ rest' = a :: rest ∧ MaximalSubpart part' rest' := by
  by_cases ha : StartsCharacter [a]
  · exact ha.exists_maximalSubpart (List.cons_ne_nil a []) rest
  · refine ⟨[a], rest, rfl, List.cons_ne_nil a [], .inr rfl, fun b _ hb => ha ?_⟩
    exact hb.mono (List.prefix_append [a] [b])

/-- Whatever the octets are, something is read from them. -/
theorem exists_lossy (octets : List UInt8) : ∃ cs, Lossy octets cs := by
  -- a character and a damaged part both take octets away, so the induction is on how many are left
  induction hlen : octets.length using Nat.strong_induction_on generalizing octets with
  | _ len ih =>
    subst hlen
    by_cases hchar : ∃ c, encodeChar c <+: octets
    · obtain ⟨c, rest, rfl⟩ := hchar
      have hpos := (wellFormed_encodeChar c).length_pos
      obtain ⟨cs, hcs⟩ := ih rest.length (by rw [List.length_append]; omega) rest rfl
      exact ⟨c :: cs, .character c hcs⟩
    · cases octets with
      | nil => exact ⟨[], .nil⟩
      | cons a rest =>
        obtain ⟨part, rest', heq, hpart⟩ := exists_maximalSubpart a rest
        have hpos : 0 < part.length := List.length_pos_iff.mpr hpart.ne_nil
        rw [← heq] at hchar ih ⊢
        obtain ⟨cs, hcs⟩ := ih rest'.length (by rw [List.length_append]; omega) rest' rfl
        exact ⟨replacement :: cs, .damaged (not_exists.mp hchar) hpart hcs⟩

theorem Lossy.finish {octets : List UInt8} {cs : List Char} (h : Lossy octets cs) :
    between.finish octets = cs := by
  induction h with
  | nil => rfl
  | character c _ ih => rw [finish_encodeChar, ih]
  | damaged hnone hpart _ ih => rw [hpart.finish hnone, ih]

/-- What is read from octets is what `Lossy` says, and nothing else is. -/
theorem lossy_iff {octets : List UInt8} {cs : List Char} :
    Lossy octets cs ↔ (decodeLossy octets).toList = cs := by
  rw [decodeLossy, String.toList_ofList]
  refine ⟨Lossy.finish, fun hcs => ?_⟩
  obtain ⟨cs', hlossy⟩ := exists_lossy octets
  rwa [← hcs, hlossy.finish]

/-- The first three octets could start a character and are one damaged part; those of a surrogate
could not, and are three. -/
example : decodeLossy [0xf0, 0x9f, 0x92, 0x41, 0xed, 0xa0, 0x80] = "\ufffdA\ufffd\ufffd\ufffd" := by
  decide

end AddonHost.Text
