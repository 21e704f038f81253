/-!
Reading UTF-8 that may be damaged.

`decodeLossy` reads octets one at a time.  Octets that form a character give that character; each
maximal run of octets that starts a character but does not finish it gives one replacement
character, and so does each octet that starts none.  Octets are the `UInt8`s of the text as it came
across the boundary; `encode` writes characters as octets.
-/

namespace AddonHost.Text

/-- The replacement character U+FFFD. -/
def replacement : Char := Char.ofNat 0xfffd

/-- Where reading stands: between characters, or inside one, with the bits read so far, the number
of octets owed and the bounds of the next one. -/
inductive Utf8State where
  | between
  | inside (bits owed low high : Nat)
  deriving DecidableEq, Repr

/-- Read an octet between characters: the characters that are finished, and where reading stands. -/
def startOctet (b : Nat) : List Char × Utf8State :=
  if b ≤ 0x7f then ([Char.ofNat b], .between)
  else if 0xc2 ≤ b ∧ b ≤ 0xdf then ([], .inside (b - 0xc0) 1 0x80 0xbf)
  else if b = 0xe0 then ([], .inside 0 2 0xa0 0xbf)
  else if b = 0xed then ([], .inside 0xd 2 0x80 0x9f)
  else if 0xe1 ≤ b ∧ b ≤ 0xef then ([], .inside (b - 0xe0) 2 0x80 0xbf)
  else if b = 0xf0 then ([], .inside 0 3 0x90 0xbf)
  else if 0xf1 ≤ b ∧ b ≤ 0xf3 then ([], .inside (b - 0xf0) 3 0x80 0xbf)
  else if b = 0xf4 then ([], .inside 4 3 0x80 0x8f)
  else ([replacement], .between)

/-- Read one octet. -/
def Utf8State.octet (q : Utf8State) (b : Nat) : List Char × Utf8State :=
  match q with
  | .between => startOctet b
  | .inside bits owed low high =>
    if low ≤ b ∧ b ≤ high then
      let bits' := bits * 64 + (b - 0x80)
      if owed = 1 then ([Char.ofNat bits'], .between) else ([], .inside bits' (owed - 1) 0x80 0xbf)
    else
      let (cs, q') := startOctet b
      (replacement :: cs, q')

/-- Read the octets that remain; a character that the end cuts off is replaced. -/
def Utf8State.finish (q : Utf8State) : List UInt8 → List Char
  | [] =>
    match q with
    | .between => []
    | .inside .. => [replacement]
  | b :: rest =>
    let (cs, q') := q.octet b.toNat
    cs ++ q'.finish rest

/-- The characters of octets, each maximal damaged part replaced by one replacement character. -/
def decodeLossy (octets : List UInt8) : String :=
  String.ofList (Utf8State.between.finish octets)

/-- The octets of a character. -/
def encodeChar (c : Char) : List UInt8 :=
  let n := c.toNat
  if n < 0x80 then [n.toUInt8]
  else if n < 0x800 then [(0xc0 + n / 64).toUInt8, (0x80 + n % 64).toUInt8]
  else if n < 0x10000 then
    [(0xe0 + n / 4096).toUInt8, (0x80 + n / 64 % 64).toUInt8, (0x80 + n % 64).toUInt8]
  else
    [(0xf0 + n / 262144).toUInt8, (0x80 + n / 4096 % 64).toUInt8, (0x80 + n / 64 % 64).toUInt8,
      (0x80 + n % 64).toUInt8]

/-- The octets of a text. -/
def encode (s : String) : List UInt8 := s.toList.flatMap encodeChar

end AddonHost.Text
