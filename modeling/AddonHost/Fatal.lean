import AddonHost.Text.Utf8

/-!
Texts of unrecoverable errors.

A fatal error has a location and a message.  Both come across the boundary as octets with an
explicit length, as octets that end at a NUL, or as a null pointer (`RawText`), and are read as
UTF-8 with damaged parts replaced.
-/

namespace AddonHost

/-- A text as it comes across the boundary. -/
inductive RawText where
  | null
  /-- Octets with an explicit length. -/
  | counted (octets : List UInt8)
  /-- Octets that end at the first NUL, or where the list ends. -/
  | terminated (octets : List UInt8)
  deriving DecidableEq, Repr, Inhabited

namespace RawText

/-- The octets that count. -/
def octets : RawText → List UInt8
  | null => []
  | counted octets => octets
  | terminated octets => octets.takeWhile (· ≠ 0)

/-- A text read as UTF-8; null reads as empty. -/
def text (t : RawText) : String := Text.decodeLossy t.octets

/-- The length that is passed: the number of octets, or the largest word for a text that ends at a
NUL. -/
def length : RawText → Nat
  | null => 0
  | counted octets => octets.length
  | terminated _ => UInt64.size - 1

/-- A text with its length. -/
def ofString (s : String) : RawText := counted (Text.encode s)

end RawText

/-- The line that reports a fatal error; an empty location is left out. -/
def fatalLine (location message : String) : String :=
  if location.isEmpty then "Fatal Node-API error: " ++ message
  else "Fatal Node-API error: " ++ location ++ " " ++ message

end AddonHost
