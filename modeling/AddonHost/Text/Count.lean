/-!
Counts on a command line.

A count is written in decimal digits with an optional plus sign and must fit a word; leading zeros
are allowed and blanks are not.
-/

namespace AddonHost.Text

/-- The number that digits stand for, if all characters are digits. -/
def digitsValue? (cs : List Char) : Option Nat :=
  cs.foldlM (fun n c => if c.isDigit then some (n * 10 + (c.toNat - 48)) else none) 0

/-- Read a count. -/
def count? (s : String) : Option Nat :=
  let cs := match s.toList with
    | '+' :: rest => rest
    | cs => cs
  if cs.isEmpty then none
  else (digitsValue? cs).bind fun n => if n < UInt64.size then some n else none

end AddonHost.Text
