/-!
Durations in words.

A duration is a number of nanoseconds.  It is shown in the largest of the units s, ms, µs and ns
of which it holds at least one, with the rest as a decimal fraction without trailing zeros
(`fraction`).
-/

namespace AddonHost.Text

/-- The digits of `rest` in `width` places after a point, without trailing zeros; nothing for a
whole number. -/
def fraction (rest width : Nat) : String :=
  let digits := (Nat.toDigits 10 rest)
  let padded := List.replicate (width - digits.length) '0' ++ digits
  let kept := (padded.reverse.dropWhile (· = '0')).reverse
  if kept.isEmpty then "" else "." ++ String.ofList kept

/-- A duration of `nanos` nanoseconds in words. -/
def durationText (nanos : Nat) : String :=
  if 1000000000 ≤ nanos then
    Nat.repr (nanos / 1000000000) ++ fraction (nanos % 1000000000) 9 ++ "s"
  else if 1000000 ≤ nanos then
    Nat.repr (nanos / 1000000) ++ fraction (nanos % 1000000) 6 ++ "ms"
  else if 1000 ≤ nanos then
    Nat.repr (nanos / 1000) ++ fraction (nanos % 1000) 3 ++ "µs"
  else
    Nat.repr nanos ++ "ns"

end AddonHost.Text
