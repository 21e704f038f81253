import AddonHost.Text.Printable

/-!
Quoted texts.

A text in double quotes, with a backslash before a quote or a backslash, the usual letters for tab,
line feed, carriage return and NUL, and the hexadecimal code point in braces for every other
character that is not printable.
-/

namespace AddonHost.Text

/-- One character inside double quotes. -/
def quoteChar (c : Char) : String :=
  if c = '"' then "\\\""
  else if c = '\\' then "\\\\"
  else if c = '\t' then "\\t"
  else if c = '\n' then "\\n"
  else if c = '\r' then "\\r"
  else if c.toNat = 0 then "\\0"
  else if isPrintable c then c.toString
  else "\\u\x7b" ++ String.ofList (Nat.toDigits 16 c.toNat) ++ "\x7d"

/-- A text in double quotes. -/
def quote (s : String) : String :=
  "\"" ++ String.join (s.toList.map quoteChar) ++ "\""

/-- Quoted texts in brackets, separated by a comma and a blank. -/
def quoteList (texts : List String) : String :=
  "[" ++ String.intercalate ", " (texts.map quote) ++ "]"

end AddonHost.Text
