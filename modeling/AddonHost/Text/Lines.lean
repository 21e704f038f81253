/-!
Lines of an output stream.

What a program writes is cut at line feeds; a carriage return before the line feed belongs to the
line's end.  `splitLines` takes a text that was written with a closing line feed.
-/

namespace AddonHost.Text

/-- Drop one carriage return from the end. -/
def dropReturn (cs : List Char) : List Char :=
  match cs.getLast? with
  | some '\r' => cs.dropLast
  | _ => cs

/-- The lines of a text to which a closing line feed is added. -/
def splitLines (s : String) : List String :=
  (s.splitOn "\n").map fun line => String.ofList (dropReturn line.toList)

end AddonHost.Text
