/-
  `Text.Lines` — the lines of a text.

  A line ends at a line feed, and a carriage return right before that line feed
  belongs to the ending. What follows the last line feed is a line of its own
  unless it is empty.
-/
namespace ZeroTrust.Text

/-- The characters without a carriage return at their end. -/
def dropReturn (cs : List Char) : List Char :=
  if cs.getLast? = some '\r' then cs.dropLast else cs

/-- The lines among the pieces between line feeds: only the last piece may be no line. -/
def linesOfPieces : List (List Char) → List (List Char)
  | [] => []
  | [last] => if last.isEmpty then [] else [last]
  | piece :: pieces => dropReturn piece :: linesOfPieces pieces

/-- The lines of a text, in order and without their endings. -/
def lines (s : String) : List String :=
  (linesOfPieces (s.toList.splitOn '\n')).map String.ofList

example : lines "a\r\n\nb\r" = ["a", "", "b\r"] := by decide

end ZeroTrust.Text
