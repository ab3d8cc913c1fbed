/-!
# Lines

The lines of a text. A line ends at a line feed, a carriage return just before the line feed
belongs to the line end, and a line feed at the very end of the text opens no further line.
-/

namespace ClientGen.Text

def closeLine : List Char → List Char
  | '\r' :: rest => rest.reverse
  | line => line.reverse

/-- The lines of what is left of a text, given the characters already read of the current line,
in reverse order. -/
def linesFrom (line : List Char) : List Char → List (List Char)
  | [] => if line.isEmpty then [] else [line.reverse]
  | c :: rest =>
      if c = '\n' then closeLine line :: linesFrom [] rest else linesFrom (c :: line) rest

def lines (s : String) : List String :=
  (linesFrom [] s.toList).map String.ofList

example : lines "" = [] := by decide
example : lines "a\r\nb\n\nc\r" = ["a", "b", "", "c\r"] := by decide

end ClientGen.Text
