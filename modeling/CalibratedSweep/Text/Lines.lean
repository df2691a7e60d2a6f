/-!
The lines of a text. A line ends at a line feed, and a carriage return right before the line feed
belongs to the end of line. What follows the last line feed is a line unless it is empty.
-/

namespace CalibratedSweep.Text

/-- A line read backwards, without the carriage return that ends it. -/
def closeLine : List Char → List Char
  | '\r' :: line => line.reverse
  | line => line.reverse

/-- The lines of what is left, when `line` holds the current line backwards. -/
def linesFrom (line : List Char) : List Char → List (List Char)
  | [] => if line.isEmpty then [] else [line.reverse]
  | c :: rest => if c = '\n' then closeLine line :: linesFrom [] rest else linesFrom (c :: line) rest

def lines (s : List Char) : List (List Char) := linesFrom [] s

end CalibratedSweep.Text
