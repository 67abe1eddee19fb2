/-!
# Lines

A text falls into lines at thirteen line ends: line feed, carriage return, both together,
vertical tab, form feed, three information separators, next line, and the line and paragraph
separators. The end of a text closes its last line, so a final line end opens no empty one.
Files know fewer line ends: on reading, a carriage return, alone or before a line feed,
counts as a line feed.
-/

namespace TradeJournal.Text

/-- Whether a character ends a line. -/
def endsLine (c : Char) : Bool :=
  let n := c.toNat
  (10 ≤ n && n ≤ 13) || (0x1C ≤ n && n ≤ 0x1E) || n == 0x85 || n == 0x2028 || n == 0x2029

/-- The lines of a text; the first argument is the line read so far, in reverse, and `none`
when the text has ended at a line end. -/
def linesFrom (current : Option (List Char)) : List Char → List (List Char)
  | [] => (current.map List.reverse).toList
  | '\r' :: '\n' :: rest => (current.getD []).reverse :: linesFrom none rest
  | c :: rest =>
    if endsLine c then (current.getD []).reverse :: linesFrom none rest
    else linesFrom (some (c :: current.getD [])) rest

/-- **The lines of a text**, without their ends. -/
def lines (s : List Char) : List (List Char) := linesFrom none s

/-- Every line end of a file as a single line feed. -/
def unifyLineEnds : List Char → List Char
  | [] => []
  | '\r' :: '\n' :: rest => '\n' :: unifyLineEnds rest
  | '\r' :: rest => '\n' :: unifyLineEnds rest
  | c :: rest => c :: unifyLineEnds rest

end TradeJournal.Text
