import TradeJournal.Text.Half

/-!
# Places in a YAML text

What is left of a text, together with the line and column reached. Columns decide how a text is
structured, so the cursor keeps them while it moves. The end of the text counts as a blank
and as a line end wherever one of these is asked for.
-/

namespace TradeJournal.Yaml

/-- Whether a character ends a line. -/
def isBreak (c : Char) : Bool :=
  c = '\n' ∨ c = '\r' ∨ c.toNat = 0x85 ∨ c.toNat = 0x2028 ∨ c.toNat = 0x2029

/-- Whether a character separates tokens: a space, a tab or a line end. -/
def isSeparator (c : Char) : Bool := c = ' ' ∨ c = '\t' ∨ isBreak c

/-- Whether a character may stand in a text. -/
def isAllowed (c : Char) : Bool :=
  let n := c.toNat
  n = 9 ∨ n = 10 ∨ n = 13 ∨ (0x20 ≤ n ∧ n ≤ 0x7E) ∨ n = 0x85 ∨ (0xA0 ≤ n ∧ n ≤ 0xD7FF)
    ∨ (0xE000 ≤ n ∧ n ≤ 0xFFFD) ∨ (0x10000 ≤ n ∧ (Text.half? c).isNone)

/-- Whether a test holds of the first character of a text, or the text has ended. -/
def endOr (test : Char → Bool) (s : List Char) : Bool := (s.head?.map test).getD true

/-- **A place in a text**: what is left, the characters before it, the line and the column. -/
structure Cursor where
  rest : List Char
  index : Nat := 0
  line : Nat := 0
  column : Nat := 0
  deriving Repr

namespace Cursor

/-- One character further on. -/
def next (c : Cursor) : Cursor :=
  match c.rest with
  | [] => c
  | char :: rest =>
    if isBreak char && !(char = '\r' && rest.head? = some '\n') then
      ⟨rest, c.index + 1, c.line + 1, 0⟩
    else if char.toNat = 0xFEFF then ⟨rest, c.index + 1, c.line, c.column⟩
    else ⟨rest, c.index + 1, c.line, c.column + 1⟩

/-- Some characters further on. -/
def skip : Nat → Cursor → Cursor
  | 0, c => c
  | n + 1, c => skip n c.next

/-- The characters of which a test holds, and the place after them. -/
def span (test : Char → Bool) (c : Cursor) : List Char × Cursor :=
  let taken := c.rest.takeWhile test
  (taken, c.skip taken.length)

/-- The place after the spaces. -/
def skipSpaces (c : Cursor) : Cursor := (c.span (· = ' ')).2

/-- The place after a comment, if one begins here. -/
def skipComment (c : Cursor) : Cursor :=
  if c.rest.head? = some '#' then (c.span fun char => !isBreak char).2 else c

/-- **A line end**, if there is one here, as the character that it stands for. -/
def lineBreak? (c : Cursor) : Option (Char × Cursor) :=
  match c.rest with
  | '\r' :: '\n' :: _ => some ('\n', c.skip 2)
  | char :: _ =>
    if char = '\r' ∨ char = '\n' ∨ char.toNat = 0x85 then some ('\n', c.next)
    else if isBreak char then some (char, c.next)
    else none
  | [] => none

/-- The place after the line that begins here, of which only spaces and a comment may be left. -/
def skipEmptyLine? (c : Cursor) : Option Cursor :=
  let c := c.skipSpaces.skipComment
  match c.lineBreak? with
  | some (_, c) => some c
  | none => if c.rest.isEmpty then some c else none

/-- Whether a mark of three characters stands here, followed by a separator or the end. -/
def hasMark (mark : List Char) (c : Cursor) : Bool :=
  mark.isPrefixOf c.rest && endOr isSeparator (c.rest.drop 3)

/-- Whether a document begins or ends here, when the column is the first. -/
def hasDocumentMark (c : Cursor) : Bool := c.hasMark ['-', '-', '-'] || c.hasMark ['.', '.', '.']

end Cursor

end TradeJournal.Yaml
