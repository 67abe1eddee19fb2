import TradeJournal.Text.Case.Tables
import TradeJournal.Text.Ranges

/-!
# Lower and upper case

The full case maps: one character may become several (the capital I with a dot above
becomes a small i and a combining dot), and a capital sigma becomes the final form at the
end of a word. Whether it stands there depends on the nearest characters on both sides that
are not passed over, so the map runs along the text and keeps what it has seen.
-/

namespace TradeJournal.Text

/-- Whether a character has case. -/
def isCased (c : Char) : Bool := Ranges.contains Case.cased c.toNat

/-- Whether a character is passed over when looking for a cased neighbour. -/
def isCaseIgnorable (c : Char) : Bool := Ranges.contains Case.caseIgnorable c.toNat

/-- **The image of a character** under one map to single characters and one list of longer
images. -/
def caseImage (runs : List Case.Run) (long : List (Nat × List Nat)) (c : Char) : List Char :=
  match long.find? (·.1 == c.toNat) with
  | some image => image.2.map Char.ofNat
  | none =>
    match runs.find? (·.covers c.toNat) with
    | some run => [Char.ofNat ((c.toNat : Int) + run.shift).toNat]
    | none => [c]

/-- The lower-case form of a character that stands alone. -/
def lowerChar (c : Char) : List Char :=
  if c.toNat < 128 then [if 'A' ≤ c ∧ c ≤ 'Z' then Char.ofNat (c.toNat + 32) else c]
  else caseImage Case.lowerRuns Case.lowerLong c

/-- The upper-case form of a character. -/
def upperChar (c : Char) : List Char :=
  if c.toNat < 128 then [if 'a' ≤ c ∧ c ≤ 'z' then Char.ofNat (c.toNat - 32) else c]
  else caseImage Case.upperRuns Case.upperLong c

/-- The capital letter with two lower-case forms. -/
def capitalSigma : Char := Char.ofNat 0x3A3

/-- Whether the next character that is not passed over has case. -/
def casedAhead (s : List Char) : Bool :=
  match s.dropWhile isCaseIgnorable with
  | [] => false
  | c :: _ => isCased c

/-- **Lower case along a text**; the first argument tells whether the last character that is
not passed over has case. -/
def lowerFrom (casedBehind : Bool) : List Char → List Char
  | [] => []
  | c :: rest =>
    (if c = capitalSigma
      then [Char.ofNat (if casedBehind && !casedAhead rest then 0x3C2 else 0x3C3)]
      else lowerChar c)
      ++ lowerFrom (if isCaseIgnorable c then casedBehind else isCased c) rest

/-- The lower-case form of a text. -/
def lower (s : List Char) : List Char := lowerFrom false s

/-- The upper-case form of a text. -/
def upper (s : List Char) : List Char := s.flatMap upperChar

end TradeJournal.Text
