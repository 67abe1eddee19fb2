import TradeJournal.Text.Blank
import TradeJournal.Text.Letter

/-!
# Tokens of a written date

A date as people write it falls into words, numbers, blanks and single other characters. A
point may stand inside a word or a number, and a comma after the second digit of a number;
when the stretch turns out to mix letters with them, to have several points, or to end in
one, it falls apart there after all.
-/

namespace TradeJournal.Calendar.Phrase

/-- What a stretch of characters is so far. -/
inductive Stretch
  | word
  | number
  /-- Last a word, with points before. -/
  | dottedWord
  /-- Last a number, with a point or a comma before. -/
  | dottedNumber
  deriving DecidableEq, Repr

/-- **A token that is being read**: what it is, its characters, latest first, and whether it
has gone on after a letter. -/
structure Pending where
  stretch : Stretch
  chars : List Char
  afterLetter : Bool
  deriving Repr

/-- A stretch taken apart at its points and commas. -/
def takenApart (current : List Char) : List Char → List (List Char)
  | [] => if current.isEmpty then [] else [current.reverse]
  | c :: rest =>
    if c = '.' ∨ c = ',' then
      (if current.isEmpty then [] else [current.reverse]) ++ [c] :: takenApart [] rest
    else takenApart (c :: current) rest

/-- Whether a stretch with points or commas falls apart. -/
def Pending.fallsApart (p : Pending) : Bool :=
  (p.stretch = .dottedWord ∨ p.stretch = .dottedNumber) &&
    (p.afterLetter || 1 < p.chars.count '.' || p.chars.head? = some '.' || p.chars.head? = some ',')

/-- The tokens of a stretch that has ended. A number with a comma and no point has a decimal
comma. -/
def Pending.tokens (p : Pending) : List (List Char) :=
  if p.fallsApart then takenApart [] p.chars.reverse
  else if p.stretch = .dottedNumber ∧ '.' ∉ p.chars then
    [p.chars.reverse.map fun c => if c = ',' then '.' else c]
  else [p.chars.reverse]

/-- A stretch with one more character; none if the character does not belong to it. -/
def Pending.extended? (p : Pending) (c : Char) : Option Pending :=
  let longer (stretch : Stretch) : Option Pending := some ⟨stretch, c :: p.chars, p.afterLetter⟩
  let afterPoint := p.chars.head? = some '.'
  match p.stretch with
  | .word =>
    if Text.isAlphabetic c then longer .word else if c = '.' then longer .dottedWord else none
  | .number =>
    if Text.isDigit c then longer .number
    else if c = '.' ∨ (c = ',' ∧ 2 ≤ p.chars.length) then longer .dottedNumber
    else none
  | .dottedWord =>
    if c = '.' ∨ Text.isAlphabetic c then longer .dottedWord
    else if Text.isDigit c ∧ afterPoint then longer .dottedNumber
    else none
  | .dottedNumber =>
    if c = '.' ∨ Text.isDigit c then longer .dottedNumber
    else if Text.isAlphabetic c ∧ afterPoint then longer .dottedWord
    else none

/-- A stretch that goes on, or ends, after a letter remembers that. -/
def Pending.noted (p : Pending) : Pending :=
  if p.stretch = .word ∨ p.stretch = .dottedWord then { p with afterLetter := true } else p

/-- What a character begins: a token of its own, or a stretch. -/
def begun (c : Char) : List (List Char) × Option Pending :=
  if Text.isAlphabetic c then ([], some ⟨.word, [c], false⟩)
  else if Text.isDigit c then ([], some ⟨.number, [c], false⟩)
  else if Text.isBlank c then ([[' ']], none)
  else ([[c]], none)

/-- **The tokens of a text** after the stretch that is being read. -/
def scanFrom : Option Pending → List Char → List (List Char)
  | none, [] => []
  | some p, [] => p.tokens
  | none, c :: rest => (begun c).1 ++ scanFrom (begun c).2 rest
  | some p, c :: rest =>
    match p.noted.extended? c with
    | some longer => scanFrom (some longer) rest
    | none => p.noted.tokens ++ (begun c).1 ++ scanFrom (begun c).2 rest

/-- The tokens of a text; characters of code zero are passed over. -/
def scan (text : List Char) : List (List Char) :=
  scanFrom none (text.filter fun c => c.toNat ≠ 0)

end TradeJournal.Calendar.Phrase
