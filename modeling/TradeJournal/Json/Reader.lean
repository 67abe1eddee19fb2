import TradeJournal.Number.Reading
import TradeJournal.Value

/-!
# Reading JSON

A JSON text holds one value. Besides the standard numbers the three words for special
values are read. Of two members with one name the later one gives the value and the earlier one the
place. The first character that cannot go on stops the reading; the fault says what was
expected there, and where that is by line, column and count of characters.

While reading, a place is known by the number of characters that are left. Escapes are
first read as units of sixteen bits, so that a pair of them can name a character outside the basic
plane.
-/

namespace TradeJournal.Json

/-! ### Faults -/

/-- What was wrong with a text. -/
inductive Cause
  | noValue
  | noName
  | noColon
  | noComma
  | extraData
  | controlCharacter
  | badEscape
  | badUnicodeEscape
  | unterminated
  | byteOrderMark
  deriving DecidableEq, Repr

/-- The wording of a cause. -/
def Cause.message : Cause → String
  | .noValue => "Expecting value"
  | .noName => "Expecting property name enclosed in double quotes"
  | .noColon => "Expecting ':' delimiter"
  | .noComma => "Expecting ',' delimiter"
  | .extraData => "Extra data"
  | .controlCharacter => "Invalid control character at"
  | .badEscape => "Invalid \\escape"
  | .badUnicodeEscape => "Invalid \\uXXXX escape"
  | .unterminated => "Unterminated string starting at"
  | .byteOrderMark => "Unexpected UTF-8 BOM (decode using utf-8-sig)"

/-- **Why a text holds no value**: what was wrong and how many characters were left there, or
a whole number with more digits than are read. -/
inductive Fault
  | malformed (cause : Cause) (left : Nat)
  | tooManyDigits (count : Nat)
  deriving DecidableEq, Repr

/-- The line of a place and its column, both counted from one. -/
def lineAndColumn (before : List Char) : Nat × Nat :=
  (before.count '\n' + 1, (before.reverse.takeWhile (· ≠ '\n')).length + 1)

/-- **The wording of a fault** in a given text. -/
def Fault.message (text : List Char) : Fault → String
  | .malformed cause left =>
    let offset := text.length - left
    let place := lineAndColumn (text.take offset)
    cause.message ++ ": line " ++ toString place.1 ++ " column " ++ toString place.2
      ++ " (char " ++ toString offset ++ ")"
  | .tooManyDigits count => Number.tooLongMessage count

/-- A fault at the start of what is left. -/
def faultAt {α : Type} (cause : Cause) (rest : List Char) : Except Fault α :=
  .error (.malformed cause rest.length)

/-! ### Strings -/

/-- The number that four hexadecimal digits denote. -/
def hexFour? (a b c d : Char) : Option Nat :=
  let ds := [a, b, c, d]
  if ds.all (Number.isDigitIn 16) then some (Number.ofDigitsIn 16 ds) else none

/-- The character that a letter after a backslash stands for. -/
def escaped? : Char → Option Char
  | '"' => some '"'
  | '\\' => some '\\'
  | '/' => some '/'
  | 'b' => some (Char.ofNat 8)
  | 'f' => some (Char.ofNat 12)
  | 'n' => some '\n'
  | 'r' => some '\r'
  | 't' => some '\t'
  | _ => none

/-- **The units of a string** up to its closing quote. A numbered escape has to be followed by
at least one more character; `opening` is the number of characters left at the opening quote. -/
def stringUnits (opening : Nat) : List Char → Except Fault (List Nat × List Char)
  | [] => .error (.malformed .unterminated opening)
  | '"' :: rest => .ok ([], rest)
  | '\\' :: [] => .error (.malformed .unterminated opening)
  | '\\' :: 'u' :: a :: b :: c :: d :: e :: rest =>
    match hexFour? a b c d with
    | some unit => do
      let (units, rest) ← stringUnits opening (e :: rest)
      .ok (unit :: units, rest)
    | none => .error (.malformed .badUnicodeEscape (rest.length + 6))
  | '\\' :: 'u' :: rest => .error (.malformed .badUnicodeEscape (rest.length + 1))
  | '\\' :: c :: rest =>
    match escaped? c with
    | some char => do
      let (units, rest) ← stringUnits opening rest
      .ok (char.toNat :: units, rest)
    | none => .error (.malformed .badEscape (rest.length + 2))
  | c :: rest =>
    if c.toNat < 32 then .error (.malformed .controlCharacter (rest.length + 1))
    else do
      let (units, rest) ← stringUnits opening rest
      .ok (c.toNat :: units, rest)

/-- A string after its opening quote. -/
def stringBody (body : List Char) : Except Fault (String × List Char) := do
  let (units, rest) ← stringUnits (body.length + 1) body
  .ok (String.ofList (Text.joinUnits units), rest)

/-! ### Numbers -/

/-- The whole part of a number: a zero, or digits that do not begin with one. -/
def wholePart : List Char → Option (List Char × List Char)
  | '0' :: rest => some (['0'], rest)
  | s =>
    let ds := s.takeWhile Char.isDigit
    if ds.isEmpty then none else some (ds, s.dropWhile Char.isDigit)

/-- The fraction of a number, with its point; empty unless a digit follows the point. -/
def fractionPart : List Char → List Char × List Char
  | '.' :: rest =>
    let ds := rest.takeWhile Char.isDigit
    if ds.isEmpty then ([], '.' :: rest) else ('.' :: ds, rest.dropWhile Char.isDigit)
  | s => ([], s)

/-- The exponent of a number, with its letter and sign; empty unless it has a digit. -/
def exponentPart : List Char → List Char × List Char
  | c :: rest =>
    if c = 'e' ∨ c = 'E' then
      let sign := rest.take 1 |>.filter fun c => c = '+' ∨ c = '-'
      let after := rest.drop sign.length
      let ds := after.takeWhile Char.isDigit
      if ds.isEmpty then ([], c :: rest) else (c :: sign ++ ds, after.dropWhile Char.isDigit)
    else ([], c :: rest)
  | [] => ([], [])

/-- **A number.** It is whole unless it has a fraction or an exponent. -/
def number (s : List Char) : Except Fault (Value × List Char) :=
  let negative := s.head? = some '-'
  match wholePart (if negative then s.drop 1 else s) with
  | none => faultAt .noValue s
  | some (whole, rest) =>
    let (fraction, rest) := fractionPart rest
    let (exponent, rest) := exponentPart rest
    if fraction.isEmpty && exponent.isEmpty then
      if Number.maxDigits < whole.length then .error (.tooManyDigits whole.length)
      else
        let n : Int := Number.ofDigits whole
        .ok (.int (if negative then -n else n), rest)
    else
      match Number.decimal? negative (whole ++ fraction ++ exponent) with
      | some x => .ok (.float x, rest)
      | none => faultAt .noValue s

/-! ### Values -/

/-- The text without the blanks at its start; JSON knows four. -/
def skipBlanks (s : List Char) : List Char :=
  s.dropWhile fun c => c = ' ' ∨ c = '\t' ∨ c = '\n' ∨ c = '\r'

/-- The words that stand for values. -/
def words : List (List Char × Value) :=
  [("null".toList, .null), ("true".toList, .bool true), ("false".toList, .bool false),
    ("NaN".toList, .float .nan), ("Infinity".toList, .float (.infinity false)),
    ("-Infinity".toList, .float (.infinity true))]

/-- The value whose word begins a text, and the rest. -/
def word? (s : List Char) : Option (Value × List Char) :=
  (words.find? fun word => word.1.isPrefixOf s).map fun word => (word.2, s.drop word.1.length)

mutual

/-- **A value** at the start of a text. The first argument bounds the depth of the reading;
twice the length of the text is always enough. -/
def value : Nat → List Char → Except Fault (Value × List Char)
  | 0, s => faultAt .noValue s
  | fuel + 1, s =>
    match s with
    | [] => faultAt .noValue []
    | '"' :: body => do
      let (text, rest) ← stringBody body
      .ok (.text text, rest)
    | c :: body =>
      if c.toNat = 0x7B then
        match skipBlanks body with
        | close :: rest =>
          if close.toNat = 0x7D then .ok (.mapping [], rest)
          else do
            let (entries, rest) ← members fuel [] (close :: rest)
            .ok (.mapping entries, rest)
        | [] => faultAt .noName []
      else if c = '[' then
        match skipBlanks body with
        | ']' :: rest => .ok (.list [], rest)
        | body => do
          let (items, rest) ← elements fuel body
          .ok (.list items, rest)
      else
        match word? (c :: body) with
        | some read => .ok read
        | none => number (c :: body)

/-- The elements of a list up to its closing bracket, from an element on. -/
def elements : Nat → List Char → Except Fault (List Value × List Char)
  | 0, s => faultAt .noValue s
  | fuel + 1, s => do
    let (item, rest) ← value fuel s
    match skipBlanks rest with
    | ']' :: rest => .ok ([item], rest)
    | ',' :: rest => do
      let (items, rest) ← elements fuel (skipBlanks rest)
      .ok (item :: items, rest)
    | rest => faultAt .noComma rest

/-- The members of a mapping up to its closing brace, from a name on; `made` holds those
already read. -/
def members : Nat → List (Value × Value) → List Char →
    Except Fault (List (Value × Value) × List Char)
  | 0, _, s => faultAt .noName s
  | fuel + 1, made, s =>
    match s with
    | '"' :: body => do
      let (name, rest) ← stringBody body
      match skipBlanks rest with
      | ':' :: rest => do
        let (item, rest) ← value fuel (skipBlanks rest)
        let made := Value.insert made (.text name) item
        match skipBlanks rest with
        | [] => faultAt .noComma []
        | c :: rest =>
          if c.toNat = 0x7D then .ok (made, rest)
          else if c = ',' then members fuel made (skipBlanks rest)
          else faultAt .noComma (c :: rest)
      | rest => faultAt .noColon rest
    | s => faultAt .noName s

end

/-- **The value of a JSON text.** -/
def parse (text : List Char) : Except Fault Value :=
  if text.head? = some (Char.ofNat 0xFEFF) then faultAt .byteOrderMark text
  else do
    let (v, rest) ← value (2 * text.length + 2) (skipBlanks text)
    match skipBlanks rest with
    | [] => .ok v
    | rest => faultAt .extraData rest

end TradeJournal.Json
