import TradeJournal.Number.Digits
import TradeJournal.Number.Double
import TradeJournal.Number.Power
import TradeJournal.Text.Blank
import TradeJournal.Text.Case
import TradeJournal.Text.Letter

/-!
# Reading numbers

A number may stand between blanks, its digits may come from any script, and a single
underscore may stand between two digits. A fraction and an exponent are optional; the words
for infinity and for what is not a number are read in any case.
-/

namespace TradeJournal.Number

/-- Characters brought to ASCII: decimal digits of any script to the ten digits. -/
def plainDigit (c : Char) : Char :=
  match Text.decimalValue? c with
  | some n => digitChar n
  | none => c

/-- **Underscores removed**: each has to stand between two digits. The first argument tells
whether the last character was a digit. -/
def dropUnderscores (afterDigit : Bool) : List Char → Option (List Char)
  | [] => some []
  | '_' :: c :: rest =>
    if afterDigit && c.isDigit then (c :: ·) <$> dropUnderscores true rest else none
  | '_' :: [] => none
  | c :: rest => (c :: ·) <$> dropUnderscores c.isDigit rest

/-- Blanks that may stand around a number; the information separators are none of them. -/
def isPadding (c : Char) : Bool := Text.isBlank c && !(0x1C ≤ c.toNat && c.toNat ≤ 0x1F)

/-- A number's text without blanks around it, its digits in ASCII. -/
def bare (s : List Char) : List Char :=
  ((((s.dropWhile isPadding).reverse.dropWhile isPadding).reverse).map plainDigit)

/-- A number's text without blanks around it, its digits in ASCII and its underscores gone. -/
def plain (s : List Char) : Option (List Char) := dropUnderscores false (bare s)

/-- A sign in front of a text: whether it is a minus, and what follows. -/
def splitSign : List Char → Bool × List Char
  | '-' :: rest => (true, rest)
  | '+' :: rest => (false, rest)
  | s => (false, s)

/-- The most digits that the text of a whole number in base ten may have. -/
def maxDigits : Nat := 4300

/-- Why a text is no whole number. -/
inductive IntFault
  | malformed
  /-- It is in base ten and has too many digits. -/
  | tooLong (digits : Nat)
  deriving DecidableEq, Repr

/-- The wording for a whole number with too many digits. -/
def tooLongMessage (digits : Nat) : String :=
  "Exceeds the limit (" ++ toString maxDigits
    ++ " digits) for integer string conversion: value has " ++ toString digits
    ++ " digits; use sys.set_int_max_str_digits() to increase the limit"

/-- The value of a digit in bases up to sixteen. -/
def digitValue? (c : Char) : Option Nat :=
  if '0' ≤ c ∧ c ≤ '9' then some (c.toNat - 48)
  else if 'a' ≤ c ∧ c ≤ 'f' then some (c.toNat - 87)
  else if 'A' ≤ c ∧ c ≤ 'F' then some (c.toNat - 55)
  else none

/-- Whether a character is a digit in a base. -/
def isDigitIn (base : Nat) (c : Char) : Bool :=
  ((digitValue? c).map fun d => decide (d < base)).getD false

/-- The number that digits in a base denote. -/
def ofDigitsIn (base : Nat) (s : List Char) : Nat :=
  s.foldl (fun n c => base * n + (digitValue? c).getD 0) 0

/-- The letter that may follow a zero in front of a number in a base. -/
def baseLetter? : Nat → Option Char
  | 2 => some 'b'
  | 8 => some 'o'
  | 16 => some 'x'
  | _ => none

/-- A number without the sign of its base; one underscore may follow that. -/
def dropBase (base : Nat) (s : List Char) : List Char :=
  match s with
  | '0' :: letter :: rest =>
    if baseLetter? base = some letter.toLower then
      match rest with
      | '_' :: rest => rest
      | rest => rest
    else s
  | s => s

/-- Whether underscores stand only between digits in the first run of a text. -/
def isSpaced (base : Nat) (s : List Char) : Bool :=
  let run := s.takeWhile fun c => isDigitIn base c || c = '_'
  run.head? ≠ some '_' && run.getLast? ≠ some '_'
    && (run.zip run.tail).all fun pair => pair ≠ ('_', '_')

/-- **A whole number in a base.** In base ten the digits are counted before what follows them is
looked at. -/
def intIn (base : Nat) (s : List Char) : Except IntFault Int :=
  let (negative, body) := splitSign (bare s)
  let body := dropBase base body
  let run := body.takeWhile fun c => isDigitIn base c || c = '_'
  let digits := run.filter (· ≠ '_')
  if !isSpaced base body then .error .malformed
  else if base = 10 ∧ maxDigits < digits.length then .error (.tooLong digits.length)
  else if digits.isEmpty || run.length ≠ body.length then .error .malformed
  else
    let n : Int := ofDigitsIn base digits
    .ok (if negative then -n else n)

/-- **A whole number** in decimal; `none` when the text is not one or has too many digits. -/
def int? (s : List Char) : Option Int := (intIn 10 s).toOption

/-- **The number nearest to a decimal.** Exponents beyond every number need no power of ten. -/
def ofDecimal (negative : Bool) (n : Nat) (place : Int) : Double :=
  if n = 0 then .zero negative
  else if 400 < (digitCount n : Int) + place then .infinity negative
  else if (digitCount n : Int) + place < -400 then .zero negative
  else if place < 0 then .ofRatio negative n (tenTo (-place).toNat)
  else .ofRatio negative (n * tenTo place.toNat) 1

/-- **An unsigned decimal**: digits, a point and more digits, not both empty, and an exponent. -/
def decimal? (negative : Bool) (s : List Char) : Option Double :=
  let whole := s.takeWhile Char.isDigit
  let rest := s.dropWhile Char.isDigit
  let (fraction, rest) := match rest with
    | '.' :: after => (after.takeWhile Char.isDigit, after.dropWhile Char.isDigit)
    | _ => ([], rest)
  let value (exponent : Int) : Double :=
    ofDecimal negative (ofDigits (whole ++ fraction)) (exponent - fraction.length)
  if whole.isEmpty && fraction.isEmpty then none
  else match rest with
    | [] => some (value 0)
    | c :: after =>
      if c = 'e' ∨ c = 'E' then
        let (minus, ds) := splitSign after
        if ds.isEmpty || !ds.all Char.isDigit then none
        else
          -- Beyond this size every exponent acts alike.
          let size : Int := if 9 < (ds.dropWhile (· = '0')).length then 1_000_000_000
            else ofDigits ds
          some (value (if minus then -size else size))
      else none

/-- **A floating-point number** in decimal, or one of the words for special values. -/
def double? (s : List Char) : Option Double := do
  let (negative, body) := splitSign (← plain s)
  let word := Text.lower body
  if word = ['i', 'n', 'f'] ∨ word = ['i', 'n', 'f', 'i', 'n', 'i', 't', 'y'] then
    some (.infinity negative)
  else if word = ['n', 'a', 'n'] then some .nan
  else decimal? negative body

end TradeJournal.Number
