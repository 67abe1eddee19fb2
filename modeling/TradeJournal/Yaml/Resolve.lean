import TradeJournal.Value
import TradeJournal.Yaml.Fault

/-!
# What a YAML scalar means

A scalar without quotes and without a tag may be nothing, a truth value, a number or a date;
its form decides. Numbers may have underscores in them, and may be written in base two,
eight, sixteen or sixty. A scalar with a tag is what the tag says, if its text allows that. One
line end after a text does not count for its form.
-/

namespace TradeJournal.Yaml

/-- **What a scalar may be.** The merge key and the default key have a meaning as keys only. -/
inductive ScalarKind
  | null
  | bool
  | int
  | float
  | date
  | text
  | binary
  | merge
  | default
  deriving DecidableEq, Repr

/-! ### Forms -/

/-- Digits and underscores, of which the first is no underscore. -/
def isDigitRun (s : List Char) : Bool :=
  (s.head?.map Char.isDigit).getD false && s.all fun c => c.isDigit || c = '_'

/-- Digits and underscores beginning with a digit other than zero. -/
def isWholeRun (s : List Char) : Bool := isDigitRun s && s.head? ≠ some '0'

/-- One digit, or two of which the first is at most five. -/
def isSixtieth (s : List Char) : Bool :=
  match s with
  | [a] => a.isDigit
  | [a, b] => '0' ≤ a ∧ a ≤ '5' ∧ b.isDigit
  | _ => false

/-- The parts of a text between colons. -/
def colonParts (s : List Char) : List (List Char) := splitAt [] s
where
  /-- The parts, with the part under way in reverse. -/
  splitAt (current : List Char) : List Char → List (List Char)
    | [] => [current.reverse]
    | c :: rest => if c = ':' then current.reverse :: splitAt [] rest
      else splitAt (c :: current) rest

/-- Whether a text has the form of a whole number. -/
def isInt (s : List Char) : Bool :=
  match (Number.splitSign s).2 with
  | '0' :: 'b' :: c :: rest => (c :: rest).all fun c => c = '0' || c = '1' || c = '_'
  | '0' :: 'x' :: c :: rest => (c :: rest).all fun c => Number.isDigitIn 16 c || c = '_'
  | ['0'] => true
  | '0' :: rest => rest.all fun c => ('0' ≤ c ∧ c ≤ '7') || c = '_'
  | body =>
    isWholeRun body || (match colonParts body with
      | first :: second :: rest => isWholeRun first && (second :: rest).all isSixtieth
      | _ => false)

/-- Whether a text is an exponent with its sign, or empty. -/
def isExponent (s : List Char) : Bool :=
  match s with
  | [] => true
  | e :: sign :: d :: rest =>
    (e = 'e' || e = 'E') && (sign = '+' || sign = '-') && (d :: rest).all Char.isDigit
  | _ => false

/-- Whether a text is a point, digits and underscores, and perhaps an exponent. -/
def isFraction (s : List Char) (exponent : Bool) : Bool :=
  match s with
  | '.' :: rest =>
    let after := rest.dropWhile fun c => c.isDigit || c = '_'
    if exponent then isExponent after else after.isEmpty
  | _ => false

/-- Whether a text has the form of a floating-point number. -/
def isFloat (s : List Char) : Bool :=
  let body := (Number.splitSign s).2
  let whole := body.takeWhile fun c => c.isDigit || c = '_'
  let special := String.ofList body
  (isDigitRun whole && isFraction (body.drop whole.length) true)
    || (match s with
      | '.' :: d :: _ => d.isDigit && isFraction s true
      | _ => false)
    || (match colonParts body with
      | first :: second :: rest =>
        let parts := second :: rest
        let last := parts.getLastD []
        let sixtieth := last.takeWhile Char.isDigit
        isDigitRun first && parts.dropLast.all isSixtieth && isSixtieth sixtieth
          && isFraction (last.drop sixtieth.length) false
      | _ => false)
    || special ∈ [".inf", ".Inf", ".INF"]
    || String.ofList s ∈ [".nan", ".NaN", ".NAN"]

/-- **The fields of a date**, and of a time with fraction and zone when there is one. -/
structure DateFields where
  year : Nat
  month : Nat
  day : Nat
  time : Option (Nat × Nat × Nat × Nat) := none
  /-- How many seconds the clock is ahead of universal time. -/
  ahead : Option Int := none
  deriving DecidableEq, Repr

/-- A number of one or two digits, and what follows; the first argument is the least number of
digits. -/
def oneOrTwo? (least : Nat) (s : List Char) : Option (Nat × List Char) :=
  let digits := (s.take 2).takeWhile Char.isDigit
  if digits.length < least ∨ digits.isEmpty then none
  else some (Number.ofDigits digits, s.drop digits.length)

/-- A zone at the end of a date, after blanks. -/
def zoneAtEnd? (s : List Char) : Option (Option Int) :=
  match s.dropWhile fun c => c = ' ' || c = '\t' with
  | [] => if s.isEmpty then some none else none
  | ['Z'] => some (some 0)
  | sign :: rest => do
    let direction : Int ← if sign = '-' then some (-1) else if sign = '+' then some 1 else none
    let (hours, rest) ← oneOrTwo? 1 rest
    let minutes ← match rest with
      | [] => some 0
      | ':' :: rest => do
        let (minutes, rest) ← oneOrTwo? 2 rest
        if rest.isEmpty then some minutes else none
      | _ => none
    some (some (direction * (hours * 3600 + minutes * 60 : Nat)))

/-- A time after the sign or the blanks between it and the date. -/
def timeOfDay? (s : List Char) : Option ((Nat × Nat × Nat × Nat) × Option Int) := do
  let (hour, rest) ← oneOrTwo? 1 s
  match rest with
  | ':' :: rest => do
    let (minute, rest) ← oneOrTwo? 2 rest
    match rest with
    | ':' :: rest => do
      let (second, rest) ← oneOrTwo? 2 rest
      let (digits, rest) := match rest with
        | '.' :: rest => (rest.takeWhile Char.isDigit, rest.dropWhile Char.isDigit)
        | rest => ([], rest)
      let kept := digits.take 6
      let micro := Number.ofDigits kept * Number.tenTo (6 - kept.length)
      some ((hour, minute, second, micro), ← zoneAtEnd? rest)
    | _ => none
  | _ => none

/-- **The fields that a text has the form of**; a day alone needs two digits for month and day
unless `loose`. -/
def dateFields? (loose : Bool) (s : List Char) : Option DateFields := do
  let year := s.take 4
  if year.length < 4 || !year.all Char.isDigit then none
  else
    match s.drop 4 with
    | '-' :: rest => do
      let (month, afterMonth) ← oneOrTwo? 1 rest
      match afterMonth with
      | '-' :: rest => do
        let (day, afterDay) ← oneOrTwo? 1 rest
        let fields : DateFields := { year := Number.ofDigits year, month, day }
        match afterDay with
        | [] => if loose || s.length = 10 then some fields else none
        | c :: rest =>
          let time :=
            if c = 'T' || c = 't' then some rest
            else if c = ' ' || c = '\t' then some (rest.dropWhile fun c => c = ' ' || c = '\t')
            else none
          let (time, ahead) ← timeOfDay? (← time)
          some { fields with time := some time, ahead }
      | _ => none
    | _ => none

/-- The words for nothing. -/
def nullWords : List String := ["", "~", "null", "Null", "NULL"]

/-- The words for truth values. -/
def boolWords : List (String × Bool) :=
  [("yes", true), ("no", false), ("true", true), ("false", false), ("on", true), ("off", false)]

/-- Whether a text is a word for a truth value, in lower case, upper case, or with a capital. -/
def isBool (s : List Char) : Bool :=
  boolWords.any fun word =>
    let lower := word.1.toList
    s = lower || s = lower.map Char.toUpper || s = lower.modifyHead Char.toUpper

/-- A text without one line end after it. -/
def withoutLastBreak (s : List Char) : List Char :=
  if s.getLast? = some '\n' then s.dropLast else s

/-- **What a plain scalar is**, by its form. -/
def kindOf (text : List Char) : ScalarKind :=
  let s := withoutLastBreak text
  if text = ['\n'] then .text
  else if String.ofList s ∈ nullWords then .null
  else if isBool s then .bool
  else if isFloat s then .float
  else if isInt s then .int
  else if s = ['<', '<'] then .merge
  else if s = ['='] then .default
  else if (dateFields? false s).isSome then .date
  else .text

/-! ### Values -/

/-- A whole number in a base, with what may stand around it. -/
def wholeIn (base : Nat) (s : List Char) : Except Fault Int :=
  match Number.intIn base s with
  | .ok n => .ok n
  | .error .malformed => .error (.badInt base s)
  | .error (.tooLong digits) => .error (.longInt digits)

/-- Parts of a number in base sixty. -/
def inSixties (parts : List Int) : Int := parts.foldl (fun n part => 60 * n + part) 0

/-- **The whole number of a scalar.** -/
def intValue (s : List Char) : Except Fault Value := do
  let digits := s.filter (· ≠ '_')
  let (negative, body) := Number.splitSign digits
  let n ← match body with
    | [] => .error .emptyNumber
    | ['0'] => .ok 0
    | '0' :: 'b' :: rest => wholeIn 2 rest
    | '0' :: 'x' :: rest => wholeIn 16 rest
    | '0' :: rest => wholeIn 8 ('0' :: rest)
    | body =>
      if ':' ∈ body then do .ok (inSixties (← (colonParts body).mapM (wholeIn 10)))
      else wholeIn 10 body
  .ok (.int (if negative then -n else n))

/-- A floating-point number in base ten. -/
def floatInTen (s : List Char) : Except Fault Double :=
  match Number.double? s with
  | some x => .ok x
  | none => .error (.badFloat s)

/-- **Parts of a floating-point number in base sixty**, last part first, added up with one rounding
for each product and each sum. -/
def floatInSixties (base : Nat) (sum : Double) : List Double → Except Fault Double
  | [] => .ok sum
  | part :: rest =>
    match Double.ofInt base with
    | .infinity _ => .error .beyondFloat
    | weight => floatInSixties (60 * base) (sum.add (part.mul weight)) rest

/-- **The floating-point number of a scalar.** -/
def floatValue (s : List Char) : Except Fault Value := do
  let digits := Text.lower (s.filter (· ≠ '_'))
  if digits.isEmpty then .error .emptyNumber
  else
    let (negative, body) := Number.splitSign digits
    let x ←
      if body = ".inf".toList then .ok (.infinity false)
      else if body = ".nan".toList then .ok .nan
      else if ':' ∈ body then do
        floatInSixties 1 (.zero false) (← (colonParts body).mapM floatInTen).reverse
      else floatInTen body
    .ok (.float (if negative then x.neg else x))

/-- The first field of a time that is out of range. -/
def badField (hour minute : Nat) : ClockField :=
  if 23 < hour then .hour else if 59 < minute then .minute else .second

/-- **The day of a scalar, or what a clock shows in it.** -/
def dateValue (s : List Char) : Except Fault Value := do
  match dateFields? true (withoutLastBreak s) with
  | none => .error .badDate
  | some f =>
    let day := (Calendar.Day.ofFields f.year f.month f.day).mapError .badDay
    match f.time with
    | none => .ok (.date (← day))
    | some (hour, minute, second, micro) =>
      let ahead := f.ahead.getD 0
      if 86400 ≤ ahead.natAbs then .error (.clockTooFar ahead)
      else
        let day ← day
        match Calendar.ClockTime.ofFields? hour minute second micro with
        | some time => .ok (.moment ⟨day, time, f.ahead⟩)
        | none => .error (.badTime (badField hour minute))

/-! ### Bytes -/

/-- The six bits that a letter of base sixty-four stands for. -/
def sixBits? (c : Char) : Option Nat :=
  if 'A' ≤ c ∧ c ≤ 'Z' then some (c.toNat - 65)
  else if 'a' ≤ c ∧ c ≤ 'z' then some (c.toNat - 71)
  else if '0' ≤ c ∧ c ≤ '9' then some (c.toNat + 4)
  else if c = '+' then some 62
  else if c = '/' then some 63
  else none

/-- **The bytes that a text in base sixty-four stands for**; none when it breaks off inside a group
of four. The first argument is the bits that are left of the last letter, the second tells how many
letters of the group have been read, the third how many equals signs stand behind them; a group that
they fill is the last one, and other characters do not count. -/
def bytesFrom? (left : Nat) : Nat → Nat → List Char → Option (List Nat)
  | place, _, [] => if place = 0 then some [] else none
  | place, pads, c :: rest =>
    if c = '=' then
      if 2 ≤ place ∧ 4 ≤ place + pads + 1 then some []
      else bytesFrom? left place (if 2 ≤ place then pads + 1 else pads) rest
    else
      match sixBits? c, place with
      | none, _ => bytesFrom? left place pads rest
      | some bits, 0 => bytesFrom? bits 1 0 rest
      | some bits, 1 => ((left * 4 + bits / 16) :: ·) <$> bytesFrom? (bits % 16) 2 0 rest
      | some bits, 2 => ((left * 16 + bits / 4) :: ·) <$> bytesFrom? (bits % 4) 3 0 rest
      | some bits, _ => ((left * 64 + bits) :: ·) <$> bytesFrom? 0 0 0 rest

/-- A byte inside quotes: one of the plain alphabet is shown as its character. -/
def quotedByte (quote : Char) (byte : Nat) : List Char :=
  if byte < 0x80 then Text.quotedChar quote (Char.ofNat byte)
  else '\\' :: 'x' :: Text.hexDigits 2 byte

/-- Bytes as a value. -/
def bytesValue (bytes : List Nat) : Value :=
  let quote := Text.quoteFor (bytes.map Char.ofNat)
  let shown := String.ofList ('b' :: quote :: bytes.flatMap (quotedByte quote) ++ [quote])
  .foreign ⟨"bytes", !bytes.isEmpty, true, none, shown, shown⟩
    (some (bytes.map fun n : Nat => .int n))

/-- The bytes of a scalar. -/
def binaryValue (s : List Char) : Except Fault Value := do
  if s.any (128 ≤ ·.toNat) then .error .malformed
  else .ok (bytesValue (← need (bytesFrom? 0 0 0 s)))

/-! ### All kinds -/

/-- The truth value of a scalar. -/
def boolValue (s : List Char) : Except Fault Value :=
  match boolWords.lookup (String.ofList (Text.lower s)) with
  | some b => .ok (.bool b)
  | none => .error (.badTruth (Text.lower s))

/-- **The value of a scalar of a given kind.** -/
def scalarValue (kind : ScalarKind) (s : List Char) : Except Fault Value :=
  match kind with
  | .null => .ok .null
  | .bool => boolValue s
  | .int => intValue s
  | .float => floatValue s
  | .date => dateValue s
  | .text => .ok (.text (String.ofList s))
  | .binary => binaryValue s
  | .merge | .default => .error .malformed

end TradeJournal.Yaml
