import TradeJournal.Calendar.Day
import TradeJournal.Number.Reading

/-!
# The parts of a date, sorted out

A written date gives up to three numbers before it is clear which is the year, the month and
the day. A name tells the month, and more than two digits tell the year; the rest follows from
the order of the numbers and their size. Without either, the month comes first, unless it
cannot be one.
-/

namespace TradeJournal.Calendar.Phrase

/-- **The numbers of a date in order of arrival**, with the places of those known to be the year
or the month, and whether a year with its century was among them. -/
structure Parts where
  numbers : List Int := []
  yearAt : Option Nat := none
  monthAt : Option Nat := none
  century : Bool := false
  deriving Repr

namespace Parts

/-- One more number that may be any part. -/
def addNumber (p : Parts) (n : Int) : Parts := { p with numbers := p.numbers ++ [n] }

/-- One more number that is the month; there may be only one. -/
def addMonth? (p : Parts) (n : Int) : Option Parts :=
  if p.monthAt.isSome then none
  else some { p.addNumber n with monthAt := some p.numbers.length }

/-- One more number that is the year; there may be only one. -/
def addYear? (p : Parts) (n : Int) : Option Parts :=
  if p.yearAt.isSome then none
  else some { p.addNumber n with yearAt := some p.numbers.length }

/-- One more number, which is the year with its century when it is above one hundred. -/
def addSized? (p : Parts) (n : Int) (above : Bool) : Option Parts :=
  if above then { p with century := true }.addYear? n else some (p.addNumber n)

/-- One more number given by its digits; more than two of them are a year with its century. -/
def addText? (p : Parts) (s : List Char) : Option Parts := do
  let long := s.all Text.isDigit && 2 < s.length
  p.addSized? (← Number.int? s) long

/-- One more number given by its digits and known to be the year. -/
def addYearText? (p : Parts) (s : List Char) : Option Parts := do
  let long := s.all Text.isDigit && 2 < s.length
  { p with century := p.century || long }.addYear? (← Number.int? s)

/-- The length of the month that is known; without a year a leap year is taken. -/
def monthLength (p : Parts) : Option Nat := do
  let month ← p.numbers[← p.monthAt]?
  let year := (p.yearAt.bind (p.numbers[·]?)).getD 2000
  some (daysInMonth year.toNat month.toNat)

/-- The greatest number that can be the day. -/
def dayLimit (p : Parts) : Nat := p.monthLength.getD 31

/-- **Year, month and day by order and size**, when three numbers are known. -/
def sorted (p : Parts) (a b c : Int) : Int × Int × Int :=
  match p.monthAt with
  | some 0 => if 31 < b then (b, a, c) else (c, a, b)
  | some 1 => if 31 < a then (a, b, c) else (c, b, a)
  | some _ => if 31 < b then (b, c, a) else (a, c, b)
  | none =>
    if 31 < a ∨ p.yearAt = some 0 then (a, b, c)
    else if 12 < a then (c, b, a)
    else (c, a, b)

/-- **Year, month and day**, when there are three numbers. Two places that are known leave the
third. -/
def resolved? (p : Parts) : Option (Int × Int × Int) :=
  match p.numbers with
  | [a, b, c] =>
    match p.yearAt, p.monthAt with
    | some y, some m =>
      let pick (i : Nat) : Int := if i = 0 then a else if i = 1 then b else c
      some (pick y, pick m, pick (3 - y - m))
    | _, _ => some (p.sorted a b c)
  | _ => none

/-- **The year that is meant**: two digits without a century stand for a year around 2025. -/
def fullYear (century : Bool) (year : Int) : Int :=
  if century ∨ 100 ≤ year then year
  else if 2000 + year < 2075 then 2000 + year else 1900 + year

end Parts

end TradeJournal.Calendar.Phrase
