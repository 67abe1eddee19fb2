import TradeJournal.Number.Digits

/-!
# Days

Days of the Gregorian calendar from the first of January of year 1 to the end of year 9999.
A day is its year, month and day of the month; it also has a number, counted from the first
day, and `Day.ofNumber?` goes back from the number to the day.
-/

namespace TradeJournal.Calendar

/-- Whether a year has a 29th of February. -/
def isLeap (year : Nat) : Bool := year % 4 = 0 ∧ (year % 100 ≠ 0 ∨ year % 400 = 0)

/-- The length of a month. -/
def daysInMonth (year month : Nat) : Nat :=
  if month = 2 then (if isLeap year then 29 else 28)
  else if month = 4 ∨ month = 6 ∨ month = 9 ∨ month = 11 then 30
  else 31

/-- The days of a year before a month begins. -/
def daysBeforeMonth (year : Nat) : Nat → Nat
  | 0 | 1 => 0
  | month + 1 => daysBeforeMonth year month + daysInMonth year month

/-- The days before a year begins, counted from year 1. -/
def daysBeforeYear (year : Nat) : Nat :=
  let n := year - 1
  n * 365 + n / 4 - n / 100 + n / 400

/-- The last year of the calendar. -/
def maxYear : Nat := 9999

/-- **A day of the calendar.** -/
structure Day where
  year : Nat
  month : Nat
  day : Nat
  year_mem : 1 ≤ year ∧ year ≤ maxYear
  month_mem : 1 ≤ month ∧ month ≤ 12
  day_mem : 1 ≤ day ∧ day ≤ daysInMonth year month
  deriving DecidableEq, Repr

/-- Why three numbers are no day; the first of these that holds is reported. -/
inductive DayFault
  | year (year : Int)
  | month
  | day
  deriving DecidableEq, Repr

/-- The wording of a fault. -/
def DayFault.message : DayFault → String
  | .year y => "year " ++ String.ofList (Number.intText y) ++ " is out of range"
  | .month => "month must be in 1..12"
  | .day => "day is out of range for month"

namespace Day

/-- **The day with a given year, month and day of the month.** -/
def ofFields (year month day : Int) : Except DayFault Day :=
  if hy : 1 ≤ year.toNat ∧ year.toNat ≤ maxYear then
    if hm : 1 ≤ month.toNat ∧ month.toNat ≤ 12 then
      if hd : 1 ≤ day.toNat ∧ day.toNat ≤ daysInMonth year.toNat month.toNat then
        .ok ⟨year.toNat, month.toNat, day.toNat, hy, hm, hd⟩
      else .error .day
    else .error .month
  else .error (.year year)

/-- The number of days before this one. -/
def number (d : Day) : Nat :=
  daysBeforeYear d.year + daysBeforeMonth d.year d.month + (d.day - 1)

/-- The year in which the day with a given number lies. -/
def yearOfNumber (n : Nat) : Nat :=
  let guess := n * 400 / 146097 + 1
  if n < daysBeforeYear guess then guess - 1
  else if daysBeforeYear (guess + 1) ≤ n then guess + 1
  else guess

/-- The month in which a day of the year lies, and the days of that month before it, looking
through the months from the given one on. -/
def monthOfRest (year : Nat) : Nat → Nat → Nat → Nat × Nat
  | 0, month, rest => (month, rest)
  | fuel + 1, month, rest =>
    if rest < daysInMonth year month then (month, rest)
    else monthOfRest year fuel (month + 1) (rest - daysInMonth year month)

/-- **The day with a given number**, unless that lies outside the calendar. -/
def ofNumber? (n : Int) : Option Day :=
  if n < 0 then none
  else
    let year := yearOfNumber n.toNat
    let m := monthOfRest year 11 1 (n.toNat - daysBeforeYear year)
    (ofFields year m.1 (m.2 + 1)).toOption

/-- The day of the week, Monday being 0. -/
def weekday (d : Day) : Nat := d.number % 7

/-- The text of a day: year, month and day of the month. -/
def text (d : Day) : List Char :=
  Number.lastDigits 4 d.year ++ '-' :: Number.lastDigits 2 d.month ++
    '-' :: Number.lastDigits 2 d.day

end Day

end TradeJournal.Calendar
