import TradeJournal.Calendar.Moment
import TradeJournal.Number.Reading

/-!
# Numeric dates

The international notation: a year, a month of a year, a day by month or by number or by week,
with or without dashes; after a day, any one character and a time, whose fields stand together or
between colons, with a fraction of a second; after that, a distance from universal time.
A field is read as a number of its width, so a blank or a sign may stand in place of a leading zero.
The program reads numeric dates in this way (`Calendar.standardDates`); what is said of dates
elsewhere holds for any reader.
-/

namespace TradeJournal.Calendar.Iso

/-- The number in a field of a given width that must be filled, and the rest. -/
def wide? (width : Nat) (s : List Char) : Option (Int × List Char) := do
  if s.length < width then none else some (← Number.int? (s.take width), s.drop width)

/-- Three numbers that may or may not be a day. -/
structure DateFields where
  year : Int
  month : Int
  day : Int
  deriving DecidableEq, Repr

/-- **A date by month**, and what follows it. A month without a day ends the text and is
set off by a dash. -/
def byMonth? (s : List Char) : Option (DateFields × List Char) := do
  let (year, rest) ← wide? 4 s
  match rest with
  | [] => some (⟨year, 1, 1⟩, [])
  | '-' :: rest => do
    let (month, rest) ← wide? 2 rest
    match rest with
    | [] => some (⟨year, month, 1⟩, [])
    | '-' :: rest => do
      let (day, rest) ← wide? 2 rest
      some (⟨year, month, day⟩, rest)
    | _ => none
  | rest => do
    let (month, rest) ← wide? 2 rest
    let (day, rest) ← wide? 2 rest
    some (⟨year, month, day⟩, rest)

/-- The day with a number inside a year that is given with it. -/
def dayOfYear? (year n : Int) : Option Day := do
  let first ← (Day.ofFields year 1 1).toOption
  if 1 ≤ n ∧ n ≤ (if isLeap first.year then 366 else 365) then Day.ofNumber? (first.number + n - 1)
  else none

/-- The day of a week of a year. Weeks begin on Monday, and week one holds the fourth of January. -/
def dayOfWeek? (year week day : Int) : Option Day := do
  let fourth ← (Day.ofFields year 1 4).toOption
  if 1 ≤ week ∧ week ≤ 53 ∧ 1 ≤ day ∧ day ≤ 7 then
    Day.ofNumber? (fourth.number - fourth.weekday + (week - 1) * 7 + (day - 1))
  else none

/-- **A date by week or by day of the year**, and what follows it. -/
def byWeekOrNumber? (s : List Char) : Option (DateFields × List Char) := do
  let (year, rest) ← wide? 4 s
  let dashed := rest.head? = some '-'
  let (day, rest) ← match if dashed then rest.drop 1 else rest with
    | 'W' :: rest => do
      let week ← Number.int? (rest.take 2)
      match rest.drop 2 with
      | [] => some (← dayOfWeek? year week 1, [])
      | c :: rest =>
        if (c = '-') ≠ dashed then none
        else do
          let rest := if dashed then rest else c :: rest
          let day ← Number.int? (rest.take 1)
          some (← dayOfWeek? year week day, rest.drop 1)
    | rest => do
      let (n, rest) ← wide? 3 rest
      some (← dayOfYear? year n, rest)
  some (⟨day.year, day.month, day.day⟩, rest)

/-- **A distance from universal time**, in seconds. -/
def zone? (s : List Char) : Option Int :=
  match s with
  | ['Z'] | ['z'] => some 0
  | sign :: digits => do
    if s.length ≠ 3 ∧ s.length ≠ 5 ∧ s.length ≠ 6 then none
    else
      let direction : Int ← if sign = '-' then some (-1) else if sign = '+' then some 1 else none
      let hours ← Number.int? (digits.take 2)
      let minutes ← match digits.drop 2 with
        | [] => some 0
        | ':' :: rest => Number.int? rest
        | rest => Number.int? rest
      if hours = 0 ∧ minutes = 0 then some 0
      else if 59 < minutes ∨ 23 < hours then none
      else some (direction * (hours * 60 + minutes) * 60)
  | [] => none

/-- The fields of a time as far as they have been read. -/
structure TimeFields where
  hour : Int := 0
  minute : Int := 0
  second : Int := 0
  micro : Int := 0
  ahead : Option Int := none
  deriving DecidableEq, Repr

/-- The microseconds that the digits of a fraction denote; digits after the sixth are left out. -/
def fractionMicros (ds : List Char) : Int :=
  let kept := ds.take 6
  Number.ofDigits kept * Number.tenTo (6 - kept.length)

/-- A fraction of a second at the start of a text, and what follows it. -/
def fraction? : List Char → Option (Int × List Char)
  | c :: rest =>
    let ds := rest.takeWhile Char.isDigit
    if (c = '.' ∨ c = ',') ∧ ds ≠ [] then some (fractionMicros ds, rest.dropWhile Char.isDigit)
    else none
  | [] => none

/-- **The fields of a time**, the second argument telling which one is next: 0 to 2 for hour, minute
and second, 3 for the fraction, and then nothing but a zone. Colons stand between all fields or
none. -/
def timeFrom : Nat → Nat → Bool → TimeFields → List Char → Option TimeFields
  | _, _, _, t, [] => some t
  | 0, _, _, _, _ :: _ => none
  | left + 1, next, colons, t, c :: rest => do
    if c = '-' ∨ c = '+' ∨ c = 'Z' ∨ c = 'z' then
      some { t with ahead := some (← zone? (c :: rest)) }
    else
      let colons := colons || (next = 1 && c = ':')
      if next = 2 && colons && c ≠ ':' then none
      else
        let s := if (next = 1 ∨ next = 2) ∧ colons then rest else c :: rest
        match next with
        | 0 => timeFrom left 1 colons { t with hour := ← Number.int? (s.take 2) } (s.drop 2)
        | 1 => timeFrom left 2 colons { t with minute := ← Number.int? (s.take 2) } (s.drop 2)
        | 2 => timeFrom left 3 colons { t with second := ← Number.int? (s.take 2) } (s.drop 2)
        | 3 =>
          match fraction? s with
          | some (micro, rest) => timeFrom left 4 colons { t with micro } rest
          | none => timeFrom left 4 colons t s
        | _ => timeFrom left (next + 1) colons t s

/-- A time after the character that separates it from the date. -/
def time? (s : List Char) : Option TimeFields :=
  if s.length < 2 then none else timeFrom 6 0 false {} s

/-- What a clock shows when fields are given. Twenty-four hours and nothing more are midnight at the
end of the day. -/
def reading? (d : DateFields) (t : TimeFields) : Option ClockReading := do
  let day ← (Day.ofFields d.year d.month d.day).toOption
  if t.hour = 24 then
    if t.minute = 0 ∧ t.second = 0 ∧ t.micro = 0 then
      some ⟨← Day.ofNumber? (day.number + 1), .midnight, t.ahead⟩
    else none
  else some ⟨day, ← ClockTime.ofFields? t.hour t.minute t.second t.micro, t.ahead⟩

/-- **What a numeric date shows.** -/
def read? (s : List Char) : Option ClockReading := do
  if s.any (128 ≤ ·.toNat) then none
  else
    let (date, rest) ← (byMonth? s).or (byWeekOrNumber? s)
    match rest with
    | [] => reading? date {}
    | _ :: rest => reading? date (← time? rest)

end TradeJournal.Calendar.Iso
