import TradeJournal.Calendar.Day
import TradeJournal.Number.Double

/-!
# Moments

A `Moment` is a point in time, counted in microseconds from the beginning of the
calendar. A wall clock somewhere shows a day and a time; with the distance of that clock from
universal time it names a moment. Moments are ordered as their counts are, whatever clock
they were read from.
-/

namespace TradeJournal.Calendar

/-- **A time of day.** -/
structure ClockTime where
  hour : Nat
  minute : Nat
  second : Nat
  micro : Nat
  in_range : hour < 24 ∧ minute < 60 ∧ second < 60 ∧ micro < 1_000_000
  deriving DecidableEq, Repr

/-- The time with the given fields, if there is one. -/
def ClockTime.ofFields? (hour minute second micro : Int) : Option ClockTime :=
  if 0 ≤ hour ∧ 0 ≤ minute ∧ 0 ≤ second ∧ 0 ≤ micro then
    if h : hour.toNat < 24 ∧ minute.toNat < 60 ∧ second.toNat < 60 ∧ micro.toNat < 1_000_000 then
      some ⟨hour.toNat, minute.toNat, second.toNat, micro.toNat, h⟩
    else none
  else none

/-- Midnight. -/
def ClockTime.midnight : ClockTime := ⟨0, 0, 0, 0, by decide⟩

/-- The microseconds since midnight. -/
def ClockTime.micros (t : ClockTime) : Nat :=
  ((t.hour * 60 + t.minute) * 60 + t.second) * 1_000_000 + t.micro

/-- The text of a time; a fraction of a second is shown if there is one. -/
def ClockTime.text (t : ClockTime) : List Char :=
  let two := Number.lastDigits 2
  two t.hour ++ ':' :: two t.minute ++ ':' :: two t.second
    ++ (if t.micro = 0 then [] else '.' :: Number.lastDigits 6 t.micro)

/-- The microseconds of a day. -/
def microsPerDay : Nat := 86400 * 1_000_000

/-- **What a wall clock shows**: a day, a time, and, where it is known, how many seconds the
clock is ahead of universal time. -/
structure ClockReading where
  day : Day
  time : ClockTime
  ahead : Option Int
  deriving DecidableEq, Repr

/-- The text of a distance from universal time, in hours and minutes. -/
def distanceText (ahead : Int) : List Char :=
  let minutes := ahead.natAbs / 60
  (if ahead < 0 then '-' else '+')
    :: Number.lastDigits 2 (minutes / 60) ++ ':' :: Number.lastDigits 2 (minutes % 60)

/-- The text of what a clock shows, with a character between day and time, and with the clock's
distance from universal time if that is known. -/
def ClockReading.textWith (between : Char) (r : ClockReading) : List Char :=
  r.day.text ++ between :: r.time.text ++ (r.ahead.map distanceText).getD []

/-- The text of what a clock shows. -/
def ClockReading.text (r : ClockReading) : List Char := r.textWith 'T'

/-- Numbers between commas. -/
def numbersText (ns : List Nat) : List Char :=
  List.intercalate [',', ' '] (ns.map fun n : Nat => Number.intText n)

/-- A day as it is constructed from its fields. -/
def Day.constructed (d : Day) : List Char :=
  "datetime.date(".toList ++ numbersText [d.year, d.month, d.day] ++ [')']

/-- A span of seconds as it is constructed: from its days, and from the seconds of its last day. -/
def spanConstructed (seconds : Int) : List Char :=
  let days := seconds.fdiv 86400
  let rest := seconds.fmod 86400
  let word (name : String) (n : Int) : List (List Char) :=
    if n = 0 then [] else [name.toList ++ '=' :: Number.intText n]
  "datetime.timedelta(".toList
    ++ List.intercalate [',', ' '] (word "days" days ++ word "seconds" rest) ++ [')']

/-- A distance from universal time as it is constructed. -/
def zoneConstructed (ahead : Int) : List Char :=
  if ahead = 0 then "datetime.timezone.utc".toList
  else "datetime.timezone(".toList ++ spanConstructed ahead ++ [')']

/-- What a clock shows as it is constructed from its fields; those at the end are left out where
they are zero. -/
def ClockReading.constructed (r : ClockReading) : List Char :=
  let t := r.time
  let small := if t.micro = 0 then if t.second = 0 then [] else [t.second] else [t.second, t.micro]
  "datetime.datetime(".toList
    ++ numbersText ([r.day.year, r.day.month, r.day.day, t.hour, t.minute] ++ small)
    ++ (r.ahead.map fun ahead => ", tzinfo=".toList ++ zoneConstructed ahead).getD [] ++ [')']

/-- **A point in time**, in microseconds from the beginning of the calendar. -/
structure Moment where
  micros : Int
  deriving DecidableEq, Repr

/-- Why a clock reading names no moment of the calendar. -/
inductive MomentFault
  /-- The clock would be a whole day or more away from universal time. -/
  | clockTooFar
  /-- In universal time the reading falls outside the calendar. -/
  | outsideCalendar
  deriving DecidableEq, Repr

/-- The wording of a fault. -/
def MomentFault.message : MomentFault → String
  | .clockTooFar =>
    "offset must be a timedelta strictly between -timedelta(hours=24) and timedelta(hours=24)."
  | .outsideCalendar => "date value out of range"

namespace Moment

/-- The number of days in the calendar. -/
def calendarDays : Nat := 3652059

/-- The moment at which a clock on universal time shows the given day and time. -/
def ofClock (d : Day) (t : ClockTime) : Moment := ⟨(d.number * microsPerDay + t.micros : Nat)⟩

/-- **The moment that a clock reading names.** A clock of unknown distance is taken to show
universal time. -/
def ofReading (r : ClockReading) : Except MomentFault Moment :=
  let shown := ofClock r.day r.time
  match r.ahead with
  | none => .ok shown
  | some ahead =>
    if ahead ≤ -86400 ∨ 86400 ≤ ahead then .error .clockTooFar
    else
      let micros : Int := shown.micros - ahead * 1_000_000
      if 0 ≤ micros ∧ micros < calendarDays * microsPerDay then .ok ⟨micros⟩
      else .error .outsideCalendar

/-- The moment from which sort values count: the beginning of 1970. -/
def epoch : Moment := ⟨719162 * (microsPerDay : Int)⟩

/-- **The sort value of a moment**: its seconds since 1970. -/
def seconds (m : Moment) : Double :=
  let micros : Int := m.micros - epoch.micros
  .ofRatio (micros < 0) micros.natAbs (1_000_000)

/-- The day of a moment in universal time, if it lies in the calendar. -/
def day? (m : Moment) : Option Day := Day.ofNumber? (m.micros / microsPerDay)

/-- The microseconds of its day that have passed at a moment in universal time. -/
def sinceMidnight (m : Moment) : Nat := (m.micros % microsPerDay).toNat

theorem sinceMidnight_lt (m : Moment) : m.sinceMidnight < microsPerDay := by
  have := Int.emod_lt_of_pos m.micros (b := microsPerDay) (by decide)
  have := Int.emod_nonneg m.micros (b := microsPerDay) (by decide)
  unfold sinceMidnight
  omega

/-- The time of day of a moment in universal time. -/
def time (m : Moment) : ClockTime where
  hour := m.sinceMidnight / 1_000_000 / 3600
  minute := m.sinceMidnight / 1_000_000 / 60 % 60
  second := m.sinceMidnight / 1_000_000 % 60
  micro := m.sinceMidnight % 1_000_000
  in_range := by
    have h := m.sinceMidnight_lt
    unfold microsPerDay at h
    omega

/-- The text of a moment in universal time. -/
def text (m : Moment) : List Char := (m.day?.map Day.text).getD [] ++ 'T' :: m.time.text

end Moment

/-- **Whether two clock readings mean the same**: clocks whose distance from universal time is known
name the same moment, and others show the same. -/
def ClockReading.same (a b : ClockReading) : Bool :=
  let shown (r : ClockReading) : Int := (Moment.ofClock r.day r.time).micros
  match a.ahead, b.ahead with
  | none, none => shown a = shown b
  | some x, some y => shown a - x * 1_000_000 = shown b - y * 1_000_000
  | _, _ => false

end TradeJournal.Calendar
