import TradeJournal.Calendar.Moment

/-!
# Time stamps

The time of a message or of a file, as lines and file names show it.
-/

namespace TradeJournal

/-- **A time as it is written**: in front of a line of a log, in the name of a log, and in the name
of a report. -/
structure Stamp where
  line : String
  logName : String
  reportName : String
  deriving DecidableEq, Repr

namespace Stamp

/-- Numbers of two digits, one after the other. -/
def twos (numbers : List Nat) : List Char := numbers.flatMap (Number.lastDigits 2)

/-- **The stamp of a day and a time.** Lines and names of logs leave out the year. -/
def ofClock (d : Calendar.Day) (t : Calendar.ClockTime) : Stamp :=
  let two := Number.lastDigits 2
  let time := twos [t.hour, t.minute, t.second]
  { line := String.ofList (two d.month ++ '-' :: two d.day ++ ' ' :: two t.hour ++
    ':' :: two t.minute
      ++ ':' :: two t.second ++ [' '])
    logName := String.ofList (twos [d.month, d.day] ++ time)
    reportName := String.ofList
      (Number.lastDigits 4 d.year ++ twos [d.month, d.day] ++ '_' :: time) }

/-- The stamp of a moment in universal time; none outside the calendar. -/
def ofMoment? (m : Calendar.Moment) : Option Stamp := m.day?.map fun d => ofClock d m.time

end Stamp

end TradeJournal
