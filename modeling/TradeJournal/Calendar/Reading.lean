import TradeJournal.Reader

/-!
# Reading dates

A journal's dates are read as numeric dates first and as written dates otherwise, and brought
to universal time. A text that is neither has no moment, and sorts before every moment. How either
kind is read is up to a reader of dates.
-/

namespace TradeJournal.Calendar

/-- **Why a date cannot be worked out.** -/
inductive Fault
  /-- The text shows a clock reading that names no moment. -/
  | moment (f : MomentFault)
  /-- The reader broke off, with an error of some kind and a wording. -/
  | broken (kind message : String)
  deriving DecidableEq, Repr

/-- The wording of a fault. -/
def Fault.message : Fault → String
  | .moment f => f.message
  | .broken _ message => message

/-- **What a text shows**, as a numeric or else as a written date. Nothing is read in an empty
text. -/
def clockReading? (dates : DateReader) (text : String) : Except Fault (Option ClockReading) :=
  if text = "" then .ok none
  else
    match dates.numeric text with
    | .ok reading => .ok (some reading)
    | .error (.broken kind message) => .error (.broken kind message)
    | .error .rejected =>
      match dates.written text with
      | .ok reading => .ok (some reading)
      | .error (.broken kind message) => .error (.broken kind message)
      | .error .rejected => .ok none

/-- **The moment that a text names**, if it is a date. A date whose moment lies outside the
calendar is a fault. -/
def parseDate (dates : DateReader) (text : String) : Except Fault (Option Moment) :=
  match clockReading? dates text with
  | .error f => .error f
  | .ok none => .ok none
  | .ok (some reading) =>
    match Moment.ofReading reading with
    | .ok moment => .ok (some moment)
    | .error f => .error (.moment f)

/-- The sort value of a moment; without a moment it is below all others. -/
def sortValue : Option Moment → Double
  | none => .infinity true
  | some m => m.seconds

/-- The sort value of a date's text. -/
def dateSortValue (dates : DateReader) (text : String) : Except Fault Double :=
  sortValue <$> parseDate dates text

end TradeJournal.Calendar
