import TradeJournal.Calendar.Moment
import TradeJournal.Number.Reading
import TradeJournal.Text.Quoted

/-!
# Why a YAML text has no value

A text may be malformed; that is all that is said then. A text that is well formed may still have
a scalar in it that is not what its tag or its form promises, and each way of that has its own
wording.
-/

namespace TradeJournal.Yaml

/-- The fields of a time. -/
inductive ClockField
  | hour
  | minute
  | second
  deriving DecidableEq, Repr

/-- **Why a text has no value.** -/
inductive Fault
  | malformed
  /-- An escape names no character. -/
  | noCharacter (code : Nat)
  /-- A whole number is none in its base. -/
  | badInt (base : Nat) (text : List Char)
  /-- A whole number has too many digits. -/
  | longInt (digits : Nat)
  /-- A floating-point number is none. -/
  | badFloat (text : List Char)
  /-- A number has nothing but a sign, or not even that. -/
  | emptyNumber
  /-- A part in base sixty stands too far in front. -/
  | beyondFloat
  /-- A truth value is none. -/
  | badTruth (word : List Char)
  /-- A date has not the form of one. -/
  | badDate
  /-- A date is no text at all. -/
  | noDateText
  | badDay (f : Calendar.DayFault)
  | badTime (field : ClockField)
  /-- The clock of a date is too far from universal time; the seconds by which it is ahead. -/
  | clockTooFar (ahead : Int)
  deriving DecidableEq, Repr

/-- The most characters of a quoted number that are shown. -/
def maxShown : Nat := 200

/-- **The wording of a fault.** -/
def Fault.message : Fault → String
  | .malformed => "malformed"
  | .noCharacter code =>
    if code < 0x8000_0000 then "chr() arg not in range(0x110000)"
    else "Python int too large to convert to C int"
  | .badInt base text =>
    "invalid literal for int() with base " ++ toString base ++ ": "
      ++ String.ofList ((Text.quoted text).take maxShown)
  | .longInt digits => Number.tooLongMessage digits
  | .badFloat text => "could not convert string to float: " ++ String.ofList (Text.quoted text)
  | .emptyNumber => "string index out of range"
  | .beyondFloat => "int too large to convert to float"
  | .badTruth word => String.ofList (Text.quoted word)
  | .badDate => "'NoneType' object has no attribute 'groupdict'"
  | .noDateText => "expected string or bytes-like object, got 'list'"
  | .badDay f => f.message
  | .badTime .hour => "hour must be in 0..23"
  | .badTime .minute => "minute must be in 0..59"
  | .badTime .second => "second must be in 0..59"
  | .clockTooFar ahead =>
    "offset must be a timedelta strictly between -timedelta(hours=24) and timedelta(hours=24), not "
      ++ String.ofList (Calendar.spanConstructed ahead) ++ "."

/-- The word for the kind of error that a fault of a text that is well formed is. -/
def Fault.kind : Fault → String
  | .noCharacter code => if code < 0x8000_0000 then "ValueError" else "OverflowError"
  | .beyondFloat => "OverflowError"
  | .emptyNumber => "IndexError"
  | .badTruth _ => "KeyError"
  | .badDate => "AttributeError"
  | .noDateText => "TypeError"
  | _ => "ValueError"

/-- Something that has to be there. -/
def need {α : Type} : Option α → Except Fault α
  | some a => .ok a
  | none => .error .malformed

end TradeJournal.Yaml
