import TradeJournal.Text.Case

/-!
# Levels of messages

Messages have a level, a whole number that grows with their weight. Names stand for some
levels.
-/

namespace TradeJournal.Log

/-- **A level by weight.** -/
inductive Severity
  | debug
  | info
  | warning
  | error
  | critical
  deriving DecidableEq, Repr

/-- The number of a level. -/
def Severity.level : Severity → Int
  | .debug => 10
  | .info => 20
  | .warning => 30
  | .error => 40
  | .critical => 50

/-- The name of a level. -/
def Severity.name : Severity → String
  | .debug => "DEBUG"
  | .info => "INFO"
  | .warning => "WARNING"
  | .error => "ERROR"
  | .critical => "CRITICAL"

/-- All levels, lightest first. -/
def Severity.all : List Severity := [.debug, .info, .warning, .error, .critical]

/-- The level with a name. -/
def Severity.ofName? (name : String) : Option Severity := Severity.all.find? (·.name = name)

/-- The name of a level given by its number; a number without a name says so. -/
def levelName (level : Int) : String :=
  if level = 0 then "NOTSET"
  else
    match Severity.all.find? (·.level = level) with
    | some s => s.name
    | none => "Level " ++ toString level

/-- The four letters of a level in a line. -/
def levelMark (level : Int) : String :=
  match Severity.all.find? (·.level = level) with
  | some .debug => "DEBG"
  | some .info => "INFO"
  | some .warning => "WARN"
  | some .error | some .critical => "ERRO"
  | none => String.ofList ((levelName level).toList.take 4)

end TradeJournal.Log
