import TradeJournal.Host
import TradeJournal.Log.Level
import TradeJournal.Path

/-!
# The log

Messages are put on the console and into one file per command. A log is silent until it is
configured, and silent again after a reset; a configuration replaces the one before it. The file
takes every message from the debug level on, the console those of its own level and above. A log
without a level of its own has that of warnings, and where a log has lost its handlers, warnings and
what is above them come to the console all the same.
-/

namespace TradeJournal

/-! ### Handlers -/

/-- Where a handler puts messages. -/
inductive Log.Target
  | nowhere
  | console
  | file (path : String)
  deriving DecidableEq, Repr

/-- **A handler**: where it puts messages, and the least level of those that it takes. -/
structure Log.Handler where
  target : Log.Target
  level : Int
  deriving DecidableEq, Repr

/-- **A log**: its handlers, the least level of messages that it looks at, zero standing for none of
its own, and whether it passes messages on. -/
structure Log where
  handlers : List Log.Handler
  level : Int
  propagates : Bool
  deriving DecidableEq, Repr

namespace Log

/-- **The silent log.** -/
def silent : Log := ⟨[⟨.nowhere, 0⟩], 0, true⟩

/-- **The log of a configuration**: a console at a level, and perhaps a file. -/
def configured (consoleLevel : Int) (file : Option String) : Log :=
  { handlers := ⟨.console, consoleLevel⟩
      :: (file.map fun path => ⟨.file path, Severity.debug.level⟩).toList
    level := min Severity.debug.level consoleLevel
    propagates := false }

/-! ### Messages -/

/-- The handler that stands in where a log has none. -/
def lastResort : Handler := ⟨.console, Severity.warning.level⟩

/-- The handlers that messages come to. -/
def reached (log : Log) : List Handler :=
  if log.handlers = [] then [lastResort] else log.handlers

/-- The least level of messages that a log looks at. -/
def threshold (log : Log) : Int := if log.level = 0 then Severity.warning.level else log.level

/-- Whether a log looks at messages of a level. -/
def admits (log : Log) (level : Int) : Bool := 0 < level && log.threshold ≤ level

/-- **The targets of a message**, in the order of the handlers. -/
def targets (log : Log) (level : Int) : List Target :=
  if log.admits level then (log.reached.filter fun h => h.level ≤ level).map (·.target) else []

/-- The line of a message; the message may hold further line ends. -/
def line (stamp : Stamp) (level : Int) (message : String) : String :=
  stamp.line ++ "[" ++ levelMark level ++ "] " ++ message ++ "\n"

/-- **What is written of a message**: its line, or the bare message where a log has no handlers. -/
def written (log : Log) (stamp : Stamp) (level : Int) (message : String) : String :=
  if log.handlers = [] then message ++ "\n" else line stamp level message

variable {m : Type → Type} [Monad m]

/-- Puts a line where it belongs. A file that cannot be written any more loses the line. -/
def deliver (host : Host m) (line : String) : Target → m Unit
  | .nowhere => pure ()
  | .console => host.print line
  | .file path => do
    let _ ← host.appendFile path line
    pure ()

/-- **Logging a message.** -/
def emit (host : Host m) (log : Log) (level : Int) (message : String) : m Unit := do
  let stamp ← host.stamp
  (log.targets level).forM (deliver host (log.written stamp level message))

/-! ### Configuration -/

/-- **What is asked of a log**: the name of the console's level, the action that messages belong
to, whether they are kept in a file, and the directory of such files. -/
structure Request where
  levelName : String := ""
  action : String := ""
  toFile : Bool := false
  dir : String := ""
  deriving DecidableEq, Repr

/-- Why a configuration fails. -/
inductive Fault
  | unknownLevel (text : String)
  | noLevel (shown : String)
  | file (f : FileFault)
  /-- The file of the log before cannot be closed. -/
  | unclosed (f : FileFault)
  deriving DecidableEq, Repr

/-- The wording of a fault. -/
def Fault.message : Fault → String
  | .unknownLevel text => "Unknown level: " ++ String.ofList (Text.quoted text.toList)
  | .noLevel shown => "Level not an integer or a valid string: " ++ shown
  | .file f | .unclosed f => f.message

/-- The level of the console when none is named, or one that is not known. -/
def defaultLevel : Int := Severity.info.level

/-- **The level that a name in any case stands for.** Two names are taken by patterns of lines,
which are no levels. -/
def levelOfName (name : String) : Except Fault Int :=
  match String.ofList (Text.upper name.toList) with
  | "NOTSET" => .ok 0
  | "WARN" => .ok Severity.warning.level
  | "FATAL" => .ok Severity.critical.level
  | "BASIC_FORMAT" => .error (.unknownLevel linePattern)
  | "_STYLES" => .error (.noLevel stylePatterns)
  | upper => .ok ((Severity.ofName? upper).elim defaultLevel Severity.level)
where
  /-- The basic pattern of a line. -/
  linePattern : String := "%(levelname)s:%(name)s:%(message)s"
  /-- The basic patterns of the three styles, as a mapping is shown. -/
  stylePatterns : String :=
    "\x7b'%': (<class 'logging.PercentStyle'>, '%(levelname)s:%(name)s:%(message)s'), "
      ++ "'\x7b': (<class 'logging.StrFormatStyle'>, "
      ++ "'\x7blevelname\x7d:\x7bname\x7d:\x7bmessage\x7d'), "
      ++ "'$': (<class 'logging.StringTemplateStyle'>, "
      ++ "'$\x7blevelname\x7d:$\x7bname\x7d:$\x7bmessage\x7d')\x7d"

/-- The directory of the log file of a request. -/
def Request.directory (r : Request) : String :=
  Path.under (if r.dir = "" then "log" else r.dir) r.action

/-- **The log file of a request**, if it asks for one. -/
def Request.file? (r : Request) (stamp : Stamp) : Option String :=
  if r.toFile ∧ r.action ≠ "" then
    some (Path.under r.directory (r.action ++ "_" ++ stamp.logName ++ ".log"))
  else none

/-- Makes an empty file and the directory for it. -/
def makeFile (host : Host m) (directory path : String) : ExceptT FileFault m Unit := do
  host.makeDirectories directory
  host.appendFile path ""

/-- **Configuring a log.** The answer is the log, and the path of its file if it has one. -/
def configure (host : Host m) (r : Request) : ExceptT Fault m (Log × Option String) := do
  let level ← ExceptT.mk (pure (levelOfName r.levelName))
  let file := r.file? (← host.stamp)
  if let some path := file then
    (makeFile host r.directory path).adapt .file
  pure (configured level file, file)

end Log

end TradeJournal
