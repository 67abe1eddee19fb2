import TradeJournal.Text.Quoted

/-!
# Tasks

A command line names the settings, the journal, a command and the command's own arguments, which set
a task. How the words of a command line are read is up to a reader: it takes the options of the
program first, and the words of the command itself when the settings are known.
-/

namespace TradeJournal.Command

/-! ### Faults -/

/-- Why a command line cannot be run. -/
inductive UsageFault
  | unknownOption (word : String)
  | missingValue (name : String)
  | strayValue (name : String)
  | directory (path : String)
  | missingCommand
  | unknownCommand (name : String)
  | missingArgument
  | strayArguments
  | badLimit (text : String)
  deriving DecidableEq, Repr

/-- The wording of a fault. -/
def UsageFault.message : UsageFault → String
  | .unknownOption word => "No such option: " ++ word
  | .missingValue name => "Option '" ++ name ++ "' requires an argument."
  | .strayValue name => "Option '" ++ name ++ "' does not take a value."
  | .directory path => "File '" ++ path ++ "' is a directory."
  | .missingCommand => "Missing command."
  | .unknownCommand name => "No such command '" ++ name ++ "'."
  | .missingArgument => "Missing argument 'QUERY'."
  | .strayArguments => "Got unexpected extra arguments"
  | .badLimit text => "Invalid value for '--limit': '" ++ text ++ "'"

/-! ### Commands -/

/-- The names of commands. -/
inductive Name
  | search
  | validate
  | suggest
  | tags
  deriving DecidableEq, Repr

/-- The word for a command; its log and its report are named by it too. -/
def Name.word : Name → String
  | .search => "search"
  | .validate => "validate"
  | .suggest => "suggest"
  | .tags => "tags"

/-- The command that a word names. -/
def Name.ofWord? (word : String) : Option Name :=
  [Name.search, .validate, .suggest, .tags].find? (·.word = word)

/-- **A command with its arguments.** -/
inductive Task
  | search (query : String)
  | validate (query : String)
  | suggest (typed : String) (limit : Option Int)
  | tags (limit : Int)
  deriving DecidableEq, Repr

/-- The name of a command. -/
def Task.name : Task → Name
  | .search _ => .search
  | .validate _ => .validate
  | .suggest .. => .suggest
  | .tags _ => .tags

/-! ### Readers -/

/-- **What the beginning of a command line asks for**: help, or a command with the rest of the words
under settings and with a journal, which need not be named. It may turn out, after these two have
been looked at, that the command is at fault, or that help is asked for after all. -/
inductive Start
  | help
  | command (settings : String) (journal : Option String)
      (next : Except UsageFault (Option (Name × List String)))
  deriving Repr

/-- **How command lines are read.** The words of a command set a task or ask for help. -/
structure LineReader where
  start : List String → Except UsageFault Start
  task? : Name → List String → Except UsageFault (Option Task)

/-- The file of the settings when nothing is said, and the one that others are laid over. -/
def defaultSettings : String := "config/default.yml"

end TradeJournal.Command
