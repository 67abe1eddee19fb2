import TradeJournal.Command.Task
import TradeJournal.Number.Reading
import TradeJournal.Text.Letter

/-!
# The reader of command lines that the program runs with

The words of a command line are options with their values, and arguments. A word that begins with a
dash and goes on is an option; its value is the next word, or stands behind an equals sign. After a
lone double dash all words are arguments. Of an option given twice the last value counts.
-/

namespace TradeJournal.Command

/-! ### Words -/

/-- **The words of a command line, sorted**: options with their values in the order in which they
were given, whether help is asked for, and the arguments. -/
structure Words where
  options : List (String × String) := []
  help : Bool := false
  arguments : List String := []
  deriving DecidableEq, Repr

/-- The value of an option: the last one given. -/
def Words.value? (w : Words) (name : String) : Option String :=
  (w.options.reverse.find? (·.1 = name)).map (·.2)

/-- The option that asks for help. -/
def helpOption : String := "--help"

/-- Whether a word is an option. -/
def isOption (word : String) : Bool :=
  match word.toList with
  | '-' :: _ :: _ => true
  | _ => false

/-- An option's name, and the value behind the first equals sign if there is one. -/
def splitOption (word : String) : String × Option String :=
  let name := word.toList.takeWhile (· ≠ '=')
  (String.ofList name,
    match word.toList.drop name.length with
    | [] => none
    | _ :: value => some (String.ofList value))

/-- One more option in front. -/
def Words.withOption (w : Words) (name value : String) : Words :=
  { w with options := (name, value) :: w.options }

/-- **Sorting the words of a command line**, while an option may be waiting for its value. The names
are those of the options that take one. If options may not follow arguments, all words from the
first argument on are arguments. -/
def sortFrom (names : List String) (mixed : Bool) (waiting : Option String) :
    List String → Except UsageFault Words
  | [] => match waiting with
    | some name => .error (.missingValue name)
    | none => .ok {}
  | word :: rest =>
    match waiting with
    | some name => (·.withOption name word) <$> sortFrom names mixed none rest
    | none =>
      if word = "--" then .ok { arguments := rest }
      else if isOption word then
        let (name, value) := splitOption word
        if name ∈ names then
          match value with
          | some value => (·.withOption name value) <$> sortFrom names mixed none rest
          | none => sortFrom names mixed (some name) rest
        else if name ≠ helpOption then .error (.unknownOption word)
        else if value.isSome then .error (.strayValue name)
        else (fun w => { w with help := true }) <$> sortFrom names mixed none rest
      else if mixed then
        (fun w => { w with arguments := word :: w.arguments }) <$> sortFrom names mixed none rest
      else .ok { arguments := word :: rest }

/-- The words of a command line, sorted. -/
def sortWords (names : List String) (mixed : Bool) (words : List String) :
    Except UsageFault Words :=
  sortFrom names mixed none words

/-! ### Arguments -/

/-- The option for the number of answers. -/
def limitOption : String := "--limit"

/-- How many tags are listed when nothing is said. -/
def defaultTagLimit : Int := 20

/-- The options of a command. -/
def Name.options : Name → List String
  | .search | .validate => []
  | .suggest | .tags => [limitOption]

/-- The only argument. -/
def onlyArgument : List String → Except UsageFault String
  | [] => .error .missingArgument
  | [a] => .ok a
  | _ => .error .strayArguments

/-- The argument that may be missing. -/
def optionalArgument : List String → Except UsageFault String
  | [] => .ok ""
  | [a] => .ok a
  | _ => .error .strayArguments

/-- The limit that is asked for: a whole number that is positive. -/
def limitOf (w : Words) : Except UsageFault (Option Int) :=
  match w.value? limitOption with
  | none => .ok none
  | some text =>
    match Number.int? text.toList with
    | some n => if 0 < n then .ok (some n) else .error (.badLimit text)
    | none => .error (.badLimit text)

/-- **The task that sorted words set.** -/
def taskOf (name : Name) (w : Words) : Except UsageFault Task := do
  let limit ← limitOf w
  match name with
  | .search => .ok (.search (← onlyArgument w.arguments))
  | .validate => .ok (.validate (← onlyArgument w.arguments))
  | .suggest => .ok (.suggest (← optionalArgument w.arguments) limit)
  | .tags =>
    if w.arguments = [] then .ok (.tags (limit.getD defaultTagLimit))
    else .error .strayArguments

/-- The task that a command's own words set; none if they ask for help. -/
def task? (name : Name) (words : List String) : Except UsageFault (Option Task) := do
  let sorted ← sortWords name.options true words
  if sorted.help then .ok none else some <$> taskOf name sorted

/-! ### The beginning -/

/-- The option for the settings. -/
def settingsOption : String := "--config"

/-- The option for the journal. -/
def journalOption : String := "--journal"

/-- Whether a word might be the name of a command. -/
def isWordlike (word : String) : Bool :=
  match word.toList with
  | [] => true
  | c :: _ => Text.isAlphanumeric c

/-- The command that the arguments of the program name. A word in its place that can be no name asks
for help. -/
def commandOf : List String → Except UsageFault (Option (Name × List String))
  | [] => .error .missingCommand
  | word :: rest =>
    match Name.ofWord? word with
    | some name => .ok (some (name, rest))
    | none => if isWordlike word then .error (.unknownCommand word) else .ok none

/-- **The beginning of a command line**: the options of the program and the name of a command. -/
def start (words : List String) : Except UsageFault Start := do
  let sorted ← sortWords [settingsOption, journalOption] false words
  if words = [] ∨ sorted.help then .ok .help
  else
    .ok (.command ((sorted.value? settingsOption).getD defaultSettings)
      (sorted.value? journalOption) (commandOf sorted.arguments))

/-- **The reader of command lines that the program runs with.** -/
def standardLines : LineReader := ⟨start, task?⟩

/-! ### Help -/

/-- What a command line looks like. -/
def usage : List String :=
  ["Usage: [OPTIONS] COMMAND [ARGS]...", "", "Options:",
    "  --config FILE   Path to YAML config file.",
    "  --journal FILE  Trades JSON file; overrides journal.path.",
    "  --help          Show this message and exit.", "", "Commands:",
    "  search QUERY                 Print journal trades matching QUERY.",
    "  suggest [PARTIAL] [--limit]  Print completions for a PARTIAL query.",
    "  tags [--limit]               Print the most used tags of the journal.",
    "  validate QUERY               Check QUERY for syntax errors."]

end TradeJournal.Command
