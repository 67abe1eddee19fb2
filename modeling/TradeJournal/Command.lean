import TradeJournal.Command.Task
import TradeJournal.Output
import TradeJournal.Settings.File

/-!
# Commands

A run of the program. The command line names the settings, the journal and a task; the settings are
read before the task's own arguments are looked at. How the command line, the settings and dates are
read is up to readers. Every task works under a log that the settings
configure. A task that fails says so on the log and is given up.
-/

namespace TradeJournal.Command

/-! ### Outcomes -/

/-- Why a run ends before its task begins. -/
inductive Fault
  | path (f : FileFault)
  | settings (f : LoadFault Settings.ContentFault)
  | log (f : Log.Fault)
  deriving DecidableEq, Repr

/-- The wording of a fault. -/
def Fault.message : Fault → String
  | .path f => f.message
  | .settings f => f.message Settings.ContentFault.message
  | .log f => f.message

/-- Why a task is given up. -/
inductive Failure
  | journal (f : LoadFault Journal.Fault)
  | cache (f : Search.CacheFault)
  | output (f : OutputFault)
  | tags (m : Value.Misuse)
  | index (f : TagIndex.Fault)
  | report (f : FileFault)
  deriving Repr

/-- The wording of a failure. -/
def Failure.message : Failure → String
  | .journal f => f.message Journal.Fault.message
  | .cache f => f.message
  | .output f => f.message
  | .tags m => m.message
  | .index f => f.message
  | .report f => f.message

/-- **How a run ends.** -/
inductive Outcome
  | finished (accepted : Bool)
  | givenUp
  | helped
  | misused (f : UsageFault)
  | failed (f : Fault)
  deriving DecidableEq, Repr

/-- The exit code of a run. -/
def Outcome.exitCode : Outcome → Nat
  | .finished accepted => if accepted then 0 else 1
  | .givenUp => 1
  | .helped => 0
  | .misused _ => 2
  | .failed _ => 1

/-! ### Messages -/

/-- A text as it is shown in messages. -/
def shown (s : String) : String := String.ofList (Text.quoted s.toList)

/-- A text with blanks behind it up to a width. -/
def padEnd (width : Nat) (s : String) : String := s ++ "".pushn ' ' (width - s.length)

/-- A text with blanks in front of it up to a width. -/
def padStart (width : Nat) (s : String) : String := "".pushn ' ' (width - s.length) ++ s

/-- What is said of the outcome of a search, for the record. -/
def searchNote (query : String) (size : Nat) (result : Search.Result) : String :=
  let query := "query=" ++ shown query
  match result with
  | .matched records .. =>
    "Query matched " ++ toString records.length ++ "/" ++ toString size ++ " records: " ++ query
  | .rejected problems =>
    "Query rejected: " ++ query ++ " errors="
      ++ String.ofList (Text.quotedList (problems.map String.toList))

/-- The line of a tag in a list. -/
def tagLine (s : TagStats) : String :=
  padEnd 24 s.tag ++ " " ++ padStart 4 (toString s.count) ++ "  last used " ++ orDash s.lastUsed

/-- What is said first when a task is given up. -/
def givingUp : Name → String
  | .search => "Search failed: "
  | .validate => "Validate failed: "
  | .suggest => "Suggest failed: "
  | .tags => "Listing tags failed: "

/-! ### Tasks -/

variable {m : Type → Type} [Monad m]

/-- **What tasks work with**: the host, a reader of dates, the log and the settings. -/
structure Desk (m : Type → Type) where
  host : Host m
  dates : DateReader
  log : Log
  settings : Settings

/-- Says something. -/
def Desk.say (d : Desk m) (severity : Log.Severity) (message : String) : m Unit :=
  d.log.emit d.host severity.level message

/-- A result of which the fault is a failure. -/
def attempt {ε α : Type} (failure : ε → Failure) (r : Except ε α) : ExceptT Failure m α :=
  ExceptT.mk (pure (r.mapError failure))

/-- The trades of the journal. -/
def Desk.trades (d : Desk m) : ExceptT Failure m (List Record) := do
  let path := Path.normal d.settings.journalPath
  let trades ← (d.host.load (Journal.read path) path).adapt .journal
  d.say .debug ("Loaded " ++ toString trades.length ++ " trades from " ++ path)
  d.say .info ("Journal loaded: " ++ path ++ " (" ++ toString trades.length ++ " trades)")
  pure (trades.map .trade)

/-- The search service of the settings. -/
def Desk.service (d : Desk m) : ExceptT Failure m (Search.Service Value) :=
  attempt .cache d.settings.service

/-- The output of the settings. -/
def Desk.output (d : Desk m) : ExceptT Failure m Output :=
  attempt .output (Output.ofSettings d.settings.output)

/-- Shows a view and finishes the command. -/
def Desk.present (d : Desk m) (name : Name) (output : Output) (v : View) :
    ExceptT Failure m Unit := do
  let output ← (output.write d.host d.log v : m Output)
  (output.finish d.host d.log name.word).adapt .report

/-- The statistics of the journal's tags. -/
def Desk.index (d : Desk m) (snapshot : Search.Snapshot) : ExceptT Failure m TagIndex := do
  let index ← attempt (.index ∘ .date) (TagIndex.ofSnapshot d.dates snapshot)
  d.say .debug ("Built tag index: records=" ++ toString snapshot.size
    ++ " tags=" ++ toString index.stats.length)
  pure index

/-- **Searching the journal.** The answer is whether the query was accepted. -/
def Desk.search (d : Desk m) (query : String) : ExceptT Failure m Bool := do
  let trades ← d.trades
  let output ← d.output
  let service ← d.service
  let snapshot ← attempt .tags (Search.Snapshot.ofRecords trades)
  let edition : Search.Edition Value := ⟨snapshot, some (.text d.settings.journalPath)⟩
  d.say .debug ("Running query=" ++ shown query ++ " against " ++ toString snapshot.size ++
    " trades")
  let (result, _) ← attempt .tags (service.search edition (.text query))
  d.say .debug (searchNote query snapshot.size result)
  if result.isValid then
    d.say .info ("Matched " ++ toString result.records.length ++ " of "
      ++ toString snapshot.size ++ " trades")
  let highlights ← attempt .tags (Search.highlights result.records result.matchingTags)
  let view ← attempt .tags (SearchView.ofResult (some query) result highlights)
  d.present .search output (.search view)
  pure result.isValid

/-- **Checking a query** without a journal. -/
def Desk.validate (d : Desk m) (query : String) : m Bool := do
  match Query.problems (Query.tokenize query) with
  | [] =>
    d.say .info ("Query is valid: " ++ query)
    pure true
  | problems =>
    d.say .warning ("Query is invalid: " ++ query)
    problems.forM fun problem => d.say .warning ("  - " ++ problem)
    pure false

/-- **Completing a query.** -/
def Desk.suggest (d : Desk m) (typed : String) (limit : Option Int) : ExceptT Failure m Bool := do
  let output ← d.output
  let service ← d.service
  let trades ← d.trades
  let snapshot ← attempt .tags (Search.Snapshot.ofRecords trades)
  let index ← d.index snapshot
  let completions ← attempt .tags
    (Completion.suggest (.text typed) index none (limit.getD service.defaultLimit))
  d.say .debug ("Computed " ++ toString completions.length ++ " suggestions for partial=" ++
    shown typed)
  d.present .suggest output (.suggestions ⟨some typed, completions⟩)
  pure true

/-- **Listing the most used tags.** -/
def Desk.tags (d : Desk m) (limit : Int) : ExceptT Failure m Bool := do
  let trades ← d.trades
  let snapshot ← attempt .tags (Search.Snapshot.ofRecords trades)
  let index ← d.index snapshot
  (index.mostUsed limit).forM fun s => d.say .info (tagLine s)
  pure true

/-- A task. -/
def Desk.perform (d : Desk m) : Task → ExceptT Failure m Bool
  | .search query => d.search query
  | .validate query => d.validate query
  | .suggest typed limit => d.suggest typed limit
  | .tags limit => d.tags limit

/-- **A task to its end.** One that fails says so and is given up. -/
def Desk.complete (d : Desk m) (task : Task) : m Outcome := do
  match ← (d.perform task).run with
  | .ok accepted => pure (.finished accepted)
  | .error f =>
    d.say .error (givingUp task.name ++ f.message)
    d.host.print "Aborted!\n"
    pure .givenUp

/-- The log that settings ask for, for one command. -/
def logRequest (s : Settings) (name : Name) : Log.Request :=
  ⟨s.log.level.name, name.word, s.log.toFile, s.log.dir⟩

/-- **A task under its log.** -/
def execute (host : Host m) (dates : DateReader) (settings : Settings) (task : Task) :
    m Outcome := do
  match ← (Log.configure host (logRequest settings task.name)).run with
  | .error f => pure (.failed (.log f))
  | .ok (log, file) =>
    let d : Desk m := ⟨host, dates, log, settings⟩
    file.forM fun path => d.say .debug ("Logging to " ++ path)
    d.complete task

/-! ### Runs -/

/-- **What the program does not read by itself**: dates, YAML, and its command line. -/
structure Readers where
  dates : DateReader
  yaml : YamlReader
  lines : LineReader

/-- A path that may be that of a file: it is not that of a directory. -/
def checkPath (host : Host m) (path : String) : ExceptT Outcome m Unit := do
  let found ← (host.kindAt path).adapt (.failed ∘ .path)
  if path ≠ "" ∧ found = some .directory then throw (.misused (.directory path))

/-- **The settings of a run**: those in the file named, laid over the default ones if these are
elsewhere and there are any; a journal that is named counts before the one in the settings. -/
def settingsOf (host : Host m) (yaml : YamlReader) (path : String)
    (journal environment : Option String) :
    ExceptT (LoadFault Settings.ContentFault) m Settings := do
  let defaults ← (host.kindAt defaultSettings).run
  let layered := Path.normal path ≠ defaultSettings ∧ (defaults.toOption.join).isSome
  let s ← if layered then Settings.loadOver host yaml path defaultSettings environment
    else Settings.load host yaml path environment
  pure { s with journalPath := (journal.map Path.normal).getD s.journalPath }

/-- A command with its words, when its settings and its journal are paths of files. -/
def proceed (host : Host m) (readers : Readers) (environment : Option String) (path : String)
    (journal : Option String) (name : Name) (words : List String) : m Outcome := do
  match ← (settingsOf host readers.yaml path journal environment).run with
  | .error f => pure (.failed (.settings f))
  | .ok settings =>
    match readers.lines.task? name words with
    | .error f => pure (.misused f)
    | .ok none => pure .helped
    | .ok (some task) => execute host readers.dates settings task

/-- **A run of the program** on the words of its command line. A beginning that is at fault is the
end of the run. -/
def run (host : Host m) (readers : Readers) (environment : Option String) (words : List String) :
    m Outcome := do
  match readers.lines.start words with
  | .error f => pure (.misused f)
  | .ok .help => pure .helped
  | .ok (.command path journal next) =>
    match ← (checkPath host path *> journal.forM (checkPath host)).run with
    | .error outcome => pure outcome
    | .ok () =>
      match next with
      | .error f => pure (.misused f)
      | .ok none => pure .helped
      | .ok (some (name, rest)) => proceed host readers environment path journal name rest

end TradeJournal.Command
