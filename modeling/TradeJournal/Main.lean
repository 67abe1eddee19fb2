import Std.Time.DateTime.Timestamp
import TradeJournal.Calendar.Standard
import TradeJournal.Command
import TradeJournal.Command.Line
import TradeJournal.Yaml.Document

/-!
# The program

The command line on a real machine: its files, its error stream as the console, and its clock.
-/

namespace TradeJournal

/-- The cause that a code of the machine stands for; codes may be counted down from zero. -/
def causeNumbered (code : UInt32) (words : String) : FileCause :=
  let number := if code.toNat < 0x8000_0000 then code.toNat else 0x1_0000_0000 - code.toNat
  ([.missing, .occupied, .notDirectory, .directory, .nameTooLong].find? (·.number = number)).getD
    (.other number words)

/-- The cause of an error of the machine. -/
def causeOf : IO.Error → FileCause
  | .noFileOrDirectory _ code words => causeNumbered code words
  | .alreadyExists _ code words => causeNumbered code words
  | .inappropriateType _ code words => causeNumbered code words
  | .permissionDenied _ code words => causeNumbered code words
  | .invalidArgument _ code words => causeNumbered code words
  | .resourceExhausted _ code words => causeNumbered code words
  | .otherError code words => causeNumbered code words
  | e => .other 5 (toString e)

/-- An action on the file at a path, its error as a fault. -/
def onFile {α : Type} (path : String) (action : IO α) : ExceptT FileFault IO α := do
  ExceptT.mk (pure (checkedPath .lastPlane path))
  match ← action.toBaseIO with
  | .ok a => pure a
  | .error e => throw (.refused (causeOf e) path)

/-- The bytes of a content. -/
def bytesOf (content : String) : ExceptT FileFault IO ByteArray := do
  let bytes ← ExceptT.mk (pure (encoded .lastPlane content))
  pure (ByteArray.mk bytes.toArray)

/-- What is found at a path: a file can be read from. -/
def kindFound (path : String) : IO (Option EntryKind) := do
  match ← (IO.FS.Handle.mk path .read).toBaseIO with
  | .error _ => pure none
  | .ok handle =>
    match ← (handle.read 1).toBaseIO with
    | .ok _ => pure (some .file)
    | .error _ => pure (some .directory)

/-- The time on the machine's clock. -/
def stampNow : IO Stamp := do
  let now ← Std.Time.Timestamp.now
  let moment : Calendar.Moment :=
    ⟨Calendar.Moment.epoch.micros + now.toSecondsSinceUnixEpoch.val * 1_000_000⟩
  pure ((Stamp.ofMoment? moment).getD ⟨"", "", ""⟩)

/-- **The machine that the program runs on.** -/
def machine : Host IO where
  readFile path := onFile path do return (← IO.FS.readBinFile path).toList
  kindAt path := do
    ExceptT.mk (pure (checkedPath .lastPlane path))
    kindFound path
  makeDirectories path := onFile path (IO.FS.createDirAll path)
  writeFile path content := do
    onFile path (IO.FS.writeFile path "")
    let bytes ← bytesOf content
    onFile path (IO.FS.writeBinFile path bytes)
  appendFile path content := do
    let bytes ← bytesOf content
    onFile path (IO.FS.withFile path .append (·.write bytes))
  closeFile _ := pure ()
  print text := IO.eprint text
  stamp := stampNow

/-- **The readers that the program runs with.** -/
def readers : Command.Readers := ⟨Calendar.standardDates, Yaml.reader, Command.standardLines⟩

/-- The variable of the environment that may name the journal. -/
def journalVariable : String := "TAGSEARCH_JOURNAL"

/-- What is said of the outcome of a run. -/
def report : Command.Outcome → IO Unit
  | .helped => IO.print (endLines Command.usage)
  | .misused f => IO.eprintln ("Error: " ++ f.message)
  | .failed f => IO.eprintln ("Error: " ++ f.message)
  | .finished _ | .givenUp => pure ()

end TradeJournal

/-- The program. -/
def main (words : List String) : IO UInt32 := do
  let journal ← IO.getEnv TradeJournal.journalVariable
  let outcome ← TradeJournal.Command.run TradeJournal.machine TradeJournal.readers journal words
  TradeJournal.report outcome
  return outcome.exitCode.toUInt32
