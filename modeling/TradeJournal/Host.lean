import TradeJournal.Stamp
import TradeJournal.Text.Quoted
import TradeJournal.Text.Utf8

/-!
# The host of a run

What a run needs of the machine that it runs on: files, a console, and the time. The operations
live in a monad of the host's own, so that one run can be read both as a change of a machine in
memory and as one of a real machine.
-/

namespace TradeJournal

/-! ### Faults -/

/-- Why an operation on a file fails. -/
inductive FileCause
  | missing
  | occupied
  | notDirectory
  | directory
  | nameTooLong
  | other (number : Nat) (words : String)
  deriving DecidableEq, Repr

/-- The number of a cause. -/
def FileCause.number : FileCause → Nat
  | .missing => 2
  | .occupied => 17
  | .notDirectory => 20
  | .directory => 21
  | .nameTooLong => 36
  | .other number _ => number

/-- The words for a cause. -/
def FileCause.words : FileCause → String
  | .missing => "No such file or directory"
  | .occupied => "File exists"
  | .notDirectory => "Not a directory"
  | .directory => "Is a directory"
  | .nameTooLong => "File name too long"
  | .other _ words => words

/-- **A failed operation on a file.** -/
inductive FileFault
  /-- The machine refuses it for a path. -/
  | refused (cause : FileCause) (path : String)
  /-- A path that holds the null character leads nowhere. -/
  | nullInPath
  /-- A path or a content has no bytes. -/
  | notEncodable (h : Text.Halves)
  /-- What was held back can no longer be written. -/
  | unwritten (cause : FileCause)
  deriving DecidableEq, Repr

/-- The number of a cause and the words for it. -/
def FileCause.message (cause : FileCause) : String :=
  "[Errno " ++ toString cause.number ++ "] " ++ cause.words

/-- The wording of a fault. -/
def FileFault.message : FileFault → String
  | .refused cause path => cause.message ++ ": " ++ String.ofList (Text.quoted path.toList)
  | .unwritten cause => cause.message
  | .nullInPath => "embedded null byte"
  | .notEncodable h => h.message

/-- The bytes of a path or of a content. -/
def encoded (coding : Text.HalfCoding) (s : String) : Except FileFault (List UInt8) :=
  (Text.encodeUtf8 coding s).mapError .notEncodable

/-- **A path that a machine can be asked for.** -/
def checkedPath (coding : Text.HalfCoding) (path : String) : Except FileFault Unit := do
  if 0 ∈ (← encoded coding path) then .error .nullInPath

/-- **Why there is nothing to be had from a file**: it cannot be read, or its content is at
fault. -/
inductive LoadFault (ε : Type)
  | file (f : FileFault)
  | content (f : ε)
  deriving DecidableEq, Repr

/-- The wording of a fault, given that of faults in the content. -/
def LoadFault.message {ε : Type} (content : ε → String) : LoadFault ε → String
  | .file f => f.message
  | .content f => content f

/-! ### Hosts -/

/-- What may be found at a path. -/
inductive EntryKind
  | file
  | directory
  deriving DecidableEq, Repr

/-- **A host**: what can be done outside of the program. -/
structure Host (m : Type → Type) where
  /-- The bytes of a file. -/
  readFile : String → ExceptT FileFault m (List UInt8)
  /-- What is found at a path, if anything. It fails for what is no path. -/
  kindAt : String → ExceptT FileFault m (Option EntryKind)
  /-- Makes a directory and those above it, as far as they are missing. -/
  makeDirectories : String → ExceptT FileFault m Unit
  /-- Makes a text the content of a file. -/
  writeFile : String → String → ExceptT FileFault m Unit
  /-- Adds a text to the end of a file; a file that is missing is made. -/
  appendFile : String → String → ExceptT FileFault m Unit
  /-- Ends adding to a file. What was held back is written now, which may fail. -/
  closeFile : String → ExceptT FileFault m Unit
  /-- Puts a text on the console. -/
  print : String → m Unit
  /-- The time, as it is written. -/
  stamp : m Stamp

/-- **What a file holds**, given how its content is read. -/
def Host.load {m : Type → Type} [Monad m] (host : Host m) {ε α : Type}
    (read : List UInt8 → Except ε α) (path : String) : ExceptT (LoadFault ε) m α := do
  let bytes ← (host.readFile path).adapt .file
  ExceptT.mk (pure ((read bytes).mapError .content))

end TradeJournal
