import TradeJournal.Host
import TradeJournal.Journal
import TradeJournal.Path
import TradeJournal.Reader
import TradeJournal.Settings
import TradeJournal.Settings.Overlay

/-!
# Settings files

Settings are kept in YAML files with a mapping at the root; a document that says nothing is an
empty mapping. One file may be laid over another, which holds the defaults. How YAML is read is up
to a reader.
-/

namespace TradeJournal.Settings

/-! ### Texts -/

/-- Why a text holds no mapping. -/
inductive TextFault
  | yaml (f : ReaderFault)
  | noMapping
  deriving DecidableEq, Repr

/-- The wording of a fault; a malformed text is known by its path. -/
def TextFault.message (path : String) : TextFault → String
  | .yaml .rejected => "Invalid YAML in " ++ path
  | .yaml (.broken _ message) => message
  | .noMapping => "Config root must be a mapping/object"

/-- **The mapping in a text.** -/
def mappingOf (yaml : YamlReader) (text : List Char) : Except TextFault (List (Value × Value)) :=
  match yaml text with
  | .error f => .error (.yaml f)
  | .ok (.mapping entries) => .ok entries
  | .ok v => if v.isTruthy then .error .noMapping else .ok []

/-! ### Files -/

/-- **Why the content of a file is not settings.** -/
inductive ContentFault
  | notText (f : Text.Utf8Fault)
  | text (path : String) (f : TextFault)
  | settings (f : SettingsFault)
  deriving DecidableEq, Repr

/-- The wording of a fault. -/
def ContentFault.message : ContentFault → String
  | .notText f => f.message
  | .text path f => f.message path
  | .settings f => f.message

/-- The mapping in the content of the file at a path. -/
def contentOf (yaml : YamlReader) (path : String) (bytes : List UInt8) :
    Except ContentFault (List (Value × Value)) := do
  let text ← (Journal.fileText bytes).mapError .notText
  (mappingOf yaml text).mapError (.text path)

variable {m : Type → Type} [Monad m] (host : Host m) (yaml : YamlReader)

/-- The mapping in the file at a path. -/
def readMapping (path : String) : ExceptT (LoadFault ContentFault) m (List (Value × Value)) :=
  host.load (contentOf yaml (Path.normal path)) (Path.normal path)

/-- The settings in a mapping that came from files. -/
def ofContent (raw : List (Value × Value)) (environment : Option String) :
    ExceptT (LoadFault ContentFault) m Settings :=
  ExceptT.mk (pure ((ofMapping raw environment).mapError fun f => .content (.settings f)))

/-- **The settings in one file.** -/
def load (path : String) (environment : Option String) :
    ExceptT (LoadFault ContentFault) m Settings := do
  ofContent (← readMapping host yaml path) environment

/-- **The settings in a file laid over another one**, which is read first. A file over itself
counts once. -/
def loadOver (path defaults : String) (environment : Option String) :
    ExceptT (LoadFault ContentFault) m Settings := do
  let base ← readMapping host yaml defaults
  if Path.normal path = Path.normal defaults then ofContent base environment
  else ofContent (overlay base (← readMapping host yaml path)) environment

end TradeJournal.Settings
