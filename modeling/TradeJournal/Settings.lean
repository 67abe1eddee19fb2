import TradeJournal.Log.Level
import TradeJournal.Search.Service
import TradeJournal.Text.Quoted

/-!
# Settings

The settings of the program, read from a mapping with four sections. All sections are read
before anything is checked, so a value of the wrong type, or a missing one, is reported
before any value that breaks a rule. A path to the journal from the environment takes the
place of the one in the mapping.
-/

namespace TradeJournal

/-! ### Settings -/

/-- Where results are shown. -/
inductive Format
  | console
  | json
  deriving DecidableEq, Repr

/-- The name of a format. -/
def Format.name : Format → String
  | .console => "console"
  | .json => "json"

/-- The format with a name. -/
def Format.ofName? (name : String) : Option Format := [.console, .json].find? (Format.name · = name)

/-- **How messages are kept.** -/
structure LogSettings where
  level : Log.Severity
  toFile : Bool
  dir : String
  deriving DecidableEq, Repr

/-- **How searches are served.** -/
structure SearchSettings where
  suggestionLimit : Int := 5
  cacheEnabled : Bool := true
  cacheMaxEntries : Int := 256
  deriving DecidableEq, Repr

/-- **Where results are shown, and the directory for files.** -/
structure OutputSettings where
  baseDir : String
  formats : List Format
  deriving DecidableEq, Repr

/-- **The settings of the program.** -/
structure Settings where
  log : LogSettings
  search : SearchSettings
  journalPath : String
  output : OutputSettings
  deriving DecidableEq, Repr

/-! ### Faults -/

/-- The types that settings have. -/
inductive SettingType
  | mapping
  | text
  | truth
  | whole
  | list
  deriving DecidableEq, Repr

/-- What a value of a type is called. -/
def SettingType.words : SettingType → String
  | .mapping => "an object"
  | .text => "a string"
  | .truth => "a boolean"
  | .whole => "an integer"
  | .list => "a list"

/-- **Why a mapping holds no settings.** The first two causes come before all others. -/
inductive SettingsFault
  | missing (key : String)
  | wrongType (key : String) (expected : SettingType)
  | unknownLevel (name : String)
  | blankLogDir
  | notPositive (key : String)
  | blankJournalPath
  | noFormats
  | unknownFormats (names : List String)
  | blankBaseDir
  deriving DecidableEq, Repr

/-- The wording of a fault. -/
def SettingsFault.message : SettingsFault → String
  | .missing key => "Missing required config: " ++ key
  | .wrongType key expected => key ++ " must be " ++ expected.words
  | .unknownLevel name =>
    "log.level must be one of "
      ++ String.ofList (Text.quotedList (Log.Severity.all.map (·.name.toList)))
      ++ ", got " ++ String.ofList (Text.quoted name.toList)
  | .blankLogDir => "log.dir must not be empty when log.to_file=true"
  | .notPositive key => key ++ " must be positive"
  | .blankJournalPath => "journal.path must not be empty"
  | .noFormats => "output.formats must include at least one format"
  | .unknownFormats names =>
    "output.formats has unknown values: " ++
      String.ofList (Text.quotedList (names.map String.toList))
  | .blankBaseDir => "output.base_dir must not be empty when json output is enabled"

namespace Settings

/-! ### Sections -/

/-- **A section of the mapping** with its name. -/
structure Section where
  name : String
  entries : List (Value × Value)

/-- The name of a field in messages. -/
def Section.key (s : Section) (field : String) : String := s.name ++ "." ++ field

/-- A section that has to be there. -/
def requiredSection (raw : List (Value × Value)) (name : String) : Except SettingsFault Section :=
  match Value.field? raw name with
  | none | some .null => .error (.missing name)
  | some (.mapping entries) => .ok ⟨name, entries⟩
  | some _ => .error (.wrongType name .mapping)

/-- A section that may be missing. -/
def optionalSection (raw : List (Value × Value)) (name : String) : Except SettingsFault Section :=
  match Value.field? raw name with
  | none | some .null => .ok ⟨name, []⟩
  | some (.mapping entries) => .ok ⟨name, entries⟩
  | some _ => .error (.wrongType name .mapping)

/-- A text. -/
def textOf (key : String) : Value → Except SettingsFault String
  | .text s => .ok s
  | _ => .error (.wrongType key .text)

/-- A truth value. -/
def truthOf (key : String) : Value → Except SettingsFault Bool
  | .bool b => .ok b
  | _ => .error (.wrongType key .truth)

/-- A whole number; truth values are none. -/
def wholeOf (key : String) : Value → Except SettingsFault Int
  | .int n => .ok n
  | _ => .error (.wrongType key .whole)

/-- The texts of a list, from a position on. -/
def textsFrom (key : String) (index : Nat) : List Value → Except SettingsFault (List String)
  | [] => .ok []
  | v :: rest => do
    let first ← textOf (key ++ "[" ++ toString index ++ "]") v
    let others ← textsFrom key (index + 1) rest
    .ok (first :: others)

/-- A list of texts. -/
def textsOf (key : String) : Value → Except SettingsFault (List String)
  | .list items => textsFrom key 0 items
  | _ => .error (.wrongType key .list)

/-- A field that has to be there. -/
def Section.required {α : Type} (s : Section) (field : String)
    (read : String → Value → Except SettingsFault α) : Except SettingsFault α :=
  match Value.field? s.entries field with
  | some v => read (s.key field) v
  | none => .error (.missing (s.key field))

/-- A field that may be missing. -/
def Section.optional {α : Type} (s : Section) (field : String)
    (read : String → Value → Except SettingsFault α) (default : α) : Except SettingsFault α :=
  match Value.field? s.entries field with
  | some v => read (s.key field) v
  | none => .ok default

/-! ### Reading and checking -/

/-- A name without the blanks around it, in upper case. -/
def upperName (s : String) : String := String.ofList (Text.upper (Text.trim s.toList))

/-- A name without the blanks around it, in lower case. -/
def lowerName (s : String) : String := String.ofList (Text.lower (Text.trim s.toList))

/-- **Settings before they are checked**: levels and formats are still names. -/
structure Draft where
  level : String
  toFile : Bool
  dir : String
  search : SearchSettings
  journalPath : String
  baseDir : String
  formats : List String
  deriving DecidableEq, Repr

/-- Whether a text has no characters but blanks. -/
def isBlankText (s : String) : Bool := Text.allBlank s.toList

/-- The path to the journal: from the environment if that says anything. -/
def journalPathOf (journal : Section) (environment : Option String) : Except SettingsFault String :=
  let path := String.ofList (Text.trim (environment.getD "").toList)
  if path ≠ "" then .ok path else journal.required "path" textOf

/-- **Reading all sections.** -/
def read (raw : List (Value × Value)) (environment : Option String) :
    Except SettingsFault Draft := do
  let log ← requiredSection raw "log"
  let level ← log.required "level" textOf
  let toFile ← log.optional "to_file" truthOf false
  let dir ← log.optional "dir" textOf "log"
  let search ← optionalSection raw "search"
  let suggestionLimit ← search.optional "suggestion_limit" wholeOf 5
  let cacheEnabled ← search.optional "cache_enabled" truthOf true
  let cacheMaxEntries ← search.optional "cache_max_entries" wholeOf 256
  let journal ← requiredSection raw "journal"
  let journalPath ← journalPathOf journal environment
  let output ← requiredSection raw "output"
  let formats ← output.required "formats" textsOf
  let baseDir ← output.optional "base_dir" textOf "output"
  .ok
    { level := upperName level, toFile, dir,
      search := ⟨suggestionLimit, cacheEnabled, cacheMaxEntries⟩,
      journalPath, baseDir, formats := formats.map lowerName }

/-- The names that are no formats, in order and without repetitions. -/
def unknownFormats (names : List String) : List String :=
  (Tag.distinct (names.filter fun name => (Format.ofName? name).isNone)).mergeSort fun a b => a ≤ b

/-- **Checking settings that have been read.** -/
def check (d : Draft) : Except SettingsFault Settings :=
  match Log.Severity.ofName? d.level with
  | none => .error (.unknownLevel d.level)
  | some level =>
    let formats := d.formats.filterMap Format.ofName?
    if d.toFile ∧ isBlankText d.dir then .error .blankLogDir
    else if d.search.suggestionLimit ≤ 0 then .error (.notPositive "search.suggestion_limit")
    else if d.search.cacheMaxEntries ≤ 0 then .error (.notPositive "search.cache_max_entries")
    else if isBlankText d.journalPath then .error .blankJournalPath
    else if d.formats = [] then .error .noFormats
    else if unknownFormats d.formats ≠ [] then .error (.unknownFormats (unknownFormats d.formats))
    else if Format.json ∈ formats ∧ isBlankText d.baseDir then .error .blankBaseDir
    else .ok ⟨⟨level, d.toFile, d.dir⟩, d.search, d.journalPath, ⟨d.baseDir, formats⟩⟩

/-- **The settings in a mapping**, given the path to the journal from the environment. -/
def ofMapping (raw : List (Value × Value)) (environment : Option String) :
    Except SettingsFault Settings := do
  check (← read raw environment)

/-- **The search service that settings ask for.** -/
def service {ν : Type} (s : Settings) : Except Search.CacheFault (Search.Service ν) := do
  let cache ←
    if s.search.cacheEnabled then some <$> Search.Cache.ofCapacity s.search.cacheMaxEntries
    else .ok none
  .ok ⟨cache, s.search.suggestionLimit⟩

end Settings

end TradeJournal
