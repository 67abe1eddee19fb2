import TradeJournal.Host.Memory
import TradeJournal.Proofs.Host.Run
import TradeJournal.Proofs.Settings.Overlay
import TradeJournal.Proofs.Yaml.Mapping
import TradeJournal.Settings.File

/-!
# Settings over defaults

Settings are laid over defaults, and a file that is its own defaults is read once. This makes no
difference: a file that is read twice gives the same mapping twice, and a mapping laid over itself
says what it said before (`Settings.ofMapping_overlay_self`). That goes for every file, also for one
whose mappings have other keys than names; no setting is found under such a key. Of the reader of
YAML it is only assumed that no name is in a mapping twice (`ReadsNamesOnce`), which holds of the
reader that the program runs with (`readsNamesOnce_reader`).
-/

namespace TradeJournal.Settings

open Value (field? NamesOnce Throughout IsObject)

/-! ### A mapping over itself -/

/-- Whether a reader takes no interest in the entries of a mapping. -/
def LooksAtNoEntries {α : Type} (read : String → Value → Except SettingsFault α) : Prop :=
  ∀ key entries entries', read key (.mapping entries) = read key (.mapping entries')

theorem LooksAtNoEntries.overlaid_self {α : Type} {read : String → Value → Except SettingsFault α}
    (h : LooksAtNoEntries read) (key : String) (v : Value) :
    read key (overlaid (some v) v) = read key v := by
  cases v with
  | mapping entries => exact h key _ _
  | _ => rfl

theorem looksAtNoEntries_text : LooksAtNoEntries textOf := fun _ _ _ => rfl

theorem looksAtNoEntries_truth : LooksAtNoEntries truthOf := fun _ _ _ => rfl

theorem looksAtNoEntries_whole : LooksAtNoEntries wholeOf := fun _ _ _ => rfl

theorem looksAtNoEntries_texts : LooksAtNoEntries textsOf := fun _ _ _ => rfl

/-- A section over itself. -/
def Section.overSelf (s : Section) : Section := ⟨s.name, overlay s.entries s.entries⟩

section

variable {α : Type} {read : String → Value → Except SettingsFault α} {s : Section}

theorem required_overSelf (once : NamesOnce s.entries) (h : LooksAtNoEntries read)
    (field : String) :
    s.overSelf.required field read = s.required field read := by
  rw [Section.required, Section.required, Section.overSelf, field?_overlay once]
  cases field? s.entries field with
  | none => rfl
  | some v => exact h.overlaid_self _ v

theorem optional_overSelf (once : NamesOnce s.entries) (h : LooksAtNoEntries read) (field : String)
    (default : α) : s.overSelf.optional field read default = s.optional field read default := by
  rw [Section.optional, Section.optional, Section.overSelf, field?_overlay once]
  cases field? s.entries field with
  | none => rfl
  | some v => exact h.overlaid_self _ v

theorem journalPathOf_overSelf (once : NamesOnce s.entries) (environment : Option String) :
    journalPathOf s.overSelf environment = journalPathOf s environment := by
  rw [journalPathOf, journalPathOf, required_overSelf once looksAtNoEntries_text]

end

section

variable {raw : List (Value × Value)} (once : Throughout NamesOnce (.mapping raw)) {α : Type}
  {f g : Section → Except SettingsFault α}
  (alike : ∀ s : Section, NamesOnce s.entries → f s.overSelf = g s)
include once alike

/-- What is done with a section is done with the section over itself. -/
theorem bind_requiredSection_overlay (name : String) :
    requiredSection (overlay raw raw) name >>= f = requiredSection raw name >>= g := by
  rw [requiredSection, requiredSection, field?_overlay once.here]
  cases found : field? raw name with
  | none => rfl
  | some v =>
    cases v with
    | mapping entries => exact alike ⟨name, entries⟩ (once.of_field? found).here
    | _ => rfl

theorem bind_optionalSection_overlay (name : String) :
    optionalSection (overlay raw raw) name >>= f = optionalSection raw name >>= g := by
  have nothing : f ⟨name, []⟩ = g ⟨name, []⟩ := alike ⟨name, []⟩ List.Pairwise.nil
  rw [optionalSection, optionalSection, field?_overlay once.here]
  cases found : field? raw name with
  | none => exact nothing
  | some v =>
    cases v with
    | mapping entries => exact alike ⟨name, entries⟩ (once.of_field? found).here
    | null => exact nothing
    | _ => rfl

end

/-- **A mapping over itself holds the same settings.** -/
theorem ofMapping_overlay_self {raw : List (Value × Value)}
    (once : Throughout NamesOnce (.mapping raw))
    (environment : Option String) :
    ofMapping (overlay raw raw) environment = ofMapping raw environment := by
  suffices reading : read (overlay raw raw) environment = read raw environment by
    rw [ofMapping, ofMapping, reading]
  refine bind_requiredSection_overlay once (fun log own => ?_) "log"
  rw [required_overSelf own looksAtNoEntries_text, optional_overSelf own looksAtNoEntries_truth,
    optional_overSelf own looksAtNoEntries_text]
  refine bind_congr fun level => bind_congr fun toFile => bind_congr fun dir => ?_
  refine bind_optionalSection_overlay once (fun search own => ?_) "search"
  rw [optional_overSelf own looksAtNoEntries_whole, optional_overSelf own looksAtNoEntries_truth,
    optional_overSelf own looksAtNoEntries_whole]
  refine bind_congr fun limit => bind_congr fun cached => bind_congr fun most => ?_
  refine bind_requiredSection_overlay once (fun journal own => ?_) "journal"
  rw [journalPathOf_overSelf own]
  refine bind_congr fun path => ?_
  refine bind_requiredSection_overlay once (fun output own => ?_) "output"
  rw [required_overSelf own looksAtNoEntries_texts, optional_overSelf own looksAtNoEntries_text]

/-! ### A file over itself -/

/-- **Readers of YAML that give every name once**, in every mapping of a document. -/
def ReadsNamesOnce (yaml : YamlReader) : Prop :=
  ∀ text v, yaml text = .ok v → Throughout NamesOnce v

/-- **The reader that the program runs with is such a one.** -/
theorem readsNamesOnce_reader : ReadsNamesOnce Yaml.reader := by
  intro text v read
  rw [Yaml.reader] at read
  cases parsed : Yaml.parse text with
  | error f =>
    rw [parsed] at read
    cases read
  | ok w =>
    rw [parsed] at read
    obtain rfl : w = v := Except.ok.inj read
    exact Yaml.namesOnce_of_parse parsed

section

variable {yaml : YamlReader} (reads : ReadsNamesOnce yaml)
include reads

/-- The mapping in a text has every name once. -/
theorem namesOnce_of_mappingOf {text : List Char} {raw : List (Value × Value)}
    (read : mappingOf yaml text = .ok raw) : Throughout NamesOnce (.mapping raw) := by
  rw [mappingOf] at read
  split at read
  · cases read
  · next entries parsed =>
    cases read
    exact reads text _ parsed
  · split at read
    · cases read
    · cases read
      exact .mapping List.Pairwise.nil (by simp)

theorem namesOnce_of_contentOf {path : String} {bytes : List UInt8} {raw : List (Value × Value)}
    (read : contentOf yaml path bytes = .ok raw) : Throughout NamesOnce (.mapping raw) := by
  obtain ⟨text, -, read⟩ := bind_eq_ok.mp read
  refine @namesOnce_of_mappingOf yaml reads text raw ?_
  cases worked_out : mappingOf yaml text with
  | error f =>
    rw [worked_out] at read
    cases read
  | ok made =>
    rw [worked_out] at read
    cases read
    rfl

end

variable {σ : Type}

/-- **Whether reading a file leaves a machine as it is.** -/
def ReadingChangesNothing (host : Host (StateM σ)) : Prop :=
  ∀ path machine, ((host.readFile path).run.run machine).2 = machine

theorem readingChangesNothing_memory (coding : Text.HalfCoding) :
    ReadingChangesNothing (Memory.host coding) := by
  intro path machine
  simp only [Memory.host, Memory.finding]
  cases checkedPath coding path <;> rfl

/-- **The settings in a file laid over another one**, whatever the two files are. -/
def loadLaid {m : Type → Type} [Monad m] (host : Host m) (yaml : YamlReader)
    (path defaults : String)
    (environment : Option String) : ExceptT (LoadFault ContentFault) m Settings := do
  let base ← readMapping host yaml defaults
  ofContent (overlay base (← readMapping host yaml path)) environment

/-- **A file over itself may be read once.** -/
theorem loadOver_eq_loadLaid {host : Host (StateM σ)} (steady : ReadingChangesNothing host)
    {yaml : YamlReader} (reads : ReadsNamesOnce yaml) {path defaults : String}
    (one : Path.normal path = Path.normal defaults)
    (environment : Option String) (machine : σ) :
    (loadOver host yaml path defaults environment).run.run machine =
      (loadLaid host yaml path defaults environment).run.run machine := by
  have again : readMapping host yaml path = readMapping host yaml defaults := by
    rw [readMapping, readMapping, one]
  have unchanged := steady (Path.normal defaults) machine
  rw [loadOver, loadLaid, again, run_bind, run_bind]
  rcases first : (readMapping host yaml defaults).run.run machine with ⟨_ | base, after⟩
  · rfl
  · -- The second reading finds the machine as the first one did, and the same mapping in the file.
    have read := first
    rw [readMapping, run_load] at read
    rcases answer : (host.readFile (Path.normal defaults)).run.run machine with ⟨_ | bytes, left⟩
    · rw [answer] at read
      cases read
    · rw [answer] at read unchanged
      obtain rfl : left = machine := unchanged
      obtain ⟨content, rfl⟩ := Prod.mk.inj read
      have once : Throughout NamesOnce (.mapping base) := by
        cases worked_out : contentOf yaml (Path.normal defaults) bytes with
        | error f =>
          rw [worked_out] at content
          cases content
        | ok made =>
          rw [worked_out] at content
          cases content
          exact namesOnce_of_contentOf reads worked_out
      dsimp only
      rw [if_pos one, run_bind_of_ok first, ofContent, ofContent, ofMapping_overlay_self once]

/-! ### What counts -/

/-- **The upper mapping counts wherever it says anything**, at every place that both mappings lead
to: what it has there counts, unless both have a mapping there; what it lacks is as in the lower
one; and two mappings become one with the keys of both. So a mapping over nothing, nothing under a
mapping, a mapping over itself, and a mapping over what it was laid over already, change nothing;
and settings that are their own defaults are the same, whether their file is read once or laid over
itself, with any reader of YAML that gives every name once. -/
theorem overlay_prefers_upper {base layer : List (Value × Value)}
    (lower : Throughout IsObject (.mapping base)) (upper : Throughout IsObject (.mapping layer)) :
    (∀ path, (Value.mapping base).LeadsThrough path → (Value.mapping layer).LeadsThrough path →
      let below := (Value.mapping base).at? path
      let above := (Value.mapping layer).at? path
      let laid := (Value.mapping (overlay base layer)).at? path
      (∀ v, above = some v →
        ¬((∃ b, below = some (.mapping b)) ∧ ∃ o, v = .mapping o) → laid = some v) ∧
      (above = none → laid = below) ∧
      ∀ b o, below = some (.mapping b) → above = some (.mapping o) →
        ∃ m, laid = some (.mapping m) ∧ IsObject m ∧
          ∀ key, key ∈ m.map (·.1) ↔ key ∈ b.map (·.1) ∨ key ∈ o.map (·.1)) ∧
    overlay base [] = base ∧ overlay [] layer = layer ∧ overlay base base = base ∧
    overlay (overlay base layer) layer = overlay base layer ∧
    ∀ {σ : Type} (host : Host (StateM σ)), ReadingChangesNothing host →
      ∀ yaml : YamlReader, ReadsNamesOnce yaml →
      ∀ (path defaults : String) (environment : Option String) (machine : σ),
        Path.normal path = Path.normal defaults →
        (loadOver host yaml path defaults environment).run.run machine =
          (loadLaid host yaml path defaults environment).run.run machine := by
  refine ⟨fun path through through' => ?_, rfl, overlay_nil_left upper.here, overlay_self lower,
    overlay_overlay upper base, fun host steady yaml reads path defaults environment machine one =>
      loadOver_eq_loadLaid steady reads one environment machine⟩
  intro below above laid
  have once := upper.mono fun _ => IsObject.namesOnce
  refine ⟨fun v there apart => ?_, at?_overlay_of_none once through through',
    fun b o lower_mapping upper_mapping => ?_⟩
  · refine (at?_overlay_of_some once through through' there).trans (congrArg some ?_)
    by_cases mapped : ∃ o, v = .mapping o
    · exact overlaid_eq_self (fun b inner => apart ⟨⟨b, inner⟩, mapped⟩) v
    · exact overlaid_of_no_mapping (not_exists.mp mapped) below
  · have object := (lower.of_at? lower_mapping).here
    have object' := (upper.of_at? upper_mapping).here
    refine ⟨overlay b o, ?_, overlay_isObject object' object⟩
    refine (at?_overlay_of_some once through through' upper_mapping).trans ?_
    rw [show (Value.mapping base).at? path = some (.mapping b) from lower_mapping]
    rfl

/-- A section over one of its own, a text over a mapping, and a mapping over nothing. -/
theorem overlay_prefers_upper_nested :
    let base : List (Value × Value) :=
      [(.text "log", .mapping [(.text "level", .text "INFO"), (.text "dir", .text "log")]),
        (.text "output", .mapping [(.text "formats", .list [])]), (.text "search", .null)]
    let layer : List (Value × Value) :=
      [(.text "search", .mapping [(.text "limit", .int 3)]), (.text "output", .text "none"),
        (.text "log", .mapping [(.text "level", .text "DEBUG")])]
    Throughout IsObject (.mapping base) ∧ Throughout IsObject (.mapping layer) ∧
      (Value.mapping base).LeadsThrough ["log", "dir"] ∧
      (Value.mapping layer).LeadsThrough ["log", "dir"] ∧
      (Value.mapping (overlay base layer)).at? ["log", "dir"] = some (.text "log") ∧
      ReadingChangesNothing (Memory.host .lastPlane) ∧ ReadsNamesOnce Yaml.reader ∧
      Path.normal "./a.yml" = Path.normal "a.yml" ∧
      (loadOver (Memory.host .lastPlane) Yaml.reader "./a.yml" "a.yml" none).run.run {} =
        (loadLaid (Memory.host .lastPlane) Yaml.reader "./a.yml" "a.yml" none).run.run {} := by
  intro base layer
  have leaf {P : List (Value × Value) → Prop} (s : String) : Throughout P (.text s) :=
    .other (by simp)
  have objects : Throughout IsObject (.mapping base) := by
    refine .mapping ⟨by simp [base], by simp [base]⟩ ?_
    simp only [base, List.forall_mem_cons]
    refine ⟨.mapping ⟨by simp, by simp⟩ ?_, .mapping ⟨by simp, by simp⟩ ?_, .other (by simp),
      by simp⟩
    · simp only [List.forall_mem_cons]
      exact ⟨leaf _, leaf _, by simp⟩
    · simp only [List.forall_mem_cons]
      exact ⟨.other (by simp), by simp⟩
  have objects' : Throughout IsObject (.mapping layer) := by
    refine .mapping ⟨by simp [layer], by simp [layer]⟩ ?_
    simp only [layer, List.forall_mem_cons]
    refine ⟨.mapping ⟨by simp, by simp⟩ ?_, leaf _, .mapping ⟨by simp, by simp⟩ ?_, by simp⟩
    · simp only [List.forall_mem_cons]
      exact ⟨.other (by simp), by simp⟩
    · simp only [List.forall_mem_cons]
      exact ⟨leaf _, by simp⟩
  have through : (Value.mapping base).LeadsThrough ["log", "dir"] :=
    .cons rfl (.cons rfl (Value.leadsThrough_nil (.text "log")))
  have through' : (Value.mapping layer).LeadsThrough ["log", "dir"] := .cons rfl (.single _ "dir")
  obtain ⟨places, -, -, -, -, files⟩ := overlay_prefers_upper objects objects'
  obtain ⟨-, kept, -⟩ := places ["log", "dir"] through through'
  have steady := readingChangesNothing_memory .lastPlane
  exact ⟨objects, objects', through, through', kept rfl, steady, readsNamesOnce_reader,
    by decide +kernel, files _ steady _ readsNamesOnce_reader _ _ _ _ (by decide +kernel)⟩

end TradeJournal.Settings
