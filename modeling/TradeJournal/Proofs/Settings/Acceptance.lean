import TradeJournal.Output
import TradeJournal.Proofs.Search.Recency
import TradeJournal.Proofs.Settings.Reading
import TradeJournal.Proofs.Tag.Distinct
import TradeJournal.Proofs.Text.Trimming

/-!
# Which mappings are settings

A mapping is accepted as settings when two things hold: it describes settings, which is a matter of
what stands where in it and of nothing else, and what it describes is sound. The two are looked at
one after the other, so a mapping that describes nothing is refused for that, however unsound the
rest of it may be. What is accepted can be used: the search service and the output that it asks for
are there, since whatever these refuse has been refused before
(`Settings.settings_accepted_when_sound`).

| notion | meaning |
|---|---|
| `Settings.Gives` | a field has a value of its type, or is missing and the default counts |
| `Settings.Draft.DescribedBy` | what a mapping and the environment say on every field |
| `Settings.Draft.IsSound` | what is said on the fields keeps the rules |
| `SettingsFault.IsShape` | a fault about a value that is missing or of the wrong type |
-/

namespace TradeJournal.Settings

/-! ### What a mapping describes -/

/-- **The path to the journal**: what the environment says, without the blanks around it, and the
journal's own path if the environment says nothing. The latter is not looked at otherwise. -/
def GivesPath (journal : List (Value × Value)) (environment : Option String)
    (path : String) : Prop :=
  (∃ said, environment = some said ∧ isBlankText said = false ∧
      path = String.ofList (Text.trim said.toList)) ∨
    (∀ said, environment = some said → isBlankText said = true) ∧
      Value.field? journal "path" = some (.text path)

/-- **What a mapping says on every field**, with the path from the environment. Fields that it does
not have count with their defaults, and whatever else is in it does not matter. -/
structure Draft.DescribedBy (d : Draft) (raw : List (Value × Value)) (environment : Option String) :
    Prop where
  log : ∃ entries level, Value.field? raw "log" = some (.mapping entries) ∧
    Value.field? entries "level" = some (.text level) ∧ d.level = upperName level ∧
    Gives entries "to_file" .bool false d.toFile ∧ Gives entries "dir" .text "log" d.dir
  search : ∃ entries, GivesSection raw "search" entries ∧
    Gives entries "suggestion_limit" .int 5 d.search.suggestionLimit ∧
    Gives entries "cache_enabled" .bool true d.search.cacheEnabled ∧
    Gives entries "cache_max_entries" .int 256 d.search.cacheMaxEntries
  journal : ∃ entries, Value.field? raw "journal" = some (.mapping entries) ∧
    GivesPath entries environment d.journalPath
  output : ∃ entries, ∃ formats : List String, Value.field? raw "output" = some (.mapping entries) ∧
    Value.field? entries "formats" = some (.list (formats.map .text)) ∧
    d.formats = formats.map lowerName ∧ Gives entries "base_dir" .text "output" d.baseDir

theorem trimmed_eq_empty_iff {s : String} :
    String.ofList (Text.trim s.toList) = "" ↔ isBlankText s = true := by
  rw [isBlankText, ← Text.trim_eq_nil_iff]
  exact String.ofList_eq_empty_iff

/-- The environment is asked first, and the journal when it says nothing. -/
theorem journalPathOf_cases (journal : Section) (environment : Option String) :
    (∃ said, environment = some said ∧ isBlankText said = false ∧
        journalPathOf journal environment = .ok (String.ofList (Text.trim said.toList))) ∨
      (∀ said, environment = some said → isBlankText said = true) ∧
        journalPathOf journal environment = journal.required "path" textOf := by
  cases environment with
  | none =>
    refine Or.inr ⟨fun said impossible => ?_, rfl⟩
    cases impossible
  | some said =>
    rw [journalPathOf, Option.getD_some]
    cases blank : isBlankText said with
    | false =>
      have some_path : String.ofList (Text.trim said.toList) ≠ "" := by
        rw [Ne, trimmed_eq_empty_iff, blank]
        exact Bool.false_ne_true
      exact Or.inl ⟨said, rfl, blank, if_pos some_path⟩
    | true =>
      have no_path := not_not.mpr (trimmed_eq_empty_iff.mpr blank)
      exact Or.inr ⟨fun said' same => Option.some.inj same ▸ blank, if_neg no_path⟩

theorem journalPathOf_eq_ok {journal : Section} {environment : Option String} {path : String} :
    journalPathOf journal environment = .ok path ↔ GivesPath journal.entries environment path := by
  rw [GivesPath]
  rcases journalPathOf_cases journal environment with ⟨said, rfl, some_path, asked⟩ | ⟨blank, asked⟩
  · rw [asked, Except.ok.injEq]
    constructor
    · rintro rfl
      exact Or.inl ⟨said, rfl, some_path, rfl⟩
    · rintro (⟨said', same, -, rfl⟩ | ⟨blank, -⟩)
      · rw [Option.some.inj same]
      · rw [blank said rfl] at some_path
        cases some_path
  · rw [asked, reads_text.required_eq_ok]
    constructor
    · exact fun given => Or.inr ⟨blank, given⟩
    · rintro (⟨said, rfl, some_path, -⟩ | ⟨-, given⟩)
      · rw [blank said rfl] at some_path
        cases some_path
      · exact given

theorem journalPathOf_failsInShape (journal : Section) (environment : Option String) :
    FailsInShape (journalPathOf journal environment) := by
  rcases journalPathOf_cases journal environment with ⟨said, -, -, asked⟩ | ⟨-, asked⟩
  · rw [asked]
    exact failsInShape_ok _
  · rw [asked]
    exact reads_text.required_failsInShape journal "path"

/-- **What is read from a mapping** is what it describes. -/
theorem read_eq_ok {raw : List (Value × Value)} {environment : Option String} {d : Draft} :
    read raw environment = .ok d ↔ d.DescribedBy raw environment := by
  simp only [read, bind_eq_ok, requiredSection_eq_ok, optionalSection_eq_ok, journalPathOf_eq_ok,
    reads_text.required_eq_ok, reads_texts.required_eq_ok, reads_text.optional_eq_ok,
    reads_truth.optional_eq_ok, reads_whole.optional_eq_ok, Except.ok.injEq]
  constructor
  · rintro ⟨log, ⟨-, log_there⟩, level, level_given, toFile, toFile_given, dir, dir_given,
      search, ⟨-, search_there⟩, suggestionLimit, limit_given, cacheEnabled, enabled_given,
      cacheMaxEntries, entries_given, journal, ⟨-, journal_there⟩, path, path_given,
      output, ⟨-, output_there⟩, formats, formats_given, baseDir, baseDir_given, rfl⟩
    exact ⟨⟨_, level, log_there, level_given, rfl, toFile_given, dir_given⟩,
      ⟨_, search_there, limit_given, enabled_given, entries_given⟩, ⟨_, journal_there, path_given⟩,
      ⟨_, formats, output_there, formats_given, rfl, baseDir_given⟩⟩
  · rintro ⟨⟨log, level, log_there, level_given, is_upper, toFile_given, dir_given⟩,
      ⟨search, search_there, limit_given, enabled_given, entries_given⟩,
      ⟨journal, journal_there, path_given⟩,
      ⟨output, formats, output_there, formats_given, is_lower, baseDir_given⟩⟩
    refine ⟨⟨"log", log⟩, ⟨rfl, log_there⟩, level, level_given, d.toFile, toFile_given, d.dir,
      dir_given,
      ⟨"search", search⟩, ⟨rfl, search_there⟩, d.search.suggestionLimit, limit_given,
      d.search.cacheEnabled, enabled_given, d.search.cacheMaxEntries, entries_given,
      ⟨"journal", journal⟩, ⟨rfl, journal_there⟩, d.journalPath, path_given,
      ⟨"output", output⟩, ⟨rfl, output_there⟩, formats, formats_given, d.baseDir, baseDir_given, ?_⟩
    rw [← is_upper, ← is_lower]

/-- **A mapping that describes nothing** is refused for what is missing or of the wrong type. -/
theorem read_failsInShape (raw : List (Value × Value)) (environment : Option String) :
    FailsInShape (read raw environment) := by
  rw [read]
  refine (requiredSection_failsInShape raw "log").bind fun log => ?_
  refine (reads_text.required_failsInShape log "level").bind fun level => ?_
  refine (reads_truth.optional_failsInShape log "to_file" false).bind fun toFile => ?_
  refine (reads_text.optional_failsInShape log "dir" "log").bind fun dir => ?_
  refine (optionalSection_failsInShape raw "search").bind fun search => ?_
  refine (reads_whole.optional_failsInShape search "suggestion_limit" 5).bind fun limit => ?_
  refine (reads_truth.optional_failsInShape search "cache_enabled" true).bind fun enabled => ?_
  refine (reads_whole.optional_failsInShape search "cache_max_entries" 256).bind fun entries => ?_
  refine (requiredSection_failsInShape raw "journal").bind fun journal => ?_
  refine (journalPathOf_failsInShape journal environment).bind fun path => ?_
  refine (requiredSection_failsInShape raw "output").bind fun output => ?_
  refine (reads_texts.required_failsInShape output "formats").bind fun formats => ?_
  exact (reads_text.optional_failsInShape output "base_dir" "output").bind fun baseDir =>
    failsInShape_ok _

/-! ### What is sound -/

theorem ofName?_eq_some_iff {name : String} {f : Format} :
    Format.ofName? name = some f ↔ f.name = name := by
  rw [Format.ofName?]
  by_cases console : "console" = name
  · subst console
    cases f <;> decide
  · by_cases json : "json" = name
    · subst json
      cases f <;> decide
    · cases f <;> simp [Format.name, console, json]

/-- **The names of levels** are the five that are listed. -/
theorem exists_level_iff {name : String} :
    (∃ level, Log.Severity.ofName? name = some level) ↔
      name ∈ ["DEBUG", "INFO", "WARNING", "ERROR", "CRITICAL"] := by
  rw [← Option.isSome_iff_exists, Log.Severity.ofName?, List.find?_isSome]
  simp [Log.Severity.all, Log.Severity.name, eq_comm]

/-- The name of a level that is found under a name. -/
theorem name_of_ofName? {name : String} {level : Log.Severity}
    (found : Log.Severity.ofName? name = some level) : level.name = name := by
  have chosen := List.find?_some (p := fun level : Log.Severity => decide (level.name = name)) found
  exact of_decide_eq_true chosen

/-- **No name is unknown** when all of them are names of formats. -/
theorem unknownFormats_eq_nil_iff {names : List String} :
    unknownFormats names = [] ↔ ∀ name ∈ names, name = "console" ∨ name = "json" := by
  have known (name : String) :
      (Format.ofName? name).isNone = false ↔ name = "console" ∨ name = "json" := by
    rw [Option.isNone_eq_false_iff, Option.isSome_iff_exists]
    constructor
    · rintro ⟨f, found⟩
      rw [← ofName?_eq_some_iff.mp found]
      cases f
      · exact Or.inl rfl
      · exact Or.inr rfl
    · rintro (rfl | rfl)
      · exact ⟨.console, rfl⟩
      · exact ⟨.json, rfl⟩
  rw [unknownFormats, List.eq_nil_iff_forall_not_mem]
  simp only [List.mem_mergeSort, Tag.mem_distinct, List.mem_filter, not_and,
    Bool.not_eq_true, known]

/-- A format is among those with the given names when its own name is given. -/
theorem mem_filterMap_ofName? {names : List String} {f : Format} :
    f ∈ names.filterMap Format.ofName? ↔ f.name ∈ names := by
  rw [List.mem_filterMap]
  simp only [ofName?_eq_some_iff]
  exact ⟨fun ⟨name, member, named⟩ => named ▸ member, fun member => ⟨_, member, rfl⟩⟩

/-- **Whether what is said on the fields keeps the rules.** -/
structure Draft.IsSound (d : Draft) : Prop where
  level : d.level ∈ ["DEBUG", "INFO", "WARNING", "ERROR", "CRITICAL"]
  dir : d.toFile = true → isBlankText d.dir = false
  suggestionLimit : 0 < d.search.suggestionLimit
  cacheMaxEntries : 0 < d.search.cacheMaxEntries
  journalPath : isBlankText d.journalPath = false
  someFormat : d.formats ≠ []
  formats : ∀ name ∈ d.formats, name = "console" ∨ name = "json"
  baseDir : "json" ∈ d.formats → isBlankText d.baseDir = false

/-- **Settings that say what a draft says**, with levels and formats in place of their names. -/
structure SaysAs (s : Settings) (d : Draft) : Prop where
  level : s.log.level.name = d.level
  toFile : s.log.toFile = d.toFile
  dir : s.log.dir = d.dir
  search : s.search = d.search
  journalPath : s.journalPath = d.journalPath
  baseDir : s.output.baseDir = d.baseDir
  formats : s.output.formats.map Format.name = d.formats

/-- Names of formats are the names of the formats that they stand for. -/
theorem map_name_filterMap_ofName? {names : List String}
    (known : ∀ name ∈ names, name = "console" ∨ name = "json") :
    (names.filterMap Format.ofName?).map Format.name = names := by
  induction names with
  | nil => rfl
  | cons name rest ih =>
    obtain ⟨own, others⟩ := List.forall_mem_cons.mp known
    rcases own with rfl | rfl
    · exact congrArg ("console" :: ·) (ih others)
    · exact congrArg ("json" :: ·) (ih others)

/-- **The check** lets sound settings through as they are, and finds a rule that any others
break. -/
theorem check_cases (d : Draft) :
    (d.IsSound ∧ ∃ s, check d = .ok s ∧ s.SaysAs d) ∨
      ¬d.IsSound ∧ ∃ f, check d = .error f ∧ ¬f.IsShape := by
  -- The rules are gone through in the order of the check; a broken one ends it.
  rw [check]
  cases found : Log.Severity.ofName? d.level with
  | none =>
    refine Or.inr ⟨fun sound => ?_, _, rfl, id⟩
    obtain ⟨level, found'⟩ := exists_level_iff.mpr sound.level
    rw [found] at found'
    cases found'
  | some level =>
    dsimp only
    by_cases dir : d.toFile = true ∧ isBlankText d.dir = true
    · refine Or.inr ⟨fun sound => ?_, _, if_pos dir, id⟩
      exact Bool.false_ne_true ((sound.dir dir.1).symm.trans dir.2)
    by_cases limit : d.search.suggestionLimit ≤ 0
    · rw [if_neg dir]
      exact Or.inr ⟨fun sound => Int.not_lt.mpr limit sound.suggestionLimit, _, if_pos limit, id⟩
    by_cases entries : d.search.cacheMaxEntries ≤ 0
    · rw [if_neg dir, if_neg limit]
      exact Or.inr ⟨fun sound => Int.not_lt.mpr entries sound.cacheMaxEntries, _,
        if_pos entries, id⟩
    by_cases path : isBlankText d.journalPath = true
    · rw [if_neg dir, if_neg limit, if_neg entries]
      refine Or.inr ⟨fun sound => ?_, _, if_pos path, id⟩
      exact Bool.false_ne_true (sound.journalPath.symm.trans path)
    by_cases none_given : d.formats = []
    · rw [if_neg dir, if_neg limit, if_neg entries, if_neg path]
      exact Or.inr ⟨fun sound => sound.someFormat none_given, _, if_pos none_given, id⟩
    by_cases unknown : unknownFormats d.formats ≠ []
    · rw [if_neg dir, if_neg limit, if_neg entries, if_neg path, if_neg none_given]
      refine Or.inr ⟨fun sound => ?_, _, if_pos unknown, id⟩
      exact unknown (unknownFormats_eq_nil_iff.mpr sound.formats)
    have known := unknownFormats_eq_nil_iff.mp (not_not.mp unknown)
    rw [if_neg dir, if_neg limit, if_neg entries, if_neg path, if_neg none_given, if_neg unknown]
    by_cases baseDir : Format.json ∈ d.formats.filterMap Format.ofName? ∧
      isBlankText d.baseDir = true
    · refine Or.inr ⟨fun sound => ?_, _, if_pos baseDir, id⟩
      exact Bool.false_ne_true
        ((sound.baseDir (mem_filterMap_ofName?.mp baseDir.1)).symm.trans baseDir.2)
    refine Or.inl ⟨⟨exists_level_iff.mp ⟨level, found⟩, fun to_file => ?_, Int.not_le.mp limit,
      Int.not_le.mp entries, Bool.eq_false_iff.mpr path, none_given, known, fun json => ?_⟩,
      _, if_neg baseDir, ⟨name_of_ofName? found, rfl, rfl, rfl, rfl, rfl,
        map_name_filterMap_ofName? known⟩⟩
    · exact Bool.eq_false_iff.mpr fun blank => dir ⟨to_file, blank⟩
    · exact Bool.eq_false_iff.mpr fun blank => baseDir ⟨mem_filterMap_ofName?.mpr json, blank⟩

/-! ### What settings are used for -/

/-- **The search service of settings** is there when its store, if it has one, has room. -/
theorem exists_service (ν : Type) {s : Settings} (positive : 0 < s.search.cacheMaxEntries) :
    ∃ service : Search.Service ν, s.service = .ok service ∧
      service.defaultLimit = s.search.suggestionLimit ∧
      service.cache.map (fun cache => (cache.capacity : Int)) =
        if s.search.cacheEnabled then some s.search.cacheMaxEntries else none := by
  rw [service]
  cases s.search.cacheEnabled with
  | false => exact ⟨⟨none, _⟩, rfl, rfl, rfl⟩
  | true =>
    rw [if_pos rfl, Search.Cache.ofCapacity_of_pos positive]
    refine ⟨⟨some _, _⟩, rfl, rfl, ?_⟩
    rw [Option.map_some, if_pos rfl, Int.toNat_of_nonneg (Int.le_of_lt positive)]

/-- **The output of settings** is there when there is a format. -/
theorem exists_output {o : OutputSettings} (some_format : o.formats ≠ []) :
    ∃ output, Output.ofSettings o = .ok output ∧ (output.console = true ↔ .console ∈ o.formats) ∧
      (output.report.isSome = true ↔ .json ∈ o.formats) := by
  refine ⟨_, if_neg some_format, decide_eq_true_iff, ?_⟩
  dsimp only
  split
  · next json => exact iff_of_true rfl json
  · next no_json => exact iff_of_false Bool.false_ne_true no_json

/-- **Which mappings are settings.** A mapping is accepted, with a path from the environment or
without one, exactly when it describes settings and these are sound. When it describes none, that is
what is reported, and in no other case: no broken rule of any section goes before a value that is
missing or of the wrong type. What is accepted says what the mapping describes, and the service and
the output that it asks for are there. -/
theorem settings_accepted_when_sound (raw : List (Value × Value)) (environment : Option String) :
    ((∃ s, ofMapping raw environment = .ok s) ↔
        ∃ d : Draft, d.DescribedBy raw environment ∧ d.IsSound) ∧
      ((¬∃ d : Draft, d.DescribedBy raw environment) ↔
        ∃ f, ofMapping raw environment = .error f ∧ f.IsShape) ∧
      ∀ s, ofMapping raw environment = .ok s →
        (∃ d : Draft, d.DescribedBy raw environment ∧ s.SaysAs d) ∧
          (∀ ν : Type, ∃ service : Search.Service ν, s.service = .ok service ∧
            service.defaultLimit = s.search.suggestionLimit ∧
            service.cache.map (fun cache => (cache.capacity : Int)) =
              if s.search.cacheEnabled then some s.search.cacheMaxEntries else none) ∧
          ∃ output, Output.ofSettings s.output = .ok output ∧
            (output.console = true ↔ .console ∈ s.output.formats) ∧
            (output.report.isSome = true ↔ .json ∈ s.output.formats) := by
  simp only [← read_eq_ok]
  rw [ofMapping]
  cases described : read raw environment with
  | error f =>
    have shape : f.IsShape := read_failsInShape raw environment f described
    refine ⟨iff_of_false ?_ ?_, iff_of_true ?_ ⟨f, rfl, shape⟩, ?_⟩
    · rintro ⟨s, impossible⟩
      cases impossible
    · rintro ⟨d, impossible, -⟩
      cases impossible
    · rintro ⟨d, impossible⟩
      cases impossible
    · intro s impossible
      cases impossible
  | ok d =>
    have checked : (.ok d >>= check : Except SettingsFault Settings) = check d := rfl
    rw [checked]
    rcases check_cases d with ⟨sound, s, accepted, said⟩ | ⟨unsound, f, refused, no_shape⟩
    · rw [accepted]
      refine ⟨iff_of_true ⟨s, rfl⟩ ⟨d, rfl, sound⟩, iff_of_false (not_not.mpr ⟨d, rfl⟩) ?_, ?_⟩
      · rintro ⟨f, impossible, -⟩
        cases impossible
      · intro s' same
        obtain rfl := Except.ok.inj same
        refine ⟨⟨d, rfl, said⟩, fun ν => exists_service ν ?_, exists_output ?_⟩
        · rw [said.search]
          exact sound.cacheMaxEntries
        · intro none_given
          exact sound.someFormat (by rw [← said.formats, none_given, List.map_nil])
    · rw [refused]
      refine ⟨iff_of_false ?_ ?_, iff_of_false (not_not.mpr ⟨d, rfl⟩) ?_, ?_⟩
      · rintro ⟨s, impossible⟩
        cases impossible
      · rintro ⟨d', same, sound⟩
        exact unsound (Except.ok.inj same ▸ sound)
      · rintro ⟨g, same, shape⟩
        exact no_shape (Except.error.inj same ▸ shape)
      · intro s impossible
        cases impossible

/-- A mapping without a section on searches and without a path to the journal, which the environment
gives instead: the formats may be spelt with blanks and capitals, and the report is asked for. -/
theorem settings_accepted_when_sound_sparse :
    let raw : List (Value × Value) :=
      [(.text "log", .mapping [(.text "level", .text " info")]), (.text "journal", .mapping []),
        (.text "output", .mapping [(.text "formats", .list [.text "Console ", .text "JSON"])])]
    ∃ s, ofMapping raw (some " trades.json ") = .ok s ∧ s.journalPath = "trades.json" ∧
      (∃ service : Search.Service Value, s.service = .ok service ∧ service.defaultLimit = 5) ∧
      ∃ output, Output.ofSettings s.output = .ok output ∧ output.report.isSome = true := by
  intro raw
  obtain ⟨accepted, -, used⟩ := settings_accepted_when_sound raw (some " trades.json ")
  let d : Draft := ⟨"INFO", false, "log", {}, "trades.json", "output", ["console", "json"]⟩
  have described : d.DescribedBy raw (some " trades.json ") := read_eq_ok.mp (by decide +kernel)
  have sound : d.IsSound := by
    constructor <;> decide
  obtain ⟨s, made⟩ := accepted.mpr ⟨d, described, sound⟩
  obtain ⟨⟨d', described', said⟩, services, output, shown, -, report⟩ := used s made
  obtain ⟨service, served, limit, -⟩ := services Value
  obtain rfl : d = d' :=
    Except.ok.inj ((read_eq_ok.mpr described).symm.trans (read_eq_ok.mpr described'))
  refine ⟨s, made, said.journalPath, ⟨service, served, ?_⟩, output, shown, report.mpr ?_⟩
  · rw [limit, said.search]
  · obtain ⟨f, member, named⟩ : ∃ f ∈ s.output.formats, f.name = "json" :=
      List.mem_map.mp (said.formats ▸ by decide)
    have is_json : f = .json := Option.some.inj ((ofName?_eq_some_iff.mpr named).symm.trans rfl)
    exact is_json ▸ member

end TradeJournal.Settings
