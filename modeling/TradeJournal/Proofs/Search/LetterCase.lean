import TradeJournal.Proofs.Query.LetterCase
import TradeJournal.Proofs.Search.Transparency
import TradeJournal.Proofs.Trade.Loading

/-!
# Letter case in searches

Nothing that a search or a statistic tells depends on the case in which ASCII letters were typed,
neither in the query nor in the tags of the records. A query has the same tokens; and records whose
typed tags have the same letters have the same tags in canonical spelling, so they look the same
(`Record.SameFace`).

| notion | meaning |
|---|---|
| `Tag.SameTyped` | lists of typed tags with the same letters |
| `Value.Recased` | values that are equal, or texts with the same letters |
| `Record.Recased` | records with the same letters in their typed tags |
-/

namespace TradeJournal

open Text (SameLetters)

/-! ### Typed tags -/

/-- **Typed tags that differ in the case of ASCII letters at most**, one by one. -/
def Tag.SameTyped (typed typed' : List String) : Prop :=
  List.Forall₂ (fun raw raw' => SameLetters raw.toList raw'.toList) typed typed'

theorem Tag.SameTyped.map_normalize {typed typed' : List String} (same : SameTyped typed typed') :
    typed.map normalize = typed'.map normalize := by
  rw [← List.forall₂_eq_eq_eq, List.forall₂_map_left_iff, List.forall₂_map_right_iff]
  exact same.imp fun _ _ => normalize_eq_of_sameLetters

namespace Record

/-- **Records that differ in the case of ASCII letters in their typed tags at most**, as far as
searches and statistics look at them. Where tags cannot be read there are no letters to differ
in. -/
structure Recased (r r' : Record) : Prop where
  typedTags : r.typedTags = r'.typedTags ∨
    ∃ typed typed', r.typedTags = .ok typed ∧ r'.typedTags = .ok typed' ∧ Tag.SameTyped typed typed'
  id : r.field "id" = r'.field "id"
  date : r.field "date" = r'.field "date"

/-- **Such records look the same.** -/
theorem Recased.sameFace {r r' : Record} (recased : r.Recased r') : r.SameFace r' where
  tags := by
    rcases recased.typedTags with equal | ⟨typed, typed', own, its, same⟩
    · rw [tags, tags, equal]
    · rw [tags, tags, own, its]
      exact congrArg (fun canonical => Except.ok (Tag.distinct (canonical.filter (· ≠ ""))))
        same.map_normalize
  date := by rw [Record.date, Record.date, recased.date]
  id := by rw [id?, id?, recased.id]

/-! ### Trades and objects -/

/-- A trade may be given its tags in another case. -/
theorem recased_trade (t : Trade) {tags' : List String} (same : Tag.SameTyped t.tags tags') :
    (trade t).Recased (trade { t with tags := tags' }) where
  typedTags := Or.inr ⟨t.tags, tags', rfl, rfl, same⟩
  id := rfl
  date := rfl

end Record

/-- Equal values, or texts that differ in the case of ASCII letters at most. -/
def Value.Recased (v v' : Value) : Prop :=
  v = v' ∨ ∃ s s', v = .text s ∧ v' = .text s' ∧ SameLetters s.toList s'.toList

namespace Value.Recased

variable {v v' : Value}

theorem isNull_eq (recased : v.Recased v') : v.isNull = v'.isNull := by
  rcases recased with rfl | ⟨s, s', rfl, rfl, -⟩ <;> rfl

theorem display (recased : v.Recased v') : SameLetters v.display.toList v'.display.toList := by
  rcases recased with rfl | ⟨s, s', rfl, rfl, same⟩
  · rfl
  · exact same

end Value.Recased

/-- **An object may list its tags in another case**, whether they are given as one text, in a list
or as names. -/
theorem Record.recased_mapping {entries entries' : List (Value × Value)} {items items' : List Value}
    (listed : ((mapping entries).field "tags").listed = .ok items)
    (listed' : ((mapping entries').field "tags").listed = .ok items')
    (same : List.Forall₂ Value.Recased items items')
    (id : (mapping entries).field "id" = (mapping entries').field "id")
    (date : (mapping entries).field "date" = (mapping entries').field "date") :
    (mapping entries).Recased (mapping entries') where
  typedTags := by
    rw [typedTags_mapping, typedTags_mapping, listed, listed']
    refine Or.inr ⟨_, _, rfl, rfl, ?_⟩
    -- A text is not null in either case, so the nulls that are left out stand in the same places.
    have kept : List.Forall₂ Value.Recased (items.filter (!·.isNull))
        (items'.filter (!·.isNull)) := by
      refine List.rel_filter ?_ same
      intro v v' recased
      show (!v.isNull) = true ↔ (!v'.isNull) = true
      rw [recased.isNull_eq]
    rw [Tag.SameTyped, List.forall₂_map_left_iff, List.forall₂_map_right_iff]
    exact kept.imp fun _ _ => Value.Recased.display
  id := id
  date := date

namespace Search

open Query (tokenize problems parse)

/-- **Letter case does not matter.** Queries that differ in the case of ASCII letters have the same
tokens, hence the same problems, the same tree and the same result whatever is searched. Records
that differ in the case of ASCII letters in their typed tags have the same tags; every query selects
the same positions among the ones as among the others, or fails for the same reason; and their
statistics are equal, however dates are read. -/
theorem letter_case_does_not_matter :
    (∀ query query' : String, SameLetters query.toList query'.toList →
      tokenize query = tokenize query' ∧ problems (tokenize query) = problems (tokenize query') ∧
      parse (tokenize query) = parse (tokenize query') ∧
      (∀ snapshot, run snapshot query = run snapshot query') ∧
      ∀ records, search records query = search records query') ∧
    (∀ records records' : List Record, List.Forall₂ Record.Recased records records' →
      List.Forall₂ (fun r r' => r.tags = r'.tags) records records' ∧
      (∀ query,
        (∀ m, search records query = .error m ↔ search records' query = .error m) ∧
        ∀ found, search records query = .ok found →
          ∃ found' keep, search records' query = .ok found' ∧
            found.records = records.filter keep ∧ found'.records = records'.filter keep ∧
            List.Forall₂ (fun r r' => keep r = keep r') records records' ∧
            found'.isValid = found.isValid ∧ found'.problems = found.problems ∧
            found'.matchingTags = found.matchingTags ∧ found'.tree = found.tree) ∧
      ∀ dates, TagIndex.ofRecords dates records = TagIndex.ofRecords dates records') := by
  constructor
  · intro query query' same
    have tokens := Query.tokenize_eq_of_sameLetters same
    have results (snapshot : Snapshot) : run snapshot query = run snapshot query' :=
      run_congr tokens
    refine ⟨tokens, congrArg problems tokens, congrArg parse tokens, results, ?_⟩
    intro records
    simp only [search, results]
  · intro records records' recased
    have alike : List.Forall₂ Record.SameFace records records' :=
      recased.imp fun _ _ => Record.Recased.sameFace
    refine ⟨alike.imp fun _ _ => Record.SameFace.tags, ?_,
      fun dates => TagIndex.ofRecords_sameFace dates alike⟩
    intro query
    constructor
    · intro m
      exact search_eq_error_sameFace alike query
    · intro found searched
      exact search_sameFace alike query searched

/-- A Kelvin sign, which has a small ASCII letter, a dotted capital, which has two small forms in a
row, and a capital sigma at the end of a word. -/
theorem letter_case_does_not_matter_kelvin :
    let object (tag : String) : List (Value × Value) :=
      [(.text "id", .int 1), (.text "tags", .list [.text tag, .null, .int 7])]
    let trade (tag : String) : Trade := { id := "2", date := "2024-01-01", tags := [tag] }
    let records := [Record.mapping (object "Swin\u212a"), Record.trade (trade "\u0130B\u03a3")]
    let records' := [Record.mapping (object "sWIN\u212a"), Record.trade (trade "\u0130b\u03a3")]
    List.Forall₂ Record.Recased records records' ∧
    tokenize "swin\u212a aNd NOT(\u0130b\u03a3)" = tokenize "Swin\u212a And nOt(\u0130B\u03a3)" ∧
    records.map (·.tags) = [.ok ["#swink", "#7"], .ok ["#ib"]] ∧
    List.Forall₂ (fun r r' => r.tags = r'.tags) records records' ∧
    (∃ found found' keep, search records "SWINK" = .ok found ∧
      search records' "SWINK" = .ok found' ∧
      found.records.length = 1 ∧ found.records = records.filter keep ∧
      found'.records = records'.filter keep ∧
      List.Forall₂ (fun r r' => keep r = keep r') records records') ∧
    TagIndex.ofRecords Calendar.standardDates records =
      TagIndex.ofRecords Calendar.standardDates records' := by
  intro object trade records records'
  have own : List.Forall₂ Value.Recased [.text "Swin\u212a", .null, .int 7] [.text "sWIN\u212a",
    .null, .int 7] :=
    .cons (Or.inr ⟨_, _, rfl, rfl, by decide⟩) (.cons (Or.inl rfl) (.cons (Or.inl rfl) .nil))
  have recased : List.Forall₂ Record.Recased records records' :=
    .cons (Record.recased_mapping rfl rfl own rfl rfl)
      (.cons (Record.recased_trade (trade "\u0130B\u03a3") (.cons (by decide) .nil)) .nil)
  obtain ⟨queries, tags⟩ := letter_case_does_not_matter
  obtain ⟨same_tags, searches, stats⟩ := tags records records' recased
  obtain ⟨found', keep, searched', kept, kept', agree, -⟩ := (searches "SWINK").2 _ rfl
  exact ⟨recased, (queries _ _ (by decide)).1, by decide +kernel, same_tags,
    ⟨_, found', keep, rfl, searched', by decide +kernel, kept, kept', agree⟩, stats _⟩

end Search

end TradeJournal
