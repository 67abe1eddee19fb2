import TradeJournal.Proofs.Search.Composition
import TradeJournal.Query.Filter

/-!
# Searching by a filter

The query of a filter finds what passes the filter. Its text is a chain of parts with AND between
them: the included tags, as a group when there are several, and each excluded tag negated. Every
part is scanned to a phrase that binds as tightly as a negation, so the chain is true when all parts
are (`means_joined`); a filter that asks for nothing has no part, and the empty query.

The listed texts need not be canonical: it is enough that each is scanned to one tag, which is the
tag that counts.
-/

namespace TradeJournal.Search

open Query (Connective Denotes FilterMode Means Token Tree filterQuery filterText tokenize)

/-- **Whether tags pass a filter**: of the included ones all are there, or any if there are some to
ask for, and of the excluded ones none. -/
def Passes (mode : FilterMode) (wanted unwanted tags : List String) : Prop :=
  (mode = .all → ∀ tag ∈ wanted, tag ∈ tags) ∧
    (mode = .any → wanted ≠ [] → ∃ tag ∈ wanted, tag ∈ tags) ∧ ∀ tag ∈ unwanted, tag ∉ tags

instance (mode : FilterMode) (wanted unwanted tags : List String) :
    Decidable (Passes mode wanted unwanted tags) := inferInstanceAs (Decidable (_ ∧ _ ∧ _))

/-- The connective between included tags. -/
def connective : FilterMode → Connective
  | .all => .and
  | .any => .or

/-- The truth of a chain of tags. -/
def chainTruth (c : Connective) (listed tags : List String) : Bool :=
  c.combine (listed.map fun tag => decide (tag ∈ tags))

/-- A filter is passed when the chain of the included tags is true, if there is one, and every
excluded tag is missing. -/
theorem decide_passes (mode : FilterMode) (wanted unwanted tags : List String) :
    decide (Passes mode wanted unwanted tags) =
      ((wanted.isEmpty || chainTruth (connective mode) wanted tags)
        && unwanted.all fun tag => !decide (tag ∈ tags)) := by
  rw [Bool.eq_iff_iff, decide_eq_true_iff]
  cases mode <;> cases wanted <;> simp [Passes, connective, chainTruth, Connective.combine]

/-! ### The parts of the query -/

theorem separator_connective (mode : FilterMode) :
    mode.separator = (connective mode).separator := by
  cases mode <;> rfl

/-- The part for the included tags, if there are any. -/
def includedTexts (mode : FilterMode) : List String → List (List Char)
  | [] => []
  | [tag] => [tag.toList]
  | tags => [Tree.parenthesized (Tree.joined mode.separator (tags.map String.toList))]

/-- The part for an excluded tag. -/
def excludedText (tag : String) : List Char := "NOT ".toList ++ tag.toList

theorem filterText_eq (mode : FilterMode) (wanted unwanted : List String) :
    filterText mode wanted unwanted =
      String.ofList (Tree.joined Connective.and.separator
        (includedTexts mode wanted ++ unwanted.map excludedText)) := rfl

section

variable {tags : List String}

/-- **Parts with AND between them** are as true as all of them, and nothing at all is true. -/
theorem means_joined {parts : List (List Char × Bool)}
    (each : ∀ part ∈ parts, Denotes tags .negation (Token.scan part.1) part.2) :
    Means tags (tokenize (String.ofList (Tree.joined Connective.and.separator (parts.map (·.1)))))
      (parts.all (·.2)) := by
  rw [tokenize, String.toList_ofList]
  -- without a part there is no chain: the query is empty, and true of everything
  by_cases nothing : parts = []
  · subst nothing
    exact Or.inl ⟨rfl, rfl⟩
  · have chain :=
      Denotes.query .and (.chain_map .and (fun part => Token.scan part.1) (·.2) nothing each)
    rw [Token.scan_joined .and (by simpa using nothing), List.map_map]
    rw [Connective.combine, List.all_map] at chain
    exact Or.inr chain

/-- A group of tags is as true as the chain of them. -/
theorem denotes_group (c : Connective) {listed : List (String × String)} (some_tag : listed ≠ [])
    (each : ∀ named ∈ listed, tokenize named.1 = [.tag named.2]) :
    Denotes tags .negation
      (Token.scan (Tree.parenthesized (Tree.joined c.separator
        ((listed.map (·.1)).map String.toList))))
      (chainTruth c (listed.map (·.2)) tags) := by
  have chain : Denotes tags (.chain c) _ _ :=
    .chain_map c (fun named : String × String => Token.scan named.1.toList)
      (fun named => decide (named.2 ∈ tags)) some_tag fun named member => by
        have scanned : Token.scan named.1.toList = [.tag named.2] := each named member
        rw [scanned]
        exact .operand c (.plain (.tag named.2))
  rw [Token.scan_parenthesized, Token.scan_joined c (by simpa using some_tag), List.map_map,
    List.map_map, chainTruth, List.map_map]
  exact .plain (.group (chain.query c))

/-- The part for the included tags is as true as the chain of them, if it is there. -/
theorem exists_included (tags : List String) (mode : FilterMode) {listed : List (String × String)}
    (each : ∀ named ∈ listed, tokenize named.1 = [.tag named.2]) :
    ∃ parts : List (List Char × Bool), parts.map (·.1) = includedTexts mode (listed.map (·.1)) ∧
      (∀ part ∈ parts, Denotes tags .negation (Token.scan part.1) part.2) ∧
      parts.all (·.2) = ((listed.map (·.2)).isEmpty ||
        chainTruth (connective mode) (listed.map (·.2)) tags) := by
  match listed with
  | [] => exact ⟨[], rfl, by simp, rfl⟩
  | [named] =>
    -- one tag goes without parentheses, and is an operand as it stands
    refine ⟨[(named.1.toList, decide (named.2 ∈ tags))], rfl, ?_, ?_⟩
    · have scanned : Token.scan named.1.toList = [.tag named.2] := each named (by simp)
      simpa [scanned] using Denotes.plain (.tag named.2)
    · simp [chainTruth, Connective.combine_singleton]
  | first :: second :: rest =>
    have group : Denotes tags .negation _ _ :=
      denotes_group (connective mode) (List.cons_ne_nil first _) each
    rw [← separator_connective] at group
    exact ⟨[(_, _)], rfl, List.forall_mem_singleton.mpr group, Bool.and_true _⟩

/-- The part for an excluded tag is true when the tag is missing. -/
theorem denotes_excluded {named : String × String} (scanned : tokenize named.1 = [.tag named.2]) :
    Denotes tags .negation (Token.scan (excludedText named.1)) (!decide (named.2 ∈ tags)) := by
  rw [tokenize] at scanned
  rw [excludedText, Token.scan_negation, scanned]
  exact .negated named.2

/-- **What the query of a filter means**: that the filter is passed. -/
theorem means_filterText (mode : FilterMode) {wanted unwanted : List (String × String)}
    (each : ∀ named ∈ wanted ++ unwanted, tokenize named.1 = [.tag named.2]) :
    Means tags (tokenize (filterText mode (wanted.map (·.1)) (unwanted.map (·.1))))
      (decide (Passes mode (wanted.map (·.2)) (unwanted.map (·.2)) tags)) := by
  obtain ⟨each_wanted, each_unwanted⟩ := List.forall_mem_append.mp each
  obtain ⟨included, texts, denoted, truth⟩ := exists_included tags mode each_wanted
  let excluded := unwanted.map fun named => (excludedText named.1, !decide (named.2 ∈ tags))
  have meaning := @means_joined tags (included ++ excluded) (List.forall_mem_append.mpr
    ⟨denoted, List.forall_mem_map.mpr fun named member =>
      denotes_excluded (each_unwanted named member)⟩)
  have written : filterText mode (wanted.map (·.1)) (unwanted.map (·.1)) =
      String.ofList (Tree.joined Connective.and.separator ((included ++ excluded).map (·.1))) := by
    rw [filterText_eq, List.map_append, texts]
    simp [excluded, Function.comp_def]
  have passed : (included ++ excluded).all (·.2) =
      decide (Passes mode (wanted.map (·.2)) (unwanted.map (·.2)) tags) := by
    rw [List.all_append, truth, decide_passes]
    simp [excluded, Function.comp_def]
  rw [written, ← passed]
  exact meaning

end

/-! ### Searching -/

/-- A query that means something for every record is accepted, and finds the records for which it is
true. -/
theorem search_of_means {query : String} (truth : List String → Bool)
    (meaning : ∀ tags, Means tags (tokenize query) (truth tags)) :
    Query.problems (tokenize query) = [] ∧
      ∀ records : List Record, (∀ r ∈ records, r.Readable) →
        ∃ result, search records query = .ok result ∧ result.isValid = true ∧
          result.records = records.filter fun r => truth r.tagSet := by
  obtain ⟨tree, parsed⟩ : ∃ tree, Query.parse (tokenize query) = .ok tree := by
    rcases meaning [] with ⟨nothing, -⟩ | denoted
    · exact ⟨.empty, by rw [nothing]; rfl⟩
    · exact Query.exists_parse_of_denotes denoted
  refine ⟨problems_eq_nil_iff.mpr (Query.defects_eq_nil_iff_exists_parse.mpr ⟨tree, parsed⟩),
    fun records readable => ⟨_, search_eq_ok.mpr ⟨readable, rfl⟩, ?_⟩⟩
  have matched : matchedBy query = fun r => truth r.tagSet := by
    funext r
    exact (matchedBy_eq_iff parsed).mpr (meaning r.tagSet)
  rw [run_full_of_parse parsed, matched]
  exact ⟨rfl, rfl⟩

/-- The texts in a list of texts are these texts. -/
theorem textsFrom_map_text (index : Nat) (texts : List String) :
    Query.textsFrom index (texts.map .text) = .ok texts := by
  induction texts generalizing index with
  | nil => rfl
  | cons first rest ih =>
    rw [List.map_cons, Query.textsFrom, ih]
    rfl

/-- **The query of a filter that is given by texts.** -/
theorem filterQuery_texts {word : String} {mode : FilterMode}
    (moded : FilterMode.ofWord? word = some mode) (wanted unwanted : List String) :
    filterQuery (.text word) (.list (wanted.map .text)) (.list (unwanted.map .text)) =
      .ok (filterText mode wanted unwanted) := by
  have displayed : (unwanted.map Value.text).map Value.display = unwanted := by
    rw [List.map_map]
    exact List.map_id unwanted
  have included : Query.includedIn (.list (wanted.map .text)) = .ok (wanted.map .text) := rfl
  have excluded : (Value.list (unwanted.map .text)).elements = .ok (unwanted.map .text) := rfl
  rw [filterQuery, Query.modeOf, moded, included, excluded]
  simp [textsFrom_map_text, displayed, bind, Except.bind, Except.mapError]

/-- **The query of a filter finds what passes the filter.** The word for the mode is one of two in
any case, and every listed text is scanned to one tag; then there is a query, without problems, and
over readable records it finds those whose tags pass. Any other word is refused, whatever is
listed. -/
theorem filter_query_finds_passing :
    (∀ (word : String) (mode : FilterMode),
      (Text.upper word.toList = "AND".toList ∧ mode = .all ∨
        Text.upper word.toList = "OR".toList ∧ mode = .any) →
      ∀ wanted unwanted : List (String × String),
        (∀ named ∈ wanted ++ unwanted, tokenize named.1 = [.tag named.2]) →
        ∃ query,
          filterQuery (.text word) (.list (wanted.map (.text ·.1)))
            (.list (unwanted.map (.text ·.1))) =
            .ok query ∧
          Query.problems (tokenize query) = [] ∧
          ∀ records : List Record, (∀ r ∈ records, r.Readable) →
            ∃ result, search records query = .ok result ∧ result.isValid = true ∧
              result.records = records.filter fun r =>
                Passes mode (wanted.map (·.2)) (unwanted.map (·.2)) r.tagSet) ∧
      ∀ word : String, Text.upper word.toList ≠ "AND".toList →
        Text.upper word.toList ≠ "OR".toList →
        ∀ wanted unwanted : Value,
          filterQuery (.text word) wanted unwanted = .error .unknownMode := by
  refine ⟨fun word mode names wanted unwanted each => ?_,
    fun word not_all not_any wanted unwanted => ?_⟩
  · have moded : FilterMode.ofWord? word = some mode := by
      rcases names with ⟨upper, rfl⟩ | ⟨upper, rfl⟩ <;> (rw [FilterMode.ofWord?, upper]; rfl)
    refine ⟨_, ?_, search_of_means _ fun tags => means_filterText mode each⟩
    have texts := filterQuery_texts moded (wanted.map (·.1)) (unwanted.map (·.1))
    rwa [List.map_map, List.map_map] at texts
  · have unmoded : FilterMode.ofWord? word = none := (if_neg not_all).trans (if_neg not_any)
    rw [filterQuery, Query.modeOf, unmoded]
    rfl

/-- Included tags in loose spellings, with blanks and lone markers around them: the parentheses keep
the excluded tag apart from the last alternative. An unknown mode is refused before values are
looked at. -/
theorem filter_query_finds_passing_loose :
    let wanted := [("### A", "#a"), ("b!", "#b")]
    let unwanted := [(" C ", "#c")]
    let record (tags : List Value) : Record := .mapping [(.text "tags", .list tags)]
    let records :=
      [record [.text "a"], record [.text "B", .text "c"], record [.text "d"], record [.text "b"]]
    (∀ named ∈ wanted ++ unwanted, tokenize named.1 = [.tag named.2]) ∧
      (∀ r ∈ records, r.Readable) ∧
      (∃ query,
        filterQuery (.text "or") (.list (wanted.map (.text ·.1)))
          (.list (unwanted.map (.text ·.1))) =
          .ok query ∧
        Query.problems (tokenize query) = [] ∧
        ∃ result, search records query = .ok result ∧
          result.records = [record [.text "a"], record [.text "b"]]) ∧
      filterQuery (.text "xor") .null (.int 5) = .error .unknownMode := by
  intro wanted unwanted record records
  have each : ∀ named ∈ wanted ++ unwanted, tokenize named.1 = [.tag named.2] := by decide
  have readable : ∀ r ∈ records, r.Readable := by
    simp only [records, List.forall_mem_cons]
    exact ⟨⟨_, rfl⟩, ⟨_, rfl⟩, ⟨_, rfl⟩, ⟨_, rfl⟩, by simp⟩
  obtain ⟨query, made, sound, finds⟩ :=
    filter_query_finds_passing.1 "or" .any (Or.inr ⟨by decide, rfl⟩) wanted unwanted each
  obtain ⟨result, searched, -, found⟩ := finds records readable
  refine ⟨each, readable, ⟨query, made, sound, result, searched, found.trans rfl⟩, ?_⟩
  exact filter_query_finds_passing.2 "xor" (by decide) (by decide) .null (.int 5)

end TradeJournal.Search
