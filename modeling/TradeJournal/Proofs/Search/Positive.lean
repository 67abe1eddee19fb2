import TradeJournal.Proofs.View.Alignment

/-!
# Queries without negations

Without a negation a query can only ask for tags. What it is true of stays so when tags are added,
and it is true of nothing without one of its own tags, as no group in it is empty: the truth of a
chain always comes with the truth of one of its operands. A tree put together by hand may have an
empty conjunction, which is true of everything, so the argument is on the phrases of the grammar
(`Query.Denotes`) and not on trees.

In a search it follows that every record found has a tag to show for it, and that a record without
tags is not found.
-/

namespace TradeJournal

namespace Query

/-! ### Truth without negations -/

/-- Where operands stay true, so does their chain. -/
theorem Connective.combine_mono (c : Connective) {values : List (Bool × Bool)}
    (stay : ∀ v ∈ values, v.1 = true → v.2 = true) (is_true : c.combine (values.map (·.1)) = true) :
    c.combine (values.map (·.2)) = true := by
  cases c with
  | and =>
    simp only [combine, List.all_map, List.all_eq_true, Function.comp_apply, id_eq] at is_true ⊢
    exact fun v listed => stay v listed (is_true v listed)
  | or =>
    simp only [combine, List.any_map, List.any_eq_true, Function.comp_apply, id_eq] at is_true ⊢
    obtain ⟨v, listed, first⟩ := is_true
    exact ⟨v, listed, stay v listed first⟩

/-- **A chain that is true has an operand that is.** -/
theorem Connective.true_mem_of_combine (c : Connective) {values : List Bool}
    (some_value : values ≠ [])
    (is_true : c.combine values = true) : true ∈ values := by
  cases c with
  | and =>
    obtain ⟨value, member⟩ := List.exists_mem_of_ne_nil values some_value
    obtain rfl : value = true := List.all_eq_true.mp is_true value member
    exact member
  | or =>
    obtain ⟨value, member, own⟩ := List.any_eq_true.mp is_true
    obtain rfl : value = true := own
    exact member

namespace Denotes

variable {tags tags' : List String} {level : Level} {tokens : List Token} {value : Bool}

/-- **What is true stays true when tags are added.** -/
theorem mono (h : Denotes tags level tokens value) (positive : .not ∉ tokens)
    (more : ∀ tag ∈ tags, tag ∈ tags') :
    ∃ value', Denotes tags' level tokens value' ∧ (value = true → value' = true) := by
  induction h with
  | tag text =>
    refine ⟨_, .tag text, fun is_true => ?_⟩
    exact decide_eq_true (more text (of_decide_eq_true is_true))
  | negated => simp at positive
  | group _ ih =>
    obtain ⟨value', denoted, stays⟩ := ih fun member => positive (by simp [member])
    exact ⟨value', .group denoted, stays⟩
  | plain _ ih =>
    obtain ⟨value', denoted, stays⟩ := ih positive
    exact ⟨value', .plain denoted, stays⟩
  | chain c operands some_operand _ ih =>
    obtain ⟨valued, rfl, each⟩ := exists_pairs fun operand listed => ih operand listed fun member =>
      positive (mem_intercalate (List.mem_map_of_mem listed) member)
    have denoted := chain_map c (fun v : (List Token × Bool) × Bool => v.1.1) (·.2)
      (by simpa using some_operand) fun v listed => (each v listed).1
    have stays := @Connective.combine_mono c (valued.map fun v => (v.1.2, v.2))
      (List.forall_mem_map.mpr fun v listed => (each v listed).2)
    simp only [List.map_map, Function.comp_def] at stays ⊢
    exact ⟨_, denoted, stays⟩

/-- **What is true has a tag to show for it.** -/
theorem exists_tag (h : Denotes tags level tokens value) (positive : .not ∉ tokens)
    (is_true : value = true) : ∃ tag ∈ tags, .tag tag ∈ tokens := by
  induction h with
  | tag text => exact ⟨text, of_decide_eq_true is_true, List.mem_singleton_self _⟩
  | negated => simp at positive
  | group _ ih =>
    obtain ⟨tag, own, member⟩ := ih (fun member => positive (by simp [member])) is_true
    exact ⟨tag, own, by simp [member]⟩
  | plain _ ih => exact ih positive is_true
  | chain c operands some_operand _ ih =>
    obtain ⟨operand, listed, operand_true⟩ :=
      List.mem_map.mp (c.true_mem_of_combine (by simpa using some_operand) is_true)
    have inside {token : Token} (member : token ∈ operand.1) :
        token ∈ [c.token].intercalate (operands.map (·.1)) :=
      mem_intercalate (List.mem_map_of_mem listed) member
    obtain ⟨tag, own, member⟩ :=
      ih operand listed (fun member => positive (inside member)) operand_true
    exact ⟨tag, own, inside member⟩

end Denotes

end Query

namespace Search

open Query (Denotes Token tokenize parse)

/-! ### Searching without negations -/

section

variable {query : String} {tree : Query.Tree} (parsed : parse (tokenize query) = .ok tree)
  (some_token : tokenize query ≠ []) (positive : .not ∉ tokenize query)
include parsed some_token positive

/-- A record that is matched is matched with more tags too. -/
theorem matchedBy_mono {r r' : Record} (more : ∀ tag ∈ r.tagSet, tag ∈ r'.tagSet)
    (matched : matchedBy query r = true) : matchedBy query r' = true := by
  have denoted := Query.denotes_of_means some_token ((matchedBy_eq_iff parsed).mp matched)
  obtain ⟨value', denoted', stays⟩ := denoted.mono positive more
  exact (matchedBy_eq_iff parsed).mpr (Or.inr (stays rfl ▸ denoted'))

/-- A record that is matched has a tag that the query names. -/
theorem exists_tag_of_matchedBy {r : Record} (matched : matchedBy query r = true) :
    ∃ tag ∈ r.tagSet, tag ∈ Tag.distinct (Query.tagTexts (tokenize query)) := by
  have denoted := Query.denotes_of_means some_token ((matchedBy_eq_iff parsed).mp matched)
  obtain ⟨tag, own, member⟩ := denoted.exists_tag positive rfl
  exact ⟨tag, own, Tag.mem_distinct.mpr (List.mem_filterMap.mpr ⟨.tag tag, member, rfl⟩)⟩

end

/-- **Queries without negations explain what they find.** For a query without defects that has a
token and no NOT, a search of readable records is accepted. Every record found has one of its own
tags among those that the search names; so there are highlights, one for each record found, in
order, and each shows a tag. A record without tags is not found. And in any collection a record is
found that has all the tags of a record found. -/
theorem positive_queries_explain_matches (query : String)
    (sound : Query.problems (tokenize query) = [])
    (some_token : tokenize query ≠ []) (positive : .not ∉ tokenize query) (records : List Record)
    (readable : ∀ r ∈ records, r.Readable) :
    ∃ result, search records query = .ok result ∧ result.isValid = true ∧
      (∀ r ∈ result.records, ∃ tag ∈ r.tagSet, tag ∈ result.matchingTags) ∧
      (∃ marks, highlights result.records result.matchingTags = .ok marks ∧
        List.Forall₂ (fun r mark => mark.recordId = (r.field "id").display ∧ mark.tags ≠ [] ∧
          ∀ tag, tag ∈ mark.tags ↔ tag ∈ r.tagSet ∧ tag ∈ result.matchingTags) result.records
            marks) ∧
      (∀ r ∈ records, r.tagSet = [] → r ∉ result.records) ∧
      ∀ (records' : List Record) (result' : Result), search records' query = .ok result' →
        ∀ r ∈ result.records, ∀ r' ∈ records', (∀ tag ∈ r.tagSet, tag ∈ r'.tagSet) →
          r' ∈ result'.records := by
  obtain ⟨tree, parsed⟩ := Query.defects_eq_nil_iff_exists_parse.mp (problems_eq_nil_iff.mp sound)
  have searched : search records query = .ok (run (.full records) query) :=
    search_eq_ok.mpr ⟨readable, rfl⟩
  have found := run_full_of_parse parsed records
  have matched : ∀ r ∈ (run (.full records) query).records, matchedBy query r = true := by
    rw [found]
    exact fun r member => (List.mem_filter.mp member).2
  have explained : ∀ r ∈ (run (.full records) query).records,
      ∃ tag ∈ r.tagSet, tag ∈ (run (.full records) query).matchingTags := by
    intro r member
    have own := exists_tag_of_matchedBy parsed some_token positive (matched r member)
    rw [found]
    exact own
  refine ⟨_, searched, by rw [found]; rfl, explained, ⟨_, highlights_of_search searched, ?_⟩,
    fun r _ untagged member => ?_, ?_⟩
  · rw [List.forall₂_map_right_iff, List.forall₂_same]
    intro r member
    obtain ⟨tag, own, named⟩ := explained r member
    exact ⟨rfl, List.ne_nil_of_mem (Record.mem_wantedTags.mpr ⟨own, named⟩),
      fun _ => Record.mem_wantedTags⟩
  · obtain ⟨tag, own, -⟩ := explained r member
    rw [untagged] at own
    cases own
  · intro records' result' searched' r member r' member' more
    obtain ⟨-, rfl⟩ := search_eq_ok.mp searched'
    rw [run_full_of_parse parsed]
    exact List.mem_filter.mpr
      ⟨member', matchedBy_mono parsed some_token positive more (matched r member)⟩

/-- Three records, of which the one without tags is not found and one is found for its tags in other
spellings; a record with these tags and another one is found elsewhere. -/
theorem positive_queries_explain_matches_grouped :
    let query := "swing and (#a or #b)"
    let record (id : Int) (tags : List Value) : Record :=
      .mapping [(.text "id", .int id), (.text "tags", .list tags)]
    let records :=
      [record 1 [.text "B", .text "x", .text "Swing!"], record 2 [], record 3 [.text "a"]]
    let r' := record 4 [.text "b", .text "swing", .text "y", .text "x"]
    Query.problems (tokenize query) = [] ∧ tokenize query ≠ [] ∧ .not ∉ tokenize query ∧
      (∀ r ∈ records, r.Readable) ∧
      ∃ result marks, search records query = .ok result ∧
        result.records = [record 1 [.text "B", .text "x", .text "Swing!"]] ∧
        highlights result.records result.matchingTags = .ok marks ∧
        marks = [⟨"1", ["#b", "#swing"]⟩] ∧
        (∀ mark ∈ marks, mark.tags ≠ []) ∧ record 2 [] ∉ result.records ∧
        ∃ result', search [r'] query = .ok result' ∧ r' ∈ result'.records := by
  intro query record records r'
  have scanned : tokenize query =
      [.tag "#swing", .and, .opening, .tag "#a", .or, .tag "#b", .closing] := by decide +kernel
  have sound : Query.problems (tokenize query) = [] := by
    rw [scanned]
    decide
  have some_token : tokenize query ≠ [] := by
    rw [scanned]
    exact List.cons_ne_nil _ _
  have positive : .not ∉ tokenize query := by
    rw [scanned]
    decide
  have readable : ∀ r ∈ records, r.Readable :=
    List.forall_mem_cons.mpr ⟨⟨_, rfl⟩, List.forall_mem_cons.mpr ⟨⟨_, rfl⟩,
      List.forall_mem_singleton.mpr ⟨_, rfl⟩⟩⟩
  obtain ⟨result, searched, -, -, ⟨marks, marked, shown⟩, untagged, more⟩ :=
    positive_queries_explain_matches query sound some_token positive records readable
  have parsed : parse (tokenize query) =
      .ok (.and [.tag "#swing", .or [.tag "#a", .tag "#b"]]) := by
    rw [scanned]
    rfl
  have first : matchedBy query (record 1 [.text "B", .text "x", .text "Swing!"]) = true := by
    decide +kernel
  have second : matchedBy query (record 2 []) = false := by decide +kernel
  have third : matchedBy query (record 3 [.text "a"]) = false := by decide +kernel
  have kept : records.filter (matchedBy query) =
      [record 1 [.text "B", .text "x", .text "Swing!"]] := by
    simp [records, first, second, third]
  have ran : run (.full records) query = .matched [record 1 [.text "B", .text "x", .text "Swing!"]]
      ["#swing", "#a", "#b"] (.and [.tag "#swing", .or [.tag "#a", .tag "#b"]]) := by
    rw [run_full_of_parse parsed, kept, scanned]
    rfl
  obtain rfl := (search_eq_ok.mp searched).2.trans ran
  obtain rfl : [⟨"1", ["#b", "#swing"]⟩] = marks := Except.ok.inj marked
  cases shown with
  | cons own none_left =>
    have superset : ∀ tag ∈ (record 1 [.text "B", .text "x", .text "Swing!"]).tagSet,
        tag ∈ r'.tagSet := by
      decide +kernel
    exact ⟨sound, some_token, positive, readable, _, _, searched, rfl, marked, rfl,
      List.forall_mem_singleton.mpr own.2.1, untagged _ (by simp [records]) rfl, _, rfl,
      more [r'] _ rfl _ (List.mem_singleton_self _) r' (List.mem_singleton_self _) superset⟩

end Search

end TradeJournal
