import TradeJournal.Proofs.Query.Composition
import TradeJournal.Proofs.Search.Meaning
import TradeJournal.Proofs.Tag.Distinct

/-!
# Searching for queries made of queries

Two queries that are accepted can be written with OR between them, or between parentheses with AND
between them, and the whole is accepted. What it finds is put together from what the two find: the
records that either query matches, or that both match. It refers to the tags of the first query and
then to the tags of the second one that are new. Parentheses around one query change nothing.

The texts are cut at blanks and parentheses, where scanning them falls into parts
(`Token.scan_connective`, `Token.scan_parenthesized`), so the whole has the tokens of the parts.
What these mean is a matter of the grammar (`Denotes.join`, `Denotes.join_grouped`).
-/

namespace TradeJournal.Search

open Query (Connective Denotes Means Token Tree tokenize parse parseOrEmpty)

/-- **Whether a query matches a record.** -/
def matchedBy (query : String) (r : Record) : Bool :=
  matchesTags (parseOrEmpty (tokenize query)) r.tagSet

/-- A query matches a record where it is true of its tags. -/
theorem matchedBy_eq_iff {query : String} {tree : Tree} (parsed : parse (tokenize query) = .ok tree)
    {r : Record} {value : Bool} :
    matchedBy query r = value ↔ Means r.tagSet (tokenize query) value := by
  have own : parseOrEmpty (tokenize query) = tree := by rw [parseOrEmpty, parsed]
  rw [matchedBy, own, matchesTags_eq_iff parsed, Query.means_iff_of_parse parsed]

/-- **What a search of records finds** for a query that is parsed. -/
theorem run_full_of_parse {query : String} {tree : Tree}
    (parsed : parse (tokenize query) = .ok tree)
    (records : List Record) :
    run (.full records) query =
      .matched (records.filter (matchedBy query))
        (Tag.distinct (Query.tagTexts (tokenize query))) tree := by
  have matched : matchedBy query = fun r => matchesTags tree r.tagSet := by
    funext r
    rw [matchedBy, parseOrEmpty, parsed]
  rw [run_of_parse parsed, Snapshot.filter_full, Query.referencedTags_of_parse parsed, matched]
  rfl

/-- **The two outcomes of a search**: the query is rejected, or it is parsed and the records that it
matches are found. -/
theorem search_cases {records : List Record} {query : String} {result : Result}
    (searched : search records query = .ok result) :
    (∃ problems, result = .rejected problems) ∨
      ∃ tree, parse (tokenize query) = .ok tree ∧
        result = .matched (records.filter (matchedBy query))
          (Tag.distinct (Query.tagTexts (tokenize query))) tree := by
  obtain ⟨-, rfl⟩ := search_eq_ok.mp searched
  by_cases parsed : ∃ tree, parse (tokenize query) = .ok tree
  · obtain ⟨tree, parsed⟩ := parsed
    exact Or.inr ⟨tree, parsed, run_full_of_parse parsed records⟩
  · rw [← Query.defects_eq_nil_iff_exists_parse] at parsed
    exact Or.inl ⟨_, run_of_defects parsed⟩

/-! ### Texts made of texts -/

/-- The text of two queries with a connective between them. -/
def joinedText (c : Connective) (first second : String) : String :=
  first ++ String.ofList c.separator ++ second

/-- The text of a query between parentheses. -/
def groupedText (query : String) : String := "(" ++ query ++ ")"

theorem tokenize_joinedText (c : Connective) (first second : String) :
    tokenize (joinedText c first second) = tokenize first ++ c.token :: tokenize second := by
  rw [tokenize, joinedText, String.toList_append, String.toList_append, String.toList_ofList,
    Token.scan_connective]
  rfl

theorem tokenize_groupedText (query : String) :
    tokenize (groupedText query) = .opening :: tokenize query ++ [.closing] := by
  have written : (groupedText query).toList = Tree.parenthesized query.toList := by
    simp [groupedText, Tree.parenthesized]
  rw [tokenize, written, Token.scan_parenthesized]
  rfl

/-- **A query made of two queries**, whose tags are theirs and whose truth is put together from
theirs, finds what they find together. -/
theorem run_composed (c : Connective) (whole : String) {first second : String}
    (some_first : tokenize first ≠ []) (some_second : tokenize second ≠ []) {tree tree' : Tree}
    (parsed : parse (tokenize first) = .ok tree) (parsed' : parse (tokenize second) = .ok tree')
    (named : Query.tagTexts (tokenize whole) =
      Query.tagTexts (tokenize first) ++ Query.tagTexts (tokenize second))
    (meaning : ∀ tags value value', Denotes tags (.chain .or) (tokenize first) value →
      Denotes tags (.chain .or) (tokenize second) value' →
      Denotes tags (.chain .or) (tokenize whole) (c.combine [value, value']))
    (records : List Record) :
    ∃ own, run (.full records) whole =
      .matched (records.filter fun r => c.combine [matchedBy first r, matchedBy second r])
        (Tag.distinct ((run (.full records) first).matchingTags
          ++ (run (.full records) second).matchingTags)) own := by
  have denoted (r : Record) : Denotes r.tagSet (.chain .or) (tokenize whole)
      (c.combine [matchedBy first r, matchedBy second r]) :=
    meaning _ _ _ (Query.denotes_of_means some_first ((matchedBy_eq_iff parsed).mp rfl))
      (Query.denotes_of_means some_second ((matchedBy_eq_iff parsed').mp rfl))
  obtain ⟨own, parsed_whole⟩ := Query.exists_parse_of_denotes (denoted .blank)
  refine ⟨own, ?_⟩
  have matched : matchedBy whole = fun r => c.combine [matchedBy first r, matchedBy second r] := by
    funext r
    exact (matchedBy_eq_iff parsed_whole).mpr (Or.inr (denoted r))
  rw [run_full_of_parse parsed_whole, run_full_of_parse parsed, run_full_of_parse parsed', named,
    matched]
  simp only [Result.matchingTags, Tag.distinct_append_distinct]

/-- **Queries compose as texts.** Two accepted queries that are not blank find the records they
match. With OR between their texts, and nothing around these, they make a query that finds the
records matched by either; between parentheses and with AND between them, one that finds the records
matched by both. Each refers to the tags of the first query followed by those of the second, without
repetitions. Parentheses around a query leave what it is parsed to and what it finds as they are. -/
theorem searches_compose (records : List Record) (first second : String) (found found' : Result)
    (searched : search records first = .ok found) (searched' : search records second = .ok found')
    (valid : found.isValid = true) (valid' : found'.isValid = true)
    (some_first : tokenize first ≠ []) (some_second : tokenize second ≠ []) :
    found.records = records.filter (matchedBy first) ∧
      found'.records = records.filter (matchedBy second) ∧
      (∃ either, search records (first ++ " OR " ++ second) = .ok either ∧ either.isValid = true ∧
        either.records = records.filter (fun r => matchedBy first r || matchedBy second r) ∧
        either.matchingTags = Tag.distinct (found.matchingTags ++ found'.matchingTags)) ∧
      (∃ both, search records ("(" ++ first ++ ") AND (" ++ second ++ ")") = .ok both ∧
        both.isValid = true ∧
        both.records = records.filter (fun r => matchedBy first r && matchedBy second r) ∧
        both.matchingTags = Tag.distinct (found.matchingTags ++ found'.matchingTags)) ∧
      parse (tokenize ("(" ++ first ++ ")")) = parse (tokenize first) ∧
      search records ("(" ++ first ++ ")") = .ok found := by
  obtain ⟨readable, rfl⟩ := search_eq_ok.mp searched
  obtain ⟨-, rfl⟩ := search_eq_ok.mp searched'
  obtain ⟨tree, parsed⟩ := exists_parse_of_isValid valid
  obtain ⟨tree', parsed'⟩ := exists_parse_of_isValid valid'
  have either_text : first ++ " OR " ++ second = joinedText .or first second := rfl
  have both_text : "(" ++ first ++ ") AND (" ++ second ++ ")"
      = joinedText .and (groupedText first) (groupedText second) := by
    simp [joinedText, groupedText, String.ext_iff, Connective.separator, Connective.word]
  have grouped : parse (tokenize (groupedText first)) = .ok tree := by
    rw [tokenize_groupedText]
    exact Query.parse_grouped some_first parsed
  obtain ⟨either_tree, either⟩ :=
    run_composed .or (joinedText .or first second) some_first some_second
    parsed parsed'
    (by rw [tokenize_joinedText, Query.tagTexts_append, Query.tagTexts_connective])
    (fun tags value value' h h' => by
      rw [tokenize_joinedText]
      exact h.join .or h') records
  obtain ⟨both_tree, both⟩ := run_composed .and
    (joinedText .and (groupedText first) (groupedText second)) some_first some_second parsed parsed'
    (by rw [tokenize_joinedText, tokenize_groupedText, tokenize_groupedText, Query.tagTexts_append,
      Query.tagTexts_connective, Query.tagTexts_grouped, Query.tagTexts_grouped])
    (fun tags value value' h h' => by
      rw [tokenize_joinedText, tokenize_groupedText, tokenize_groupedText]
      exact h.join_grouped .and h') records
  refine ⟨by rw [run_full_of_parse parsed]; rfl, by rw [run_full_of_parse parsed']; rfl,
    ⟨_, search_eq_ok.mpr ⟨readable, rfl⟩, ?_⟩, ⟨_, search_eq_ok.mpr ⟨readable, rfl⟩, ?_⟩, ?_, ?_⟩
  · rw [either_text, either]
    exact ⟨rfl, by simp [Result.records, Connective.combine], rfl⟩
  · rw [both_text, both]
    exact ⟨rfl, by simp [Result.records, Connective.combine], rfl⟩
  · exact grouped.trans parsed.symm
  · rw [search_eq_ok]
    refine ⟨readable, ?_⟩
    change _ = run (.full records) (groupedText first)
    rw [run_of_parse parsed, run_of_parse grouped]

/-- Two queries with OR inside: without the parentheses, AND would stand between their inner tags
only. -/
theorem searches_compose_loose :
    let record (tags : List Value) : Record := .mapping [(.text "tags", .list tags)]
    let records := [record [.text "a"], record [.text "B!", .text "c"], record [.text "c"]]
    let found := Result.matched [record [.text "a"], record [.text "B!", .text "c"]] ["#a", "#b"]
      (.or [.tag "#a", .tag "#b"])
    let found' := Result.matched [record [.text "B!", .text "c"], record [.text "c"]] ["#c", "#b"]
      (.or [.tag "#c", .tag "#b"])
    search records "a or b" = .ok found ∧ search records "c or b" = .ok found' ∧
      (∃ either, search records "a or b OR c or b" = .ok either ∧ either.records = records ∧
        either.matchingTags = ["#a", "#b", "#c"]) ∧
      ∃ both, search records "(a or b) AND (c or b)" = .ok both ∧
        both.records = [record [.text "B!", .text "c"]] ∧
        both.matchingTags = ["#a", "#b", "#c"] := by
  intro record records found found'
  have searched : search records "a or b" = .ok found := rfl
  have searched' : search records "c or b" = .ok found' := rfl
  obtain ⟨-, -, ⟨either, run_either, -, kept, named⟩, ⟨both, run_both, -, kept', named'⟩, -⟩ :=
    searches_compose records "a or b" "c or b" found found' searched searched' rfl rfl
      (List.cons_ne_nil _ _) (List.cons_ne_nil _ _)
  exact ⟨searched, searched', ⟨either, run_either, kept, named⟩, ⟨both, run_both, kept', named'⟩⟩

end TradeJournal.Search
