import TradeJournal.Proofs.Query.References
import TradeJournal.Proofs.Search.Composition

/-!
# The tags that decide a search

A search names the tags that its query refers to. They are the tags among the tokens of the query,
each at its first occurrence, whatever groups they stand in. And no other tag of a record has a part
in the outcome: records that agree on the named tags are found together or not at all, in one
collection or in two.
-/

namespace TradeJournal.Search

open Query (Tree tokenize parse parseOrEmpty)

/-- A query is answered alike for records that agree on the tags among its tokens. -/
theorem matchedBy_congr {query : String} {tree : Tree} (parsed : parse (tokenize query) = .ok tree)
    {r r' : Record}
    (agree : ∀ tag ∈ Tag.distinct (Query.tagTexts (tokenize query)), tag ∈ r.tagSet ↔
      tag ∈ r'.tagSet) :
    matchedBy query r = matchedBy query r' := by
  have same := Tree.evaluate_congr_of_referencedTags (Query.referencedTags_of_parse parsed) agree
  rw [matchedBy, matchedBy, parseOrEmpty, parsed, matchesTags, matchesTags, same]

/-- **The named tags decide a search.** A query without defects is accepted over readable records,
and the tags that are named are those among its tokens, in their order and without duplicates.
Records that agree on the named tags are found together or not at all. So it is with trees: a whole
tree refers to some tags, and it has one truth for all tags that agree on these. -/
theorem named_tags_decide :
    (∀ query : String, Query.problems (tokenize query) = [] →
      ∀ records : List Record, (∀ r ∈ records, r.Readable) →
        ∃ result, search records query = .ok result ∧ result.isValid = true ∧
          result.matchingTags = (Query.tagTexts (tokenize query)).eraseDups ∧
          ∀ (records' : List Record) (result' : Result), search records' query = .ok result' →
            ∀ r ∈ records, ∀ r' ∈ records',
              (∀ tag ∈ result.matchingTags, tag ∈ r.tagSet ↔ tag ∈ r'.tagSet) →
              (r ∈ result.records ↔ r' ∈ result'.records)) ∧
      ∀ tree : Tree, tree.IsWhole →
        ∃ tags, tree.referencedTags = .ok tags ∧
          ∀ first second : List String, (∀ tag ∈ tags, tag ∈ first ↔ tag ∈ second) →
            ∃ value, tree.evaluate first = .ok value ∧ tree.evaluate second = .ok value := by
  refine ⟨fun query sound records readable => ?_, fun tree whole => ?_⟩
  · obtain ⟨tree, parsed⟩ := Query.defects_eq_nil_iff_exists_parse.mp (problems_eq_nil_iff.mp sound)
    refine ⟨_, search_eq_ok.mpr ⟨readable, rfl⟩, ?_⟩
    rw [run_full_of_parse parsed]
    refine ⟨rfl, Tag.distinct_eq_eraseDups _,
      fun records' result' searched r member r' member' agree => ?_⟩
    obtain ⟨-, rfl⟩ := search_eq_ok.mp searched
    have same : matchedBy query r = matchedBy query r' := matchedBy_congr parsed agree
    rw [run_full_of_parse parsed]
    simp [Result.records, member, member', same]
  · obtain ⟨named, found⟩ := whole.exists_leaves
    have referenced : tree.referencedTags = .ok (Tag.distinct named) := by
      rw [Tree.referencedTags, found]
      rfl
    refine ⟨_, referenced, fun first second agree => ?_⟩
    obtain ⟨value, evaluated⟩ := whole.exists_evaluate first
    exact ⟨value, evaluated, Tree.evaluate_congr_of_referencedTags referenced agree ▸ evaluated⟩

/-- A tag that the query names twice, once under a negation: two records that differ in other tags
are both found. Below, a tree with operands that no query has. -/
theorem named_tags_decide_repeated :
    let query := "#swing or (Morning and not #SWING)"
    let record (tags : List Value) : Record := .mapping [(.text "tags", .list tags)]
    let r := record [.text "x", .text "swing"]
    let r' := record [.text "Swing!", .null, .text "y"]
    let tree : Tree := .or [.not (.or []), .and [.tag "#a", .tag "#b"]]
    Query.problems (tokenize query) = [] ∧ (∀ r'' ∈ [r, r'], r''.Readable) ∧
      (∃ result, search [r, r'] query = .ok result ∧ result.matchingTags = ["#swing", "#morning"] ∧
        (∀ tag ∈ result.matchingTags, tag ∈ r.tagSet ↔ tag ∈ r'.tagSet) ∧
        (r ∈ result.records ↔ r' ∈ result.records)) ∧
      tree.IsWhole ∧ tree.referencedTags = .ok ["#a", "#b"] ∧
      ∃ value, tree.evaluate ["#a", "#c"] = .ok value ∧ tree.evaluate ["#d", "#a"] = .ok value := by
  intro query record r r' tree
  have scanned : tokenize query =
      [.tag "#swing", .or, .opening, .tag "#morning", .and, .not, .tag "#swing", .closing] := by
        decide
  have sound : Query.problems (tokenize query) = [] := by
    rw [scanned]
    decide
  have readable : ∀ r'' ∈ [r, r'], r''.Readable :=
    List.forall_mem_cons.mpr ⟨⟨_, rfl⟩, List.forall_mem_cons.mpr ⟨⟨_, rfl⟩, by simp⟩⟩
  obtain ⟨result, searched, -, named, together⟩ := named_tags_decide.1 query sound [r, r'] readable
  have listed : result.matchingTags = ["#swing", "#morning"] := by
    rw [named, scanned]
    decide
  have agree : ∀ tag ∈ result.matchingTags, tag ∈ r.tagSet ↔ tag ∈ r'.tagSet := by
    rw [listed]
    decide
  have whole : tree.IsWhole := by
    refine .node .or (List.forall_mem_cons.mpr ⟨.not (.node .or (by simp)), ?_⟩)
    have pair : ∀ child ∈ [Tree.tag "#a", .tag "#b"], child.IsWhole :=
      List.forall_mem_cons.mpr ⟨.tag _, List.forall_mem_cons.mpr ⟨.tag _, by simp⟩⟩
    exact List.forall_mem_cons.mpr ⟨.node .and pair, by simp⟩
  obtain ⟨tags, referenced, one_truth⟩ := named_tags_decide.2 tree whole
  obtain rfl : ["#a", "#b"] = tags := Except.ok.inj referenced
  exact ⟨sound, readable, ⟨result, searched, listed, agree,
    together _ _ searched r (by simp) r' (by simp) agree⟩, whole, referenced,
    one_truth _ _ (by decide)⟩

end TradeJournal.Search
