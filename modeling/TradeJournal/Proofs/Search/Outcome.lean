import TradeJournal.Proofs.Query.Fit
import TradeJournal.Proofs.Query.Rendering
import TradeJournal.Search.Service

/-!
# What comes of a search

A query is checked before it is read, and only a query without defects is read. Since these
are the queries that can be read, the check decides the outcome: a query with defects is
rejected for them, and any other one is answered from its tree. That a query passes the check and
then has a fault, for which the search has a case too, does not happen.

The tags of the records are worked out first, so there is an outcome exactly when they can
be worked out for all of them. What a query was understood as can be searched for again:
its tree has a text, and the text finds the same.
-/

namespace TradeJournal

/-- Whether the tags of a record can be worked out. -/
def Record.Readable (r : Record) : Prop := ∃ tags, r.tags = .ok tags

/-- The tags of a record that is readable. -/
def Record.tagSet (r : Record) : List String := r.tags.toOption.getD []

theorem Record.Readable.tags_eq {r : Record} (h : r.Readable) : r.tags = .ok r.tagSet := by
  obtain ⟨tags, worked_out⟩ := h
  rw [tagSet, worked_out]
  rfl

namespace Search

open Query (Token Tree tokenize defects problems parse parseOrEmpty)

/-! ### Snapshots of records -/

/-- Records with their tags, all being readable. -/
def Snapshot.full (records : List Record) : Snapshot := ⟨records.map fun r => (r, r.tagSet)⟩

/-- **Records are paired with their tags exactly when all of them are readable.** -/
theorem Snapshot.tagged_eq_ok {records : List Record} {entries : List (Record × List String)} :
    tagged records = .ok entries ↔
      (∀ r ∈ records, r.Readable) ∧ entries = records.map fun r => (r, r.tagSet) := by
  induction records generalizing entries with
  | nil => simp [tagged, eq_comm]
  | cons r rest ih =>
    rw [tagged, List.forall_mem_cons, List.map_cons]
    constructor
    · intro h
      obtain ⟨tags, first, h⟩ := bind_eq_ok.mp h
      obtain ⟨others, paired, h⟩ := bind_eq_ok.mp h
      obtain ⟨readable, rfl⟩ := ih.mp paired
      have own : Record.Readable r := ⟨tags, first⟩
      obtain rfl : r.tagSet = tags := Except.ok.inj (own.tags_eq.symm.trans first)
      exact ⟨⟨own, readable⟩, (Except.ok.inj h).symm⟩
    · rintro ⟨⟨own, readable⟩, rfl⟩
      rw [own.tags_eq, ih.mpr ⟨readable, rfl⟩]
      rfl

theorem Snapshot.ofRecords_eq_ok {records : List Record} {snapshot : Snapshot} :
    ofRecords records = .ok snapshot ↔
      (∀ r ∈ records, r.Readable) ∧ snapshot = full records := by
  constructor
  · intro h
    obtain ⟨entries, paired, h⟩ := bind_eq_ok.mp h
    obtain ⟨readable, rfl⟩ := tagged_eq_ok.mp paired
    exact ⟨readable, (Except.ok.inj h).symm⟩
  · rintro ⟨readable, rfl⟩
    exact bind_eq_ok.mpr ⟨_, tagged_eq_ok.mpr ⟨readable, rfl⟩, rfl⟩

/-- **A search has an outcome exactly when all records are readable.** -/
theorem search_eq_ok {records : List Record} {query : String} {result : Result} :
    search records query = .ok result ↔
      (∀ r ∈ records, r.Readable) ∧ result = run (.full records) query := by
  constructor
  · intro h
    obtain ⟨snapshot, made, h⟩ := bind_eq_ok.mp h
    obtain ⟨readable, rfl⟩ := Snapshot.ofRecords_eq_ok.mp made
    exact ⟨readable, (Except.ok.inj h).symm⟩
  · rintro ⟨readable, rfl⟩
    exact bind_eq_ok.mpr ⟨_, Snapshot.ofRecords_eq_ok.mpr ⟨readable, rfl⟩, rfl⟩

/-- A service does not store what it finds in a snapshot without a version. -/
theorem Service.search_unversioned {ν : Type} [Versions ν] (service : Service ν)
    (snapshot : Snapshot)
    (query : String) :
    service.search ⟨snapshot, none⟩ (.text query) = .ok (run snapshot query, service) := by
  rw [Service.search]
  cases service.cache <;> rfl

/-- The entries that match are the records whose tags do. -/
theorem Snapshot.filter_full (records : List Record) (matching : List String → Bool) :
    ((full records).entries.filter fun entry => matching entry.2).map (·.1)
      = records.filter fun r => matching r.tagSet := by
  simp [full, List.filter_map, Function.comp_def]

/-! ### The check decides -/

theorem problems_eq_nil_iff {tokens : List Token} : problems tokens = [] ↔ defects tokens = [] :=
  List.map_eq_nil_iff

/-- **A query with defects is rejected for them.** -/
theorem run_of_defects {snapshot : Snapshot} {query : String}
    (defective : defects (tokenize query) ≠ []) :
    run snapshot query = .rejected (problems (tokenize query)) := by
  rw [run]
  split
  · next none_found => exact absurd (problems_eq_nil_iff.mp none_found) defective
  · rfl

/-- **A query that is parsed is answered from its tree.** -/
theorem run_of_parse {snapshot : Snapshot} {query : String} {tree : Tree}
    (parsed : parse (tokenize query) = .ok tree) :
    run snapshot query =
      .matched ((snapshot.entries.filter fun entry => matchesTags tree entry.2).map (·.1))
        (tree.referencedTags.toOption.getD []) tree := by
  have none_found : problems (tokenize query) = [] :=
    problems_eq_nil_iff.mpr (Query.defects_eq_nil_iff_exists_parse.mpr ⟨tree, parsed⟩)
  simp only [run, none_found, parsed]

/-- Only no tokens are parsed to the query that asks for nothing. -/
theorem parse_eq_empty_iff {tokens : List Token} : parse tokens = .ok .empty ↔ tokens = [] := by
  constructor
  · intro parsed
    by_cases some_token : tokens = []
    · exact some_token
    · exact absurd rfl (Query.derivation_of_parse some_token parsed).tree_ne_empty
  · rintro rfl
    rfl

/-- A query that is rejected, or of which nothing is left, is taken to ask for nothing. -/
theorem parseOrEmpty_eq_empty_iff {tokens : List Token} :
    parseOrEmpty tokens = .empty ↔ tokens = [] ∨ defects tokens ≠ [] := by
  rw [Ne, Query.defects_eq_nil_iff_exists_parse, ← parse_eq_empty_iff, parseOrEmpty]
  cases parse tokens <;> simp

/-- **The check decides the outcome.** It finds nothing in exactly the tokens that are parsed, so
what passes it has no fault; and what is found by searching readable records is accepted, has the
problems and has the tree that the check and the parser give for the query alone. -/
theorem check_decides_outcome :
    (∀ tokens : List Token,
        (defects tokens).isEmpty = true ↔ ∃ tree, parse tokens = .ok tree) ∧
      ∀ query : String,
        (∀ f, problems (tokenize query) = [] → parse (tokenize query) ≠ .error f) ∧
        (parseOrEmpty (tokenize query) = .empty ↔
          tokenize query = [] ∨ (defects (tokenize query)).isEmpty = false) ∧
        ∀ records : List Record,
          ((∃ result, search records query = .ok result) ↔ ∀ r ∈ records, r.Readable) ∧
          ∀ result, search records query = .ok result →
            (∃ snapshot, Snapshot.ofRecords records = .ok snapshot ∧
              ∀ (ν : Type) [Versions ν] (service : Service ν),
                service.search ⟨snapshot, none⟩ (.text query) = .ok (result, service)) ∧
            result.isValid = (defects (tokenize query)).isEmpty ∧
            result.problems = problems (tokenize query) ∧
            result.tree = parseOrEmpty (tokenize query) := by
  refine ⟨fun tokens => ?_, fun query =>
    ⟨fun f none_found fault => ?_, ?_, fun records => ⟨?_, ?_⟩⟩⟩
  · rw [List.isEmpty_iff, Query.defects_eq_nil_iff_exists_parse]
  · obtain ⟨tree, parsed⟩ :=
      Query.defects_eq_nil_iff_exists_parse.mp (problems_eq_nil_iff.mp none_found)
    rw [parsed] at fault
    cases fault
  · rw [parseOrEmpty_eq_empty_iff, ← List.isEmpty_eq_false_iff]
  · simp only [search_eq_ok]
    constructor
    · rintro ⟨result, readable, -⟩
      exact readable
    · intro readable
      exact ⟨_, readable, rfl⟩
  · intro result found
    obtain ⟨readable, rfl⟩ := search_eq_ok.mp found
    refine ⟨⟨.full records, Snapshot.ofRecords_eq_ok.mpr ⟨readable, rfl⟩,
      fun ν _ service => service.search_unversioned _ query⟩, ?_⟩
    -- A query without defects has a tree; one with defects has none, and is taken to be empty.
    by_cases clean : defects (tokenize query) = []
    · obtain ⟨tree, parsed⟩ := Query.defects_eq_nil_iff_exists_parse.mp clean
      rw [run_of_parse parsed, problems_eq_nil_iff.mpr clean, clean, parseOrEmpty, parsed]
      exact ⟨rfl, rfl, rfl⟩
    · rw [run_of_defects clean, List.isEmpty_eq_false_iff.mpr clean,
        parseOrEmpty_eq_empty_iff.mpr (Or.inr clean)]
      exact ⟨rfl, rfl, rfl⟩

/-- A query that ends with a negation, over no records: it is rejected with the one problem that the
check finds. -/
theorem check_decides_outcome_dangling :
    ∃ result, search [] "a and not" = .ok result ∧ result.isValid = false ∧
      result.problems = ["NOT operator must be followed by a tag"] := by
  obtain ⟨result, found⟩ := ((check_decides_outcome.2 "a and not").2.2 []).1.mpr (by simp)
  obtain ⟨-, valid, problems, -⟩ := ((check_decides_outcome.2 "a and not").2.2 []).2 result found
  refine ⟨result, found, valid.trans ?_, problems.trans ?_⟩
  · decide
  · decide

/-! ### Searching for what a query was understood as -/

/-- A query that is accepted was parsed. -/
theorem exists_parse_of_isValid {snapshot : Snapshot} {query : String}
    (valid : (run snapshot query).isValid = true) : ∃ tree, parse (tokenize query) = .ok tree := by
  by_cases clean : defects (tokenize query) = []
  · exact Query.defects_eq_nil_iff_exists_parse.mp clean
  · rw [run_of_defects clean] at valid
    cases valid

/-- **Rendering and parsing are inverse.** What is parsed is canonical, what is canonical is parsed
from its text, and so searching for the text of a query that was accepted finds the same
again. -/
theorem rendering_inverts_parsing :
    (∀ (query : String) (tree : Tree), parse (tokenize query) = .ok tree → tree.IsCanonical) ∧
      (∀ tree : Tree, tree.IsCanonical →
        ∃ text, tree.toText = .ok text ∧ parse (tokenize text) = .ok tree) ∧
      ∀ (ν : Type) [Versions ν] (service after : Service ν) (records : List Record)
        (snapshot : Snapshot) (query : String) (result : Result),
        Snapshot.ofRecords records = .ok snapshot →
        service.search ⟨snapshot, none⟩ (.text query) = .ok (result, after) →
        result.isValid = true →
        ∃ text, result.tree.toText = .ok text ∧
          service.search ⟨snapshot, none⟩ (.text text) = .ok (result, after) := by
  refine ⟨fun _ _ => Query.isCanonical_of_parse, fun _ => Tree.IsCanonical.exists_toText, ?_⟩
  intro ν _ service after records snapshot query result made found valid
  rw [Service.search_unversioned] at found
  obtain ⟨rfl, rfl⟩ := Prod.mk.inj (Except.ok.inj found)
  obtain ⟨tree, parsed⟩ := exists_parse_of_isValid valid
  obtain ⟨text, written, again⟩ := (Query.isCanonical_of_parse parsed).exists_toText
  refine ⟨text, ?_, ?_⟩
  · rw [run_of_parse parsed]
    exact written
  · rw [Service.search_unversioned, run_of_parse parsed, run_of_parse again]

/-- A query with a tag that is spelt like a connective. -/
theorem rendering_inverts_parsing_keyword :
    let query := "(#and or b) and not c"
    let records : List Record := [.mapping [(.text "tags", .text "AND")]]
    (∃ tree, parse (tokenize query) = .ok tree ∧
        ∃ text, tree.toText = .ok text ∧ parse (tokenize text) = .ok tree) ∧
      ∃ result,
        Service.search ({} : Service Value) ⟨.full records, none⟩ (.text query) = .ok (result, {}) ∧
        result.isValid = true ∧
        ∃ text, result.tree.toText = .ok text ∧
          Service.search ({} : Service Value) ⟨.full records, none⟩ (.text text) =
            .ok (result, {}) := by
  intro query records
  have scanned : tokenize query =
      [.opening, .tag "#and", .or, .tag "#b", .closing, .and, .not, .tag "#c"] := by decide
  obtain ⟨tree, parsed⟩ : ∃ tree, parse (tokenize query) = .ok tree := by
    rw [scanned]
    exact ⟨_, rfl⟩
  have canonical := rendering_inverts_parsing.1 query tree parsed
  have readable : ∀ r ∈ records, r.Readable := by
    rintro r member
    obtain rfl := List.mem_singleton.mp member
    exact ⟨_, rfl⟩
  have made : Snapshot.ofRecords records = .ok (.full records) :=
    Snapshot.ofRecords_eq_ok.mpr ⟨readable, rfl⟩
  have found := Service.search_unversioned ({} : Service Value) (.full records) query
  have valid : (run (.full records) query).isValid = true := by
    rw [run_of_parse parsed]
    rfl
  exact ⟨⟨tree, parsed, rendering_inverts_parsing.2.1 tree canonical⟩, _, found, valid,
    rendering_inverts_parsing.2.2 Value {} {} records _ query _ made found valid⟩

end Search

end TradeJournal
