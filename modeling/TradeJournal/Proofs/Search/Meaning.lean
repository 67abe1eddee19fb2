import TradeJournal.Proofs.Query.Meaning
import TradeJournal.Proofs.Search.Outcome

/-!
# What a search finds

A search either rejects its query or finds the records for which the query is true, and which
of the two it does is a matter of the grammar alone. The meaning of a query is that of
`Query.Means`, which knows nothing of the parser or of trees; it is looked at for the tags that
each record has.
-/

namespace TradeJournal

/-- Whether a value gives tags in one of the ways in which journals do: not at all, as one text, or
as a list of texts with gaps. -/
def Value.GivesTags : Value → Prop
  | .null | .text _ => True
  | .list items => ∀ item ∈ items, item = .null ∨ ∃ s, item = .text s
  | _ => False

/-- Whether the tags of a record are given in one of these ways. -/
def Record.GivesTags (r : Record) : Prop := (r.field "tags").GivesTags

/-- Whether a value is one that tags come in: nothing, one text, or a list of anything. -/
def Value.HoldsTags : Value → Prop
  | .null | .text _ | .list _ => True
  | _ => False

/-- Whether the tags of a record come in such a value. -/
def Record.HoldsTags (r : Record) : Prop := (r.field "tags").HoldsTags

theorem Record.GivesTags.holdsTags {r : Record} (h : r.GivesTags) : r.HoldsTags := by
  rw [GivesTags] at h
  rw [HoldsTags]
  cases given : r.field "tags" with
  | null | text | list => trivial
  | bool | int | float | mapping | date | moment | foreign =>
    rw [given] at h
    exact h.elim

/-- **The tags of such a record can be worked out.** -/
theorem Record.HoldsTags.readable {r : Record} (h : r.HoldsTags) : r.Readable := by
  -- Canonical spellings never fail, so it is enough that the typed tags can be had.
  suffices typed : ∃ typed, r.typedTags = .ok typed by
    obtain ⟨typed, found⟩ := typed
    exact ⟨_, bind_eq_ok.mpr ⟨typed, found, rfl⟩⟩
  cases r with
  | trade t => exact ⟨_, rfl⟩
  | blank => exact ⟨[], rfl⟩
  | mapping entries =>
    rw [HoldsTags] at h
    rw [typedTags]
    · cases given : (Record.mapping entries).field "tags" with
      | null => exact ⟨[], rfl⟩
      | text s => exact ⟨_, rfl⟩
      | list items =>
        cases items with
        | nil => exact ⟨[], rfl⟩
        | cons item items => exact ⟨_, rfl⟩
      | bool | int | float | mapping | date | moment | foreign =>
        rw [given] at h
        exact h.elim
    · simp

theorem Record.GivesTags.readable {r : Record} (h : r.GivesTags) : r.Readable :=
  h.holdsTags.readable

namespace Search

open Query (Token Tree Derivation Means tokenize parse)

/-- Records match what was parsed when evaluating it says so. -/
theorem matchesTags_eq_iff {tokens : List Token} {tree : Tree} {tags : List String} {value : Bool}
    (parsed : parse tokens = .ok tree) :
    matchesTags tree tags = value ↔ tree.evaluate tags = .ok value := by
  obtain ⟨own, evaluated⟩ := @Query.exists_evaluate_of_parse tags _ _ parsed
  rw [matchesTags, evaluated, Except.ok.injEq]
  rfl

/-- **A search finds the records for which its query is true.** Over records whose tags are given in
the ways in which journals do there is always a result. It rejects a query that has tokens and is
not derived by the grammar, and says why. Any other query is accepted, and the records are those
for whose tags it is true, in the order of the collection. -/
theorem search_finds_meaning (records : List Record) (query : String)
    (given : ∀ r ∈ records, r.GivesTags) :
    ∃ snapshot, Snapshot.ofRecords records = .ok snapshot ∧
      ∀ (ν : Type) [Versions ν] (service : Service ν), ∃ result,
        service.search ⟨snapshot, none⟩ (.text query) = .ok (result, service) ∧
        ((tokenize query ≠ [] ∧ ¬∃ tree, Derivation (tokenize query) tree) →
          result.isValid = false ∧ result.problems ≠ [] ∧ result.records = [] ∧
            result.matchingTags = [] ∧ result.tree = .empty) ∧
        ((tokenize query = [] ∨ ∃ tree, Derivation (tokenize query) tree) →
          result.isValid = true ∧ result.problems = [] ∧
            ∃ keep : Record → Bool, result.records = records.filter keep ∧
              ∀ r ∈ records, ∃ tags, r.tags = .ok tags ∧
                ∀ value, Means tags (tokenize query) value ↔ keep r = value) := by
  have readable : ∀ r ∈ records, r.Readable := fun r member => (given r member).readable
  refine ⟨.full records, Snapshot.ofRecords_eq_ok.mpr ⟨readable, rfl⟩, fun ν _ service =>
    ⟨run (.full records) query, service.search_unversioned _ query, ?_, ?_⟩⟩
  · rintro ⟨some_token, underived⟩
    have defective : Query.defects (tokenize query) ≠ [] := by
      rw [Ne, Query.defects_eq_nil_iff_exists_parse, Query.exists_parse_iff, not_or]
      exact ⟨some_token, underived⟩
    rw [run_of_defects defective]
    refine ⟨rfl, ?_, rfl, rfl, rfl⟩
    exact fun none_found => defective (problems_eq_nil_iff.mp none_found)
  · intro derived
    obtain ⟨tree, parsed⟩ := Query.exists_parse_iff.mpr derived
    rw [run_of_parse parsed]
    refine ⟨rfl, rfl, fun r => matchesTags tree r.tagSet, Snapshot.filter_full records _, ?_⟩
    intro r member
    refine ⟨r.tagSet, (readable r member).tags_eq, fun value => ?_⟩
    rw [Query.means_iff_of_parse parsed, matchesTags_eq_iff parsed]

/-- A record without tags: it is found by a query that its having none makes true, and a query of
two tags with nothing between them is rejected. -/
theorem search_finds_meaning_untagged :
    let r : Record := .mapping [(.text "tags", .list [.null])]
    (∀ r' ∈ [r], r'.GivesTags) ∧ (∃ tree, Derivation (tokenize "a or not b") tree) ∧
      (tokenize "a b" ≠ [] ∧ ¬∃ tree, Derivation (tokenize "a b") tree) ∧
      ∃ snapshot, Snapshot.ofRecords [r] = .ok snapshot ∧
        (∃ result,
          ({} : Service Value).search ⟨snapshot, none⟩ (.text "a or not b") = .ok (result, {}) ∧
          result.isValid = true ∧ result.records = [r]) ∧
        ∃ result, ({} : Service Value).search ⟨snapshot, none⟩ (.text "a b") = .ok (result, {}) ∧
          result.isValid = false ∧ result.problems ≠ [] := by
  intro r
  have given : ∀ r' ∈ [r], r'.GivesTags := by
    intro r' member
    obtain rfl := List.mem_singleton.mp member
    intro item inside
    exact Or.inl (List.mem_singleton.mp inside)
  have scanned : tokenize "a or not b" = [.tag "#a", .or, .not, .tag "#b"] := by decide
  have parsed : parse (tokenize "a or not b") = .ok (.or [.tag "#a", .not (.tag "#b")]) := by
    rw [scanned]
    rfl
  have derived : ∃ tree, Derivation (tokenize "a or not b") tree :=
    ⟨_, (Query.parse_eq_ok_iff_derivation (by rw [scanned]; simp)).mp parsed⟩
  have scanned' : tokenize "a b" = [.tag "#a", .tag "#b"] := by decide
  have some_token : tokenize "a b" ≠ [] := by rw [scanned']; simp
  have underived : ¬∃ tree, Derivation (tokenize "a b") tree := by
    rintro ⟨tree, derivation⟩
    have parsed' := (Query.parse_eq_ok_iff_derivation some_token).mpr derivation
    rw [scanned'] at parsed'
    cases parsed'
  obtain ⟨snapshot, made, found⟩ := search_finds_meaning [r] "a or not b" given
  obtain ⟨snapshot', made', found'⟩ := search_finds_meaning [r] "a b" given
  obtain rfl : snapshot = snapshot' := Except.ok.inj (made.symm.trans made')
  obtain ⟨result, searched, -, accepted⟩ := found Value {}
  obtain ⟨result', searched', rejected, -⟩ := found' Value {}
  obtain ⟨valid, -, keep, kept, meaning⟩ := accepted (Or.inr derived)
  obtain ⟨invalid, problems, -⟩ := rejected ⟨some_token, underived⟩
  refine ⟨given, derived, ⟨some_token, underived⟩, snapshot, made, ⟨result, searched, valid, ?_⟩,
    ⟨result', searched', invalid, problems⟩⟩
  obtain ⟨tags, worked_out, means⟩ := meaning r (by simp)
  obtain rfl : [] = tags := Except.ok.inj worked_out
  have true_of_it : keep r = true :=
    (means true).mp ((Query.means_iff_of_parse parsed).mpr rfl)
  rw [kept]
  simp [true_of_it]

end Search

end TradeJournal
