import Mathlib.Data.List.Sort
import Mathlib.Data.Prod.Lex
import Mathlib.Data.String.Basic
import TradeJournal.Hint
import TradeJournal.Proofs.TagIndex.Order
import TradeJournal.Search.Service

/-!
# Hints and the order of records

Similar trades have one proposal for each tag they carry, with ten points for each trade that
carries it. Whatever the order of the trades and of their tags, these are the same proposals. They
may come in another order behind the proposals of the rules, and since no two of them are of the
same tag, each tag still has its proposals in the same order, so that the same one is the best. The
order of hints is linear on hints of different tags, so the hints are the same list.
-/

namespace TradeJournal

open Search (Snapshot)

namespace Hint

/-! ### Selecting proposals -/

/-- Hints are ordered by the scores, the higher first, and then by the tags. -/
theorem comesBefore_iff {a b : Hint} :
    comesBefore a b = true ↔
      (toLex (.toDual a.score, a.tag) : ℤᵒᵈ ×ₗ String) ≤ toLex (.toDual b.score, b.tag) := by
  simp [comesBefore, Prod.Lex.toLex_le_toLex]

theorem pairwise_mergeSort (hints : List Hint) :
    (hints.mergeSort comesBefore).Pairwise fun a b => comesBefore a b = true := by
  refine List.pairwise_mergeSort (fun a b c first second => ?_) (fun a b => ?_) hints
  · exact comesBefore_iff.mpr ((comesBefore_iff.mp first).trans (comesBefore_iff.mp second))
  · rw [Bool.or_eq_true, comesBefore_iff, comesBefore_iff]
    exact le_total _ _

/-- The best of several proposals is one of them. -/
theorem foldl_better_mem (first : Hint) (rest : List Hint) :
    rest.foldl better first ∈ first :: rest := by
  induction rest generalizing first with
  | nil => exact List.mem_singleton_self first
  | cons h rest ih =>
    have later := ih (better first h)
    rw [List.foldl_cons]
    rcases List.mem_cons.mp later with is_better | inside
    · rw [is_better, better]
      split
      · exact List.mem_cons_of_mem _ List.mem_cons_self
      · exact List.mem_cons_self
    · exact List.mem_cons_of_mem _ (List.mem_cons_of_mem _ inside)

/-- The best proposal of a tag is of that tag. -/
theorem tag_of_bestOf? {proposals : List Hint} {tag : String} {h : Hint}
    (best : bestOf? proposals tag = some h) : h.tag = tag := by
  rw [bestOf?] at best
  split at best
  · cases best
  · next first rest proposed =>
    obtain rfl := Option.some.inj best
    have inside := foldl_better_mem first rest
    rw [← proposed] at inside
    exact of_decide_eq_true (List.mem_filter.mp inside).2

/-- **The best proposals depend on the proposals of each tag alone**, and not on how those of
different tags are mixed. -/
theorem sorted_best_congr {proposals proposals' : List Hint}
    (same : ∀ tag, proposals.filter (·.tag = tag) = proposals'.filter (·.tag = tag)) :
    ((Tag.distinct (proposals.map (·.tag))).filterMap (bestOf? proposals)).mergeSort comesBefore =
      ((Tag.distinct (proposals'.map (·.tag))).filterMap (bestOf? proposals')).mergeSort
        comesBefore := by
  have best : bestOf? proposals = bestOf? proposals' := by
    funext tag
    rw [bestOf?, bestOf?, same]
  have tags : (Tag.distinct (proposals.map (·.tag))).Perm
      (Tag.distinct (proposals'.map (·.tag))) := by
    rw [List.perm_ext_iff_of_nodup (Tag.nodup_distinct _) (Tag.nodup_distinct _)]
    intro tag
    have proposed (hints : List Hint) :
        tag ∈ Tag.distinct (hints.map (·.tag)) ↔ hints.filter (·.tag = tag) ≠ [] := by
      rw [Tag.mem_distinct, List.mem_map, Ne, List.filter_eq_nil_iff]
      simp
    rw [proposed, proposed, same]
  rw [best]
  refine List.Perm.eq_of_pairwise (fun a b first second before after => ?_)
    (pairwise_mergeSort _) (pairwise_mergeSort _)
    (((List.mergeSort_perm _ _).trans (tags.filterMap _)).trans (List.mergeSort_perm _ _).symm)
  -- Hints that come before each other are of one tag, and that has one best proposal.
  obtain ⟨tag, -, own⟩ := List.mem_filterMap.mp (List.mem_mergeSort.mp first)
  obtain ⟨tag', -, its⟩ := List.mem_filterMap.mp (List.mem_mergeSort.mp second)
  have equal : a.tag = b.tag :=
    (Prod.mk.inj (toLex.injective
      (le_antisymm (comesBefore_iff.mp before) (comesBefore_iff.mp after)))).2
  rw [← tag_of_bestOf? own, equal, tag_of_bestOf? its, its] at own
  exact (Option.some.inj own).symm

/-- Leaving out tags that are already there leaves out all proposals of a tag or none. -/
theorem selected_congr {proposals proposals' : List Hint}
    (same : ∀ tag, proposals.filter (·.tag = tag) = proposals'.filter (·.tag = tag))
    (existing : List String) : selected proposals existing = selected proposals' existing := by
  refine sorted_best_congr fun tag => ?_
  rw [List.filter_comm, same, List.filter_comm]

/-! ### Proposals of similar trades -/

/-- Whether a record is a trade similar to another one. -/
def isSimilar (current r : Record) : Bool :=
  !isSameTrade current r && similarityThreshold ≤ similarity current r

/-- The tags of the similar trades that a snapshot shows, one list each. -/
def similarTags (current : Record) (s : Snapshot) : List (List String) :=
  (s.entries.filter fun entry => isSimilar current entry.1).map (·.2)

/-- **As many similar trades carry a tag** as there are similar records with it. -/
theorem length_filter_similarTags {s : Snapshot} {records : List Record} (shown : s.Shows records)
    (current : Record) (tag : String) :
    ((similarTags current s).filter (tag ∈ ·)).length =
      (TagIndex.carrying tag (similarRecords current records)).length := by
  have similar : List.Forall₂ (fun entry r => entry.1 = r ∧ entry.2.Perm r.tagSet)
      (s.entries.filter fun entry => isSimilar current entry.1) (similarRecords current records) :=
    List.rel_filter (fun entry r same => iff_of_eq (congrArg (isSimilar current · = true) same.1))
      shown.perm
  have carrying : List.Forall₂ (fun entry r => entry.1 = r ∧ entry.2.Perm r.tagSet)
      ((s.entries.filter fun entry => isSimilar current entry.1).filter (tag ∈ ·.2))
      (TagIndex.carrying tag (similarRecords current records)) := by
    refine List.rel_filter (fun entry r same => ?_) similar
    simp [same.2.mem_iff]
  rw [similarTags, List.filter_map, List.length_map]
  exact carrying.length_eq

/-- **The proposal of similar trades for a tag**, if any of them carries it. -/
theorem filter_fromSimilar (lists : List (List String)) (tag : String) :
    (fromSimilar lists).filter (·.tag = tag) =
      if (lists.filter (tag ∈ ·)).length = 0 then []
      else [⟨tag, 10 * (lists.filter (tag ∈ ·)).length, similarOrigin⟩] := by
  have carried : tag ∈ Tag.distinct lists.flatten ↔ (lists.filter (tag ∈ ·)).length ≠ 0 := by
    rw [Tag.mem_distinct, List.mem_flatten, Ne, List.length_eq_zero_iff, List.filter_eq_nil_iff]
    simp
  have once : (Tag.distinct lists.flatten).filter (· = tag) =
      if tag ∈ Tag.distinct lists.flatten then [tag] else [] := by
    rw [List.filter_eq, (Tag.nodup_distinct _).count]
    split <;> rfl
  rw [fromSimilar, List.filter_map]
  change List.map _ ((Tag.distinct lists.flatten).filter (· = tag)) = _
  rw [once]
  by_cases none_found : (lists.filter (tag ∈ ·)).length = 0
  · rw [if_neg (fun inside => carried.mp inside none_found), if_pos none_found]
    rfl
  · rw [if_pos (carried.mpr none_found), if_neg none_found]
    rfl

/-- The similar trades propose the same for each tag. -/
theorem filter_fromSimilar_of_shows {records records' : List Record} (same : records.Perm records')
    {s s' : Snapshot} (shown : s.Shows records) (shown' : s'.Shows records') (current : Record)
    (tag : String) :
    (fromSimilar (similarTags current s)).filter (·.tag = tag) =
      (fromSimilar (similarTags current s')).filter (·.tag = tag) := by
  have carriers : (TagIndex.carrying tag (similarRecords current records)).Perm
      (TagIndex.carrying tag (similarRecords current records')) := (same.filter _).filter _
  rw [filter_fromSimilar, filter_fromSimilar, length_filter_similarTags shown,
    length_filter_similarTags shown', carriers.length_eq]

/-! ### Hints -/

/-- **The hints for a trade**, given what the rules propose and a snapshot of the other records. -/
def hintsFrom (proposed : Except Value.Misuse (List Hint)) (current : Record) (s : Snapshot)
    (limit : Int) : Except Value.Misuse (List Hint) :=
  if limit ≤ 0 then .ok []
  else do
    let proposed ← proposed
    let existing ← current.tags
    .ok ((selected (proposed ++ fromSimilar (similarTags current s)) existing).take limit.toNat)

theorem tagLists_eq {records : List Record} (readable : ∀ r ∈ records, r.Readable) :
    tagLists records = .ok (records.map Record.tagSet) := by
  induction records with
  | nil => rfl
  | cons r rest ih =>
    obtain ⟨own, others⟩ := List.forall_mem_cons.mp readable
    rw [tagLists, own.tags_eq, ih others]
    rfl

/-- **The hints among readable records** are those with the tags of the records in their own
order. -/
theorem hints_eq_hintsFrom {records : List Record} (readable : ∀ r ∈ records, r.Readable)
    (current : Record) (limit : Int) (rules : List Rule) :
    hints current records limit rules =
      hintsFrom (fromRules current rules) current (.full records) limit := by
  have lists : tagLists (similarRecords current records) =
      .ok (similarTags current (.full records)) := by
    have similar : ∀ r ∈ similarRecords current records, r.Readable := fun r member =>
      readable r (List.mem_filter.mp member).1
    rw [tagLists_eq similar, similarTags, Snapshot.full, List.filter_map, List.map_map]
    rfl
  rw [hints, hintsFrom, lists]
  rfl

/-- **Hints do not depend on the order of the records** nor on the order of their tags. -/
theorem hintsFrom_of_shows {records records' : List Record} (same : records.Perm records')
    {s s' : Snapshot} (shown : s.Shows records) (shown' : s'.Shows records')
    (proposed : Except Value.Misuse (List Hint)) (current : Record) (limit : Int) :
    hintsFrom proposed current s limit = hintsFrom proposed current s' limit := by
  have chosen (proposed : List Hint) (existing : List String) :
      selected (proposed ++ fromSimilar (similarTags current s)) existing =
        selected (proposed ++ fromSimilar (similarTags current s')) existing := by
    refine selected_congr (fun tag => ?_) existing
    rw [List.filter_append, List.filter_append, filter_fromSimilar_of_shows same shown shown']
  rw [hintsFrom, hintsFrom]
  simp only [chosen]

end Hint

end TradeJournal
