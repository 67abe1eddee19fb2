import Mathlib.Data.List.Basic
import TradeJournal.Proofs.Tag.Distinct
import TradeJournal.Proofs.Tag.Spelling
import TradeJournal.Record

/-!
# What cleaning up keeps

A list of tags is cleaned up by taking the canonical spelling of each and keeping those that exist,
are not too long, and have not been kept before. What is kept is in the order in which the canonical
spellings first occur, whatever is left out between them (`pairwise_idxOf_distinct_filter`). A
record's own tags are read by another function, which does not leave out what is too long and keeps
no order; but of what both keep they keep the same.
-/

namespace TradeJournal

namespace Tag

/-! ### First occurrences -/

/-- **What is kept of a list stands in the order of first occurrences** in the whole list. -/
theorem pairwise_idxOf_distinct_filter (p : String → Bool) (tags : List String) :
    (distinct (tags.filter p)).Pairwise fun tag later => tags.idxOf tag < tags.idxOf later := by
  induction tags using List.reverseRecOn with
  | nil => exact List.Pairwise.nil
  | append_singleton tags last ih =>
    -- Where a tag first occurs does not change when the list goes on.
    have listed {tag : String} (kept : tag ∈ distinct (tags.filter p)) : tag ∈ tags :=
      (List.mem_filter.mp (mem_distinct.mp kept)).1
    have before : (distinct (tags.filter p)).Pairwise fun tag later =>
        (tags ++ [last]).idxOf tag < (tags ++ [last]).idxOf later :=
      ih.imp_of_mem fun first second less => by
        rwa [List.idxOf_append_of_mem (listed first), List.idxOf_append_of_mem (listed second)]
    rw [List.filter_append]
    cases passes : p last with
    | false =>
      rw [List.filter_cons_of_neg (by simp [passes]), List.filter_nil, List.append_nil]
      exact before
    | true =>
      rw [List.filter_cons_of_pos passes, List.filter_nil, distinct_append_singleton]
      split
      · exact before
      · next new =>
        have unseen : last ∉ tags :=
          fun seen => new (mem_distinct.mpr (List.mem_filter.mpr ⟨seen, passes⟩))
        refine List.pairwise_append.mpr ⟨before, List.pairwise_singleton _ _,
          fun tag kept other is_last => ?_⟩
        obtain rfl := List.mem_singleton.mp is_last
        rw [List.idxOf_append_of_mem (listed kept), List.idxOf_append_of_notMem unseen]
        exact Nat.lt_add_right _ (List.idxOf_lt_length_of_mem (listed kept))

/-! ### Cleaning up -/

/-- **The canonical spellings of values**, one for each. -/
def spellings (values : List Value) : List String := values.map fun v => normalize v.display

theorem cleanValues_eq (values : List Value) :
    cleanValues values = distinct ((spellings values).filter isKept) := by
  rw [cleanValues, clean, List.map_map]
  rfl

theorem spellings_text (raw : List String) : spellings (raw.map .text) = raw.map normalize := by
  rw [spellings, List.map_map]
  rfl

/-- A canonical spelling is kept when it is a tag that is not too long. -/
theorem isKept_normalize_iff {raw : String} : isKept (normalize raw) = true ↔
    IsCanonical (normalize raw) ∧ (bodyOf (normalize raw)).length ≤ maxBody := by
  rw [isKept, decide_eq_true_iff]
  exact and_congr_left fun _ => ⟨isCanonical_ofBody, IsCanonical.ne_empty⟩

/-- **What is kept** are the canonical tags among the spellings that are not too long. -/
theorem mem_cleanValues {values : List Value} {tag : String} : tag ∈ cleanValues values ↔
    tag ∈ spellings values ∧ IsCanonical tag ∧ (bodyOf tag).length ≤ maxBody := by
  rw [cleanValues_eq, mem_distinct, List.mem_filter]
  refine and_congr_right fun listed => ?_
  obtain ⟨v, -, rfl⟩ := List.mem_map.mp listed
  exact isKept_normalize_iff

/-- **What has been cleaned up stays as it is.** -/
theorem cleanValues_cleanValues (values : List Value) :
    cleanValues ((cleanValues values).map .text) = cleanValues values := by
  have kept {tag : String} (member : tag ∈ cleanValues values) := (mem_cleanValues.mp member).2
  have same : (cleanValues values).map normalize = cleanValues values :=
    (List.map_congr_left fun _ member => (kept member).1.normalize_eq).trans (List.map_id _)
  have all_kept : (cleanValues values).filter isKept = cleanValues values :=
    List.filter_eq_self.mpr fun tag member =>
      decide_eq_true ⟨(kept member).1.ne_empty, (kept member).2⟩
  rw [cleanValues_eq, spellings_text, same, all_kept]
  refine distinct_of_nodup ?_
  rw [cleanValues_eq]
  exact nodup_distinct _

end Tag

/-! ### The tags of a record -/

/-- **The tags of a record that can be read** are the canonical tags among the spellings of what was
typed. -/
theorem Record.mem_tags_of_typedTags {r : Record} {typed : List String}
    (read : r.typedTags = .ok typed) :
    ∃ tags, r.tags = .ok tags ∧ ∀ tag, tag ∈ tags ↔
      tag ∈ typed.map Tag.normalize ∧ Tag.IsCanonical tag := by
  refine ⟨_, by rw [Record.tags, read]; rfl, fun tag => ?_⟩
  rw [Tag.mem_distinct, List.mem_filter, decide_eq_true_iff]
  refine and_congr_right fun listed => ?_
  obtain ⟨raw, -, rfl⟩ := List.mem_map.mp listed
  exact ⟨Tag.isCanonical_ofBody, Tag.IsCanonical.ne_empty⟩

namespace Tag

/-- **Cleaning up keeps canonical tags at their first occurrence.** No tag is kept twice, and kept
are just the canonical tags among the spellings of the values whose bodies are not too long, in the
order in which these spellings first occur. Cleaning up once more changes nothing. And of the tags
of a record that can be read, those that are not too long are kept when what was typed is cleaned
up, and no others. -/
theorem cleaning_keeps_first :
    (∀ values : List Value,
      (cleanValues values).Nodup ∧
      (∀ tag, tag ∈ cleanValues values ↔
        tag ∈ spellings values ∧ IsCanonical tag ∧ (bodyOf tag).length ≤ maxBody) ∧
      ((cleanValues values).Pairwise fun tag later =>
        (spellings values).idxOf tag < (spellings values).idxOf later) ∧
      cleanValues ((cleanValues values).map .text) = cleanValues values) ∧
    ∀ (r : Record) (typed : List String), r.typedTags = .ok typed → ∃ tags, r.tags = .ok tags ∧
      ∀ tag, tag ∈ cleanValues (typed.map .text) ↔ tag ∈ tags ∧ (bodyOf tag).length ≤ maxBody := by
  refine ⟨fun values => ⟨?_, fun _ => mem_cleanValues, ?_, cleanValues_cleanValues values⟩,
    fun r typed read => ?_⟩
  · rw [cleanValues_eq]
    exact nodup_distinct _
  · rw [cleanValues_eq]
    exact pairwise_idxOf_distinct_filter isKept _
  · obtain ⟨tags, own, members⟩ := Record.mem_tags_of_typedTags read
    refine ⟨tags, own, fun tag => ?_⟩
    rw [mem_cleanValues, spellings_text, members, and_assoc]

/-- A tag in two spellings, a number, a null, and a tag that is too long, which the record has all
the same. -/
theorem cleaning_keeps_first_mixed :
    let long := String.ofList (List.replicate 51 'x')
    let r : Record := .mapping
      [(.text "tags", .list [.text "B ", .int 5, .null, .text long, .text "#b", .text "a!"])]
    let typed := ["B ", "5", long, "#b", "a!"]
    let own := ["#b", "#5", normalize long, "#a"]
    r.typedTags = .ok typed ∧ cleanValues (typed.map .text) = ["#b", "#5", "#a"] ∧
      cleanValues (["#b", "#5", "#a"].map .text) = ["#b", "#5", "#a"] ∧ r.tags = .ok own ∧
      ∀ tag, tag ∈ ["#b", "#5", "#a"] ↔ tag ∈ own ∧ (bodyOf tag).length ≤ maxBody := by
  intro long r typed own
  have read : r.typedTags = .ok typed := by decide +kernel
  have its : r.tags = .ok own := by decide +kernel
  have cleaned : cleanValues (typed.map .text) = ["#b", "#5", "#a"] := by decide +kernel
  obtain ⟨of_values, of_record⟩ := cleaning_keeps_first
  obtain ⟨tags, found, members⟩ := of_record r typed read
  obtain rfl : own = tags := Except.ok.inj (its.symm.trans found)
  have again := (of_values (typed.map .text)).2.2.2
  rw [cleaned] at again members
  exact ⟨read, cleaned, again, its, members⟩

end Tag

end TradeJournal
