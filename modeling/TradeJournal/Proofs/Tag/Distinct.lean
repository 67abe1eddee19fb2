import Mathlib.Data.List.Induction
import TradeJournal.Tag

/-!
# Tags at their first occurrence

What `Tag.distinct` keeps of a list of tags, read from the end of the list: the last tag is kept
when none before it is the same.
-/

namespace TradeJournal.Tag

theorem distinct_append_singleton (tags : List String) (tag : String) :
    distinct (tags ++ [tag]) = if tag ∈ distinct tags then distinct tags
      else distinct tags ++ [tag] := by
  rw [distinct, List.foldl_append]
  rfl

/-- **No tag is lost.** -/
theorem mem_distinct {tag : String} {tags : List String} : tag ∈ distinct tags ↔ tag ∈ tags := by
  induction tags using List.reverseRecOn with
  | nil => rfl
  | append_singleton tags last ih =>
    rw [distinct_append_singleton, List.mem_append, ← ih, List.mem_singleton]
    split
    · next kept =>
      constructor
      · exact Or.inl
      · rintro (before | rfl)
        · exact before
        · exact kept
    · rw [List.mem_append, List.mem_singleton]

/-- **No tag is kept twice.** -/
theorem nodup_distinct (tags : List String) : (distinct tags).Nodup := by
  induction tags using List.reverseRecOn with
  | nil => exact List.nodup_nil
  | append_singleton tags last ih =>
    rw [distinct_append_singleton]
    split
    · exact ih
    · next other =>
      refine List.nodup_append.mpr ⟨ih, by simp, fun a member b is_last equal => ?_⟩
      rw [List.mem_singleton] at is_last
      exact other (is_last ▸ equal ▸ member)

/-- Tags that are distinct stay as they are. -/
theorem distinct_of_nodup {tags : List String} (nodup : tags.Nodup) : distinct tags = tags := by
  induction tags using List.reverseRecOn with
  | nil => rfl
  | append_singleton tags last ih =>
    obtain ⟨before, -, other⟩ := List.nodup_append.mp nodup
    have new : last ∉ tags := fun member => other last member last (by simp) rfl
    rw [distinct_append_singleton, ih before, if_neg new]

/-- **Of tags after other tags** only those are kept that are not among the others. -/
theorem distinct_append (first second : List String) :
    distinct (first ++ second) = distinct first ++ (distinct second).filter (· ∉ first) := by
  induction second using List.reverseRecOn with
  | nil => simp [distinct]
  | append_singleton second last ih =>
    have seen : last ∈ distinct (first ++ second) ↔ last ∈ first ∨ last ∈ distinct second := by
      rw [mem_distinct, List.mem_append, mem_distinct]
    rw [← List.append_assoc, distinct_append_singleton, distinct_append_singleton]
    by_cases again : last ∈ distinct second
    · rw [if_pos (seen.mpr (Or.inr again)), if_pos again, ih]
    · by_cases before : last ∈ first
      · rw [if_pos (seen.mpr (Or.inl before)), if_neg again, ih]
        simp [before]
      · have new : last ∉ distinct (first ++ second) := fun kept => (seen.mp kept).elim before again
        rw [if_neg new, if_neg again, ih]
        simp [before]

/-- Keeping each tag once in the parts does not change what is kept of the whole. -/
theorem distinct_append_distinct (first second : List String) :
    distinct (distinct first ++ distinct second) = distinct (first ++ second) := by
  rw [distinct_append, distinct_append, distinct_of_nodup (nodup_distinct first),
    distinct_of_nodup (nodup_distinct second)]
  simp only [mem_distinct]

/-- **First occurrences** are what the duplicates of a list leave when they are erased. -/
theorem distinct_eq_eraseDups (tags : List String) : distinct tags = tags.eraseDups := by
  induction tags using List.reverseRecOn with
  | nil => rfl
  | append_singleton tags last ih =>
    rw [distinct_append_singleton, List.eraseDups_append, ih]
    by_cases seen : last ∈ tags
    · rw [if_pos (List.mem_eraseDups.mpr seen)]
      simp [List.removeAll, seen]
    · rw [if_neg (fun kept => seen (List.mem_eraseDups.mp kept))]
      simp [List.removeAll, seen, List.eraseDups_cons]

end TradeJournal.Tag
