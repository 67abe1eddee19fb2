import Mathlib.Data.List.Sort
import Mathlib.Data.Prod.Lex
import Mathlib.Data.String.Basic
import TradeJournal.Completion
import TradeJournal.Proofs.Number.Order

/-!
# What rankings look at

Tags are ranked by their counts, the places of their last uses and their names, in one order or
another. Where every last use has a place, the two ranks are linear orders: they compare keys that
are made of these three, and two tags have the same key only when they have the same name. So the
tags are ranked in the same order whatever the order in which they are listed, and whatever else is
known of them.

| notion | meaning |
|---|---|
| `TagStats.face` | the name, the count and the place of the last use |
| `TagIndex.SameRanks` | two lists of statistics with the same faces, in any order |
-/

namespace TradeJournal

/-- The place of a number; what is not a number is put at the lower end. -/
def Double.position (x : Double) : WithBotTop ℚ := x.place?.getD ⊥

theorem Double.IsNumber.place?_eq {x : Double} (h : x.IsNumber) : x.place? = some x.position := by
  obtain ⟨p, px⟩ := h
  rw [position, px]
  rfl

theorem Double.lt_eq_decide {x y : Double} (hx : x.IsNumber) (hy : y.IsNumber) :
    x.lt y = decide (x.position < y.position) := by
  rw [Bool.eq_iff_iff, Double.lt_iff, hx.place?_eq, hy.place?_eq]
  simp

theorem Double.AtMost.position_le {x y : Double} (h : x.AtMost y) : x.position ≤ y.position := by
  rcases h with less | equal
  · obtain ⟨p, q, px, qy, lt⟩ := Double.lt_iff.mp less
    rw [position, position, px, qy]
    exact lt.le
  · obtain ⟨p, px, py⟩ := Double.same_iff.mp equal
    rw [position, position, px, py]

namespace TagStats

/-- **What ranks see of statistics.** -/
def face (s : TagStats) : String × Int × WithBotTop ℚ := (s.tag, s.count, s.lastUsedAt.position)

/-- The key that tags are ranked by, from the face. -/
def useKey (f : String × Int × WithBotTop ℚ) : ℤᵒᵈ ×ₗ (WithBotTop ℚ)ᵒᵈ ×ₗ String :=
  toLex (.toDual f.2.1, toLex (.toDual f.2.2, f.1))

/-- The key of the rank by recency. -/
def recencyKey (f : String × Int × WithBotTop ℚ) : (WithBotTop ℚ)ᵒᵈ ×ₗ ℤᵒᵈ ×ₗ String :=
  toLex (.toDual f.2.2, toLex (.toDual f.2.1, f.1))

variable {a b : TagStats}

theorem sameTime_eq_decide (ha : a.lastUsedAt.IsNumber) (hb : b.lastUsedAt.IsNumber) :
    a.sameTime b = decide (a.lastUsedAt.position = b.lastUsedAt.position) := by
  rw [sameTime, Double.lt_eq_decide ha hb, Double.lt_eq_decide hb ha, Bool.eq_iff_iff]
  simp only [Bool.and_eq_true, Bool.not_eq_true', decide_eq_false_iff_not,
    decide_eq_true_eq, not_lt]
  rw [and_comm, le_antisymm_iff]

/-- **The rank by use** compares keys. -/
theorem rankedBefore_eq_decide (ha : a.lastUsedAt.IsNumber) (hb : b.lastUsedAt.IsNumber) :
    a.rankedBefore b = decide (useKey a.face ≤ useKey b.face) := by
  rw [rankedBefore, Double.lt_eq_decide hb ha, sameTime_eq_decide ha hb, Bool.eq_iff_iff]
  simp [useKey, face, Prod.Lex.toLex_le_toLex]

/-- **The rank by recency** compares keys. -/
theorem recentBefore_eq_decide (ha : a.lastUsedAt.IsNumber) (hb : b.lastUsedAt.IsNumber) :
    a.recentBefore b = decide (recencyKey a.face ≤ recencyKey b.face) := by
  rw [recentBefore, Double.lt_eq_decide hb ha, sameTime_eq_decide ha hb, Bool.eq_iff_iff]
  simp [recencyKey, face, Prod.Lex.toLex_le_toLex]

end TagStats

/-! ### The order of a ranking -/

namespace TagStats

/-- **Whether a tag comes before another one by use**: it is more frequent, or as frequent and used
later, or as frequent and used at the same time and first by name. -/
def Outranks (a b : TagStats) : Prop :=
  b.count < a.count ∨ a.count = b.count ∧
    (b.lastUsedAt.lt a.lastUsedAt = true ∨ a.lastUsedAt.same b.lastUsedAt = true ∧ a.tag < b.tag)

/-- Of two tags with different names, the one with the smaller key comes first. -/
theorem outranks_of_useKey_le {a b : TagStats} (ha : a.lastUsedAt.IsNumber)
    (hb : b.lastUsedAt.IsNumber)
    (le : useKey a.face ≤ useKey b.face) (other : a.tag ≠ b.tag) : a.Outranks b := by
  have later : b.lastUsedAt.lt a.lastUsedAt = true ↔
      b.lastUsedAt.position < a.lastUsedAt.position := by
    rw [Double.lt_eq_decide hb ha, decide_eq_true_eq]
  have same (equal : a.lastUsedAt.position = b.lastUsedAt.position) :
      a.lastUsedAt.same b.lastUsedAt = true :=
    Double.same_iff.mpr ⟨_, ha.place?_eq, equal ▸ hb.place?_eq⟩
  simp only [useKey, face, Prod.Lex.toLex_le_toLex, OrderDual.toDual_lt_toDual,
    OrderDual.toDual_inj] at le
  rcases le with more | ⟨equal, latest | ⟨same_time, name⟩⟩
  · exact Or.inl more
  · exact Or.inr ⟨equal, Or.inl (later.mpr latest)⟩
  · exact Or.inr ⟨equal, Or.inr ⟨same same_time, lt_of_le_of_ne name other⟩⟩

end TagStats

/-- **Tags with different names are ranked strictly**, where every last use has a place. -/
theorem TagIndex.pairwise_ranked {stats : List TagStats} (keyed : (stats.map (·.tag)).Nodup)
    (numbers : ∀ s ∈ stats, s.lastUsedAt.IsNumber) :
    (TagIndex.ranked stats).Pairwise TagStats.Outranks := by
  have perm : (ranked stats).Perm stats := List.mergeSort_perm stats _
  have number {s : TagStats} (member : s ∈ ranked stats) : s.lastUsedAt.IsNumber :=
    numbers s (perm.mem_iff.mp member)
  have keys : (ranked stats).map (fun s => TagStats.useKey s.face) =
      (stats.map fun s => TagStats.useKey s.face).mergeSort fun k k' => decide (k ≤ k') :=
    List.map_mergeSort fun a ha b hb =>
      TagStats.rankedBefore_eq_decide (numbers a ha) (numbers b hb)
  have ordered : (ranked stats).Pairwise fun a b =>
      TagStats.useKey a.face ≤ TagStats.useKey b.face := by
    refine List.pairwise_map.mp ?_
    rw [keys]
    exact List.pairwise_mergeSort' (· ≤ ·) _
  have distinct : (ranked stats).Pairwise fun a b => a.tag ≠ b.tag :=
    List.pairwise_map.mp ((perm.map TagStats.tag).nodup_iff.mpr keyed)
  refine (ordered.and distinct).imp_of_mem fun ha hb both => ?_
  exact TagStats.outranks_of_useKey_le (number ha) (number hb) both.1 both.2

/-- **Sorting by a linear order** forgets the order of a list. -/
theorem mergeSort_eq_of_perm {κ : Type} [LinearOrder κ] {l l' : List κ} (same : l.Perm l') :
    l.mergeSort (fun a b => decide (a ≤ b)) = l'.mergeSort fun a b => decide (a ≤ b) :=
  List.Perm.eq_of_pairwise' (r := (· ≤ ·)) (List.pairwise_mergeSort' _ l)
    (List.pairwise_mergeSort' _ l')
    (((List.mergeSort_perm l _).trans same).trans (List.mergeSort_perm l' _).symm)

namespace TagIndex

/-- **Two lists of statistics with the same ranks**: the faces are the same up to order, and the
last uses have places. -/
structure SameRanks (stats stats' : List TagStats) : Prop where
  numbers : ∀ s ∈ stats, s.lastUsedAt.IsNumber
  numbers' : ∀ s ∈ stats', s.lastUsedAt.IsNumber
  faces : (stats.map TagStats.face).Perm (stats'.map TagStats.face)

namespace SameRanks

variable {stats stats' : List TagStats}

theorem symm (h : SameRanks stats stats') : SameRanks stats' stats :=
  ⟨h.numbers', h.numbers, h.faces.symm⟩

/-- Tags that are chosen by their names keep their ranks. -/
theorem filter (h : SameRanks stats stats') (chosen : String → Bool) :
    SameRanks (stats.filter (chosen ·.tag)) (stats'.filter (chosen ·.tag)) := by
  refine ⟨fun s member => h.numbers s (List.mem_filter.mp member).1,
    fun s member => h.numbers' s (List.mem_filter.mp member).1, ?_⟩
  have by_face := h.faces.filter fun f => chosen f.1
  rwa [List.filter_map, List.filter_map] at by_face

/-- **Sorting by keys that are read off the faces** and keep the names puts the same names in the
same order. -/
theorem map_tag_mergeSort {κ : Type} [LinearOrder κ] {key : String × Int × WithBotTop ℚ → κ}
    (name : κ → String) (named : ∀ f, name (key f) = f.1) {before : TagStats → TagStats → Bool}
    (compares : ∀ {a b : TagStats}, a.lastUsedAt.IsNumber → b.lastUsedAt.IsNumber →
      before a b = decide (key a.face ≤ key b.face))
    (h : SameRanks stats stats') :
    (stats.mergeSort before).map (·.tag) = (stats'.mergeSort before).map (·.tag) := by
  have sorted {stats : List TagStats} (numbers : ∀ s ∈ stats, s.lastUsedAt.IsNumber) :
      (stats.mergeSort before).map (fun s => key s.face) =
        ((stats.map TagStats.face).map key).mergeSort fun k k' => decide (k ≤ k') := by
    rw [List.map_map]
    exact List.map_mergeSort fun a ha b hb => compares (numbers a ha) (numbers b hb)
  have keys := mergeSort_eq_of_perm (h.faces.map key)
  rw [← sorted h.numbers, ← sorted h.numbers'] at keys
  have names := congrArg (List.map name) keys
  rw [List.map_map, List.map_map] at names
  have named' : name ∘ (fun s : TagStats => key s.face) = fun s => s.tag := by
    funext s
    exact named s.face
  rwa [named'] at names

/-- **The same tags by use.** -/
theorem ranked (h : SameRanks stats stats') :
    (ranked stats).map (·.tag) = (TagIndex.ranked stats').map (·.tag) :=
  h.map_tag_mergeSort (fun k => (ofLex (ofLex k).2).2) (fun _ => rfl)
    TagStats.rankedBefore_eq_decide

/-- **The same tags by recency.** -/
theorem recent (h : SameRanks stats stats') :
    (stats.mergeSort TagStats.recentBefore).map (·.tag) =
      (stats'.mergeSort TagStats.recentBefore).map (·.tag) :=
  h.map_tag_mergeSort (fun k => (ofLex (ofLex k).2).2) (fun _ => rfl)
    TagStats.recentBefore_eq_decide

/-- The lists are equally long, so one of them is empty when the other one is. -/
theorem isEmpty_eq (h : SameRanks stats stats') : stats.isEmpty = stats'.isEmpty := by
  have lengths := h.faces.length_eq
  rw [List.length_map, List.length_map] at lengths
  rw [Bool.eq_iff_iff, List.isEmpty_iff_length_eq_zero, List.isEmpty_iff_length_eq_zero, lengths]

/-- **Each entry has a counterpart** of the same name and count, last used at the same time. -/
theorem exists_counterpart (h : SameRanks stats stats') {s : TagStats} (member : s ∈ stats) :
    ∃ s' ∈ stats', s'.tag = s.tag ∧ s'.count = s.count ∧
      s'.lastUsedAt.same s.lastUsedAt = true := by
  have face : s.face ∈ stats'.map TagStats.face :=
    h.faces.mem_iff.mp (List.mem_map_of_mem member)
  obtain ⟨s', member', equal⟩ := List.mem_map.mp face
  simp only [TagStats.face, Prod.mk.injEq] at equal
  obtain ⟨named, counted, placed⟩ := equal
  refine ⟨s', member', named, counted, Double.same_iff.mpr ⟨s.lastUsedAt.position, ?_, ?_⟩⟩
  · rw [(h.numbers' s' member').place?_eq, placed]
  · exact (h.numbers s member).place?_eq

end SameRanks

/-! ### What is listed of an index -/

section Listed

variable {index index' : TagIndex}

theorem map_limited {α β : Type} (f : α → β) (limit : Int) (l : List α) :
    (limited limit l).map f = limited limit (l.map f) := List.map_take

theorem SameRanks.mostUsed (h : SameRanks index.stats index'.stats) (limit : Int) :
    (index.mostUsed limit).map (·.tag) = (index'.mostUsed limit).map (·.tag) := by
  rw [TagIndex.mostUsed, TagIndex.mostUsed, map_limited, map_limited, h.ranked]

theorem SameRanks.mostRecent (h : SameRanks index.stats index'.stats) (limit : Int) :
    (index.recent limit).map (·.tag) = (index'.recent limit).map (·.tag) := by
  rw [TagIndex.recent, TagIndex.recent, map_limited, map_limited, h.recent]

theorem SameRanks.search (h : SameRanks index.stats index'.stats) (text : String) :
    (index.search text).map (·.tag) = (index'.search text).map (·.tag) :=
  (h.filter fun tag => Text.occursIn (Text.lower (Text.trim text.toList)) tag.toList).ranked

end Listed

end TagIndex

/-! ### Completions -/

namespace Completion

open TagIndex (SameRanks)

variable {stats stats' : List TagStats}

theorem map_tag_candidates (h : SameRanks stats stats') (excluded : List String) :
    (candidates stats excluded).map (·.tag) = (candidates stats' excluded).map (·.tag) :=
  (h.filter fun tag => tag ∉ excluded).ranked

theorem map_tag_fitting (h : SameRanks stats stats') (body : List Char) (excluded : List String) :
    (fitting stats body excluded).map (·.tag) = (fitting stats' body excluded).map (·.tag) := by
  have allowed := h.filter fun tag => tag ∉ excluded
  rw [fitting, fitting, List.map_append, List.map_append]
  congr 1
  · exact (allowed.filter fun tag => body.isPrefixOf (Tag.bodyOf tag)).ranked
  · exact (allowed.filter fun tag => !body.isPrefixOf (Tag.bodyOf tag)
      && Text.occursIn body (Tag.bodyOf tag)).ranked

/-- **A typed text goes on with the same tags.** -/
theorem continuation_sameRanks (h : SameRanks stats stats') (typed : List Char)
    (excluded : List String) :
    (continuation typed stats excluded).1 = (continuation typed stats' excluded).1 ∧
      (continuation typed stats excluded).2.map (·.tag) =
        (continuation typed stats' excluded).2.map (·.tag) := by
  rw [continuation, continuation]
  split
  · exact ⟨rfl, map_tag_candidates h _⟩
  · extract_lets text last tokens more word before body
    split
    · exact ⟨rfl, map_tag_candidates h _⟩
    · split
      · exact ⟨rfl, rfl⟩
      · refine ⟨rfl, ?_⟩
        split
        · exact map_tag_candidates h _
        · exact map_tag_fitting h _ _

/-- **The same completions.** -/
theorem suggest_sameRanks {index index' : TagIndex} (h : SameRanks index.stats index'.stats)
    (typed : Value) (current : Option Record) (limit : Int) :
    suggest typed index current limit = suggest typed index' current limit := by
  have completed (text : String) (excluded : List String) :
      completions text index excluded limit = completions text index' excluded limit := by
    obtain ⟨before, tags⟩ := continuation_sameRanks h text.toList excluded
    have rendered (c : List Char × List TagStats) :
        (TagIndex.limited limit c.2).map (fun s => String.ofList (c.1 ++ s.tag.toList)) =
          (TagIndex.limited limit (c.2.map (·.tag))).map
            fun tag => String.ofList (c.1 ++ tag.toList) := by
      rw [← TagIndex.map_limited, List.map_map]
      rfl
    rw [completions, completions, rendered, rendered, before, tags]
  rw [suggest, suggest, TagIndex.isEmpty, TagIndex.isEmpty, h.isEmpty_eq]
  simp only [completed]

end Completion

end TradeJournal
