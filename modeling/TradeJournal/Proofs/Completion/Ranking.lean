import TradeJournal.Proofs.Completion.Preservation
import TradeJournal.Proofs.Search.Meaning
import TradeJournal.Proofs.TagIndex.Ranking

/-!
# Which completions are proposed

A typed text decides two things: the text that stands before every tag that is proposed, and which
tags are proposed, in one tier or another. `GoesOn` says what it decides, from the last word of the
text, without asking for the entries of an index. The completions are then the entries in these
tiers, without the tags of the record that is being edited, ranked tier by tier and by use within
each tier, as many as are asked for (`completions_are_best`). Since tags have different names, the
ranks are strict.

| notion | meaning |
|---|---|
| `EndsWith` | a text, cut before and behind its last word |
| `tierOf` | the tier of a tag for a word that has been begun: its start, or a later place in it |
| `GoesOn` | the text before the tags, and the tiers of tags, for a typed text |
| `IsRanking` | the entries in tiers, each of them once, the higher ranks first |
-/

namespace TradeJournal

namespace Text

/-- **A text occurs in another one** when it is a stretch of it. -/
theorem occursIn_iff {needle text : List Char} : occursIn needle text = true ↔
    needle <:+: text := by
  induction text with
  | nil => rw [occursIn, List.isEmpty_iff, List.infix_nil]
  | cons c rest ih =>
    rw [occursIn, Bool.or_eq_true, ih, List.isPrefixOf_iff_prefix, List.infix_cons_iff]

end Text

theorem Query.mem_tagTexts {tag : String} {tokens : List Query.Token} :
    tag ∈ Query.tagTexts tokens ↔ .tag tag ∈ tokens := by
  rw [Query.tagTexts, List.mem_filterMap]
  refine ⟨?_, fun member => ⟨_, member, rfl⟩⟩
  rintro ⟨token, member, text⟩
  split at text <;> cases text
  exact member

namespace Completion

open Query (Token)

/-! ### What a typed text decides -/

/-- **A text and its last word**: what stands before it, and the blanks behind it. -/
structure EndsWith (typed head last tail : List Char) : Prop where
  whole : head ++ last ++ tail = typed
  some_last : last ≠ []
  solid : ∀ c ∈ last, Text.isBlank c = false
  apart : ∀ c ∈ head.getLast?, Text.isBlank c = true
  blank : Text.allBlank tail = true

/-- A text that is not blank has a last word. -/
theorem exists_endsWith {typed : List Char} (not_blank : Text.allBlank typed = false) :
    ∃ head last tail, EndsWith typed head last tail := by
  obtain ⟨tail, blank, whole⟩ := Text.exists_trimEnd_append typed
  obtain ⟨head, whole', apart⟩ := Text.exists_append_lastWord (Text.trimEnd typed)
  refine ⟨head, _, tail, by rw [whole', whole], fun nothing => ?_, Text.lastWord_solid _,
    apart, blank⟩
  -- A text without a last word ends with a blank, and the trimmed text does not.
  rw [nothing, List.append_nil] at whole'
  cases ends : head.getLast? with
  | none =>
    rw [List.getLast?_eq_none_iff.mp ends] at whole'
    rw [← whole', List.nil_append] at whole
    rw [← whole, blank] at not_blank
    cases not_blank
  | some c =>
    have is_blank := apart c ends
    have is_not := Text.trimEnd_ends typed c (whole' ▸ ends)
    rw [is_blank] at is_not
    cases is_not

section

variable {typed head last tail : List Char} (ends : EndsWith typed head last tail)
include ends

theorem EndsWith.allBlank_eq : Text.allBlank typed = false := by
  obtain ⟨c, member⟩ := List.exists_mem_of_ne_nil last ends.some_last
  rw [Text.allBlank, List.all_eq_false]
  refine ⟨c, ?_, by simp [ends.solid c member]⟩
  rw [← ends.whole]
  simp [member]

/-- Trimming leaves the text up to its last word. -/
theorem EndsWith.trimEnd_eq : Text.trimEnd typed = head ++ last := by
  rw [← ends.whole]
  refine Text.trimEnd_append (fun c is_last => ?_) ends.blank
  rw [List.getLast?_append_of_ne_nil _ ends.some_last] at is_last
  exact ends.solid c (List.mem_of_getLast? is_last)

theorem EndsWith.lastWord_eq : Text.lastWord (Text.trimEnd typed) = last := by
  rw [ends.trimEnd_eq]
  exact Text.lastWord_append ends.solid ends.apart

end

/-- **The tier of a tag for a word that has been begun**, given by its body: tags whose bodies start
with it come first, and then those in whose bodies it occurs elsewhere. -/
def tierOf (body : List Char) (tag : String) : Option Nat :=
  if body <+: Tag.bodyOf tag then some 0 else if body <:+: Tag.bodyOf tag then some 1 else none

/-- **How a typed text goes on**: what stands before every proposed tag, and the tiers of the tags
that are proposed.

* Of a blank text nothing stays, and any tag goes.
* Where a tag is due, all but the blanks at the end stays, set off by one blank unless it ends with
  an opening parenthesis, and any tag goes that is not yet among the tokens.
* Behind a closing parenthesis no tag goes.
* Otherwise the last word has been begun, and is replaced but for the opening parentheses at its
  start. -/
inductive GoesOn (typed : List Char) : List Char → (String → Option Nat) → Prop
  | blank (all_blank : Text.allBlank typed = true) : GoesOn typed [] fun _ => some 0
  | due {head last tail : List Char} (ends : EndsWith typed head last tail)
      (awaits : Awaits (Token.scan last)) :
      GoesOn typed (head ++ last ++ if last.getLast? = some '(' then [] else [' '])
        fun tag => if .tag tag ∈ Token.scan typed then none else some 0
  | closed {head last tail : List Char} (ends : EndsWith typed head last tail)
      (complete : ¬Awaits (Token.scan last)) (closing : last.getLast? = some ')') :
      GoesOn typed [] fun _ => none
  | word {head lead word tail : List Char} (ends : EndsWith typed head (lead ++ word) tail)
      (complete : ¬Awaits (Token.scan (lead ++ word)))
        (not_closing : (lead ++ word).getLast? ≠ some ')')
      (opening : ∀ c ∈ lead, c = '(') (own : word.head? ≠ some '(') :
      GoesOn typed (head ++ lead) (tierOf (Tag.body word))

/-- Every typed text goes on somehow. -/
theorem exists_goesOn (typed : List Char) : ∃ before tier, GoesOn typed before tier := by
  cases blank : Text.allBlank typed with
  | true => exact ⟨_, _, .blank blank⟩
  | false =>
    obtain ⟨head, last, tail, ends⟩ := exists_endsWith blank
    by_cases awaits : Awaits (Token.scan last)
    · exact ⟨_, _, .due ends awaits⟩
    by_cases closing : last.getLast? = some ')'
    · exact ⟨_, _, .closed ends awaits closing⟩
    have parts : last.takeWhile (· = '(') ++ last.dropWhile (· = '(') = last :=
      List.takeWhile_append_dropWhile
    have ends' : EndsWith typed head
        (last.takeWhile (· = '(') ++ last.dropWhile (· = '(')) tail := by
      rwa [parts]
    refine ⟨_, _, .word ends' (by rwa [parts]) (by rwa [parts]) (fun c member => ?_) ?_⟩
    · exact of_decide_eq_true (List.all_eq_true.mp List.all_takeWhile c member)
    · intro opens
      have first := List.head?_dropWhile_not (fun c => decide (c = '(')) last
      rw [opens] at first
      simp at first

/-! ### Rankings in tiers -/

/-- **Whether a tag comes before another one**: in a higher tier, or in the same one and by use. -/
def Precedes (tier : String → Option Nat) (a b : TagStats) : Prop :=
  ∃ i j, tier a.tag = some i ∧ tier b.tag = some j ∧ (i < j ∨ i = j ∧ a.Outranks b)

/-- **A ranking of the entries in tiers**: each of them is in it once, and one comes before the next
ones strictly, where every last use has a place among the numbers. -/
structure IsRanking (stats : List TagStats) (tier : String → Option Nat) (ranked : List TagStats) :
    Prop where
  mem_iff : ∀ s, s ∈ ranked ↔ s ∈ stats ∧ ∃ i, tier s.tag = some i
  nodup : ranked.Nodup
  sorted : (∀ s ∈ stats, s.lastUsedAt.IsNumber) → ranked.Pairwise (Precedes tier)

/-- The entries in one tier, by use. -/
def level (stats : List TagStats) (tier : String → Option Nat) (i : Nat) : List TagStats :=
  TagIndex.ranked (stats.filter fun s => tier s.tag = some i)

section Levels

variable {stats : List TagStats} {tier : String → Option Nat}

theorem mem_level {i : Nat} {s : TagStats} : s ∈ level stats tier i ↔
    s ∈ stats ∧ tier s.tag = some i := by
  rw [level, TagIndex.ranked, List.mem_mergeSort, List.mem_filter, decide_eq_true_eq]

/-- A tier that is empty has no entries. -/
theorem level_eq_nil {i : Nat} (empty : ∀ s ∈ stats, tier s.tag ≠ some i) :
    level stats tier i = [] := by
  refine List.eq_nil_iff_forall_not_mem.mpr fun s member => ?_
  obtain ⟨listed, inside⟩ := mem_level.mp member
  exact empty s listed inside

/-- **One tier after the other is a ranking.** -/
theorem isRanking_levels (keyed : (stats.map (·.tag)).Nodup)
    (two : ∀ tag i, tier tag = some i → i = 0 ∨ i = 1) :
    IsRanking stats tier (level stats tier 0 ++ level stats tier 1) := by
  have own (i : Nat) : (stats.filter fun s => tier s.tag = some i).map (·.tag) |>.Nodup :=
    keyed.sublist (List.filter_sublist.map _)
  have nodup (i : Nat) : (level stats tier i).Nodup :=
    (List.mergeSort_perm _ _).nodup_iff.mpr (own i).of_map
  refine ⟨fun s => ?_, ?_, fun numbers => ?_⟩
  · rw [List.mem_append, mem_level, mem_level, ← and_or_left]
    refine and_congr_right fun _ => ⟨?_, ?_⟩
    · rintro (first | second)
      · exact ⟨0, first⟩
      · exact ⟨1, second⟩
    · rintro ⟨i, inside⟩
      rcases two _ i inside with rfl | rfl
      · exact Or.inl inside
      · exact Or.inr inside
  · refine List.nodup_append.mpr ⟨nodup 0, nodup 1, ?_⟩
    rintro s first s' second rfl
    have impossible := (mem_level.mp first).2.symm.trans (mem_level.mp second).2
    cases impossible
  · have within (i : Nat) : (level stats tier i).Pairwise (Precedes tier) := by
      refine (TagIndex.pairwise_ranked (own i) fun s member => ?_).imp_of_mem fun ha hb before => ?_
      · exact numbers s (List.mem_filter.mp member).1
      · exact ⟨i, i, (mem_level.mp ha).2, (mem_level.mp hb).2, Or.inr ⟨rfl, before⟩⟩
    refine List.pairwise_append.mpr ⟨within 0, within 1, fun a ha b hb => ?_⟩
    exact ⟨0, 1, (mem_level.mp ha).2, (mem_level.mp hb).2, Or.inl Nat.zero_lt_one⟩

end Levels

/-! ### What is proposed -/

/-- The entries that may be proposed while some tags are left out. -/
def allowed (stats : List TagStats) (excluded : List String) : List TagStats :=
  stats.filter fun s => s.tag ∉ excluded

/-- The entries in a single tier are the candidates that it leaves. -/
theorem candidates_eq_levels {stats : List TagStats} {carried excluded : List String}
    {tier : String → Option Nat}
    (single : ∀ tag, tag ∉ carried → tier tag = if tag ∈ excluded then none else some 0) :
    candidates stats (carried ++ excluded) =
      level (allowed stats carried) tier 0 ++ level (allowed stats carried) tier 1 := by
  have lower : level (allowed stats carried) tier 1 = [] := by
    refine level_eq_nil fun s member => ?_
    rw [single _ (of_decide_eq_true (List.mem_filter.mp member).2)]
    split <;> simp
  rw [lower, List.append_nil, candidates, level, allowed, List.filter_filter]
  congr 1
  refine List.filter_congr fun s _ => ?_
  rw [← Bool.decide_and]
  refine decide_eq_decide.mpr ?_
  rw [List.mem_append, not_or, and_comm]
  refine and_congr_left fun kept => ?_
  rw [single _ kept]
  split <;> simp [*]

/-- Where every tag goes, all entries are in the first tier. -/
theorem candidates_eq_levels_of_all {stats : List TagStats} {carried : List String}
    {tier : String → Option Nat} (all : ∀ tag, tier tag = some 0) :
    candidates stats carried =
      level (allowed stats carried) tier 0 ++ level (allowed stats carried) tier 1 := by
  have single (tag : String) (_ : tag ∉ carried) :
      tier tag = if tag ∈ ([] : List String) then none else some 0 := by
    rw [all, if_neg List.not_mem_nil]
  rw [← candidates_eq_levels single, List.append_nil]

/-- The entries that a begun word fits are those in its tiers. -/
theorem fitting_eq_levels (stats : List TagStats) (body : List Char) (carried : List String) :
    fitting stats body carried =
      level (allowed stats carried) (tierOf body) 0 ++
        level (allowed stats carried) (tierOf body) 1 := by
  have first (tag : String) :
      decide (tierOf body tag = some 0) = body.isPrefixOf (Tag.bodyOf tag) := by
    rw [Bool.eq_iff_iff, decide_eq_true_eq, List.isPrefixOf_iff_prefix, tierOf]
    by_cases starts : body <+: Tag.bodyOf tag
    · simp [starts]
    · by_cases occurs : body <:+: Tag.bodyOf tag <;> simp [starts, occurs]
  have second (tag : String) : decide (tierOf body tag = some 1) =
      (!body.isPrefixOf (Tag.bodyOf tag) && Text.occursIn body (Tag.bodyOf tag)) := by
    rw [← first, Bool.eq_iff_iff, decide_eq_true_eq, Bool.and_eq_true, Text.occursIn_iff, tierOf]
    by_cases starts : body <+: Tag.bodyOf tag
    · simp [starts]
    · by_cases occurs : body <:+: Tag.bodyOf tag <;> simp [starts, occurs]
  rw [fitting, level, level]
  simp only [first, second]
  rfl

/-- A word without its opening parentheses. -/
theorem dropWhile_opening {lead word : List Char} (opening : ∀ c ∈ lead, c = '(')
    (own : word.head? ≠ some '(') : (lead ++ word).dropWhile (· = '(') = word := by
  rw [List.dropWhile_append_of_pos (by simpa using opening)]
  cases word with
  | nil => rfl
  | cons c rest => exact List.dropWhile_cons_of_neg (by simpa using own)

/-- The ways in which a text with a last word goes on. -/
theorem EndsWith.continuation_eq {typed head last tail : List Char}
    (ends : EndsWith typed head last tail)
    (stats : List TagStats) (excluded : List String) :
    continuation typed stats excluded =
      if ((Token.scan last).getLast?.map awaitsOperand).getD false then
        (head ++ last ++ if last.getLast? = some '(' then [] else [' '],
          candidates stats (excluded ++ Query.tagTexts (Token.scan typed)))
      else if last.getLast? = some ')' then ([], [])
      else
        let word := last.dropWhile (· = '(')
        ((head ++ last).take ((head ++ last).length - word.length),
          if (Tag.body word).isEmpty then candidates stats excluded
          else fitting stats (Tag.body word) excluded) := by
  have not_blank : ¬Text.allBlank typed = true := by simp [ends.allBlank_eq]
  rw [continuation, if_neg not_blank]
  dsimp only
  rw [ends.lastWord_eq, ends.trimEnd_eq, List.getLast?_append_of_ne_nil _ ends.some_last]

/-- **What a typed text goes on with** are the entries in the tiers that it decides. -/
theorem GoesOn.continuation_eq {typed before : List Char} {tier : String → Option Nat}
    (h : GoesOn typed before tier) (stats : List TagStats) (carried : List String) :
    continuation typed stats carried = (before,
      level (allowed stats carried) tier 0 ++ level (allowed stats carried) tier 1) := by
  cases h with
  | blank all_blank => rw [continuation, if_pos all_blank, candidates_eq_levels_of_all fun _ => rfl]
  | @due head last tail ends awaits =>
    have single (tag : String) (_ : tag ∉ carried) :
        (if .tag tag ∈ Token.scan typed then none else some 0) =
          if tag ∈ Query.tagTexts (Token.scan typed) then none else some 0 := by
      simp only [Query.mem_tagTexts]
    rw [ends.continuation_eq, if_pos (awaits_iff.mpr awaits), candidates_eq_levels single]
  | @closed head last tail ends complete closing =>
    rw [ends.continuation_eq, if_neg (awaits_iff.not.mpr complete), if_pos closing,
      level_eq_nil (by simp), level_eq_nil (by simp), List.append_nil]
  | @word head lead word tail ends complete not_closing opening own =>
    have cut : (head ++ (lead ++ word)).take ((head ++ (lead ++ word)).length - word.length) =
        head ++ lead := by
      rw [← List.append_assoc, List.length_append, Nat.add_sub_cancel, List.take_left]
    rw [ends.continuation_eq, if_neg (awaits_iff.not.mpr complete), if_neg not_closing,
      dropWhile_opening opening own]
    dsimp only
    rw [cut]
    congr 1
    split
    · next empty =>
      -- Every tag begins with nothing.
      exact candidates_eq_levels_of_all fun tag =>
        if_pos (List.isEmpty_iff.mp empty ▸ List.nil_prefix)
    · exact fitting_eq_levels stats _ carried

/-- There are two tiers at most. -/
theorem GoesOn.tier_cases {typed before : List Char} {tier : String → Option Nat}
    (h : GoesOn typed before tier) (tag : String) (i : Nat) (inside : tier tag = some i) :
    i = 0 ∨ i = 1 := by
  cases h with
  | blank => exact Or.inl (Option.some.inj inside).symm
  | due =>
    dsimp only at inside
    split_ifs at inside
    exact Or.inl (Option.some.inj inside).symm
  | closed => cases inside
  | @word head lead word =>
    rw [tierOf] at inside
    split_ifs at inside
    · exact Or.inl (Option.some.inj inside).symm
    · exact Or.inr (Option.some.inj inside).symm

/-- The tags of the record that is being edited, if any. -/
def carried : Option Record → List String
  | some r => r.tagSet
  | none => []

/-- Why nothing is looked at: the limit, or an index without tags. -/
theorem no_room_iff {index : TagIndex} {limit : Int} :
    limit ≤ 0 ∨ index.isEmpty = true ↔ limit ≤ 0 ∨ index.stats = [] := by
  rw [TagIndex.isEmpty, List.isEmpty_iff]

/-- A text is completed from the tags that the edited record does not carry. -/
theorem suggest_eq_completions {index : TagIndex} {current : Option Record} {limit : Int}
    (given : ∀ r ∈ current, r.GivesTags) (room : ¬(limit ≤ 0 ∨ index.stats = [])) (typed : String) :
    suggest (.text typed) index current limit =
      .ok (completions typed index (carried current) limit) := by
  rw [suggest, if_neg (room ∘ no_room_iff.mp)]
  cases current with
  | none => rfl
  | some r =>
    dsimp only
    rw [(given r rfl).readable.tags_eq]
    rfl

/-- **Completions are the best that there are.** For a typed text, an index of tags with different
names, a record whose tags are given in one of the ways in which journals do, if any, and any limit,
there are completions. None are there without room or without tags. Otherwise the text decides what
stands before every tag, and the tiers; the completions are the first tags, as many as the limit
allows, of a strict ranking of all those that are in a tier and that the record does not carry. -/
theorem completions_are_best (typed : String) (index : TagIndex) (current : Option Record)
    (limit : Int)
    (keyed : (index.stats.map (·.tag)).Nodup) (given : ∀ r ∈ current, r.GivesTags) :
    (limit ≤ 0 ∨ index.stats = [] → suggest (.text typed) index current limit = .ok []) ∧
      (∃ before tier, GoesOn typed.toList before tier) ∧
      ∀ before tier, GoesOn typed.toList before tier →
        ∃ ranked, IsRanking (allowed index.stats (carried current)) tier ranked ∧
          suggest (.text typed) index current limit =
            .ok ((ranked.take limit.toNat).map fun s =>
              String.ofList (before ++ s.tag.toList)) := by
  have nothing (no_room : limit ≤ 0 ∨ index.stats = []) :
      suggest (.text typed) index current limit = .ok [] := by
    rw [suggest, if_pos (no_room_iff.mpr no_room)]
  refine ⟨nothing, exists_goesOn _, fun before tier goes_on => ?_⟩
  have keyed' : ((allowed index.stats (carried current)).map (·.tag)).Nodup :=
    keyed.sublist (List.filter_sublist.map _)
  refine ⟨_, isRanking_levels keyed' goes_on.tier_cases, ?_⟩
  by_cases room : limit ≤ 0 ∨ index.stats = []
  · -- Then nothing is left of the ranking either.
    rw [nothing room]
    rcases room with no_room | no_tags
    · rw [Int.toNat_of_nonpos no_room, List.take_zero, List.map_nil]
    · rw [allowed, no_tags, List.filter_nil, level_eq_nil (by simp), level_eq_nil (by simp)]
      simp
  · rw [suggest_eq_completions given room, completions, goes_on.continuation_eq, TagIndex.limited]

/-- A word in a group: one tag begins with it, a more frequent one holds it, and the record carries
the one that is used most. -/
theorem completions_are_best_begun :
    let index : TagIndex :=
      ⟨[⟨"#sc", 20, "", [], .infinity true⟩, ⟨"#no-scalp", 9, "", [], .infinity true⟩,
      ⟨"#scalp", 3, "", [], .infinity true⟩, ⟨"#fomo", 12, "", [], .infinity true⟩]⟩
    let current := Record.mapping [(.text "tags", .list [.text "SC", .null])]
    (index.stats.map (·.tag)).Nodup ∧ (∀ r ∈ some current, r.GivesTags) ∧
      GoesOn "a AND (sc ".toList "a AND (".toList (tierOf ['s', 'c']) ∧
      ∃ ranked,
        IsRanking (allowed index.stats (carried (some current))) (tierOf ['s', 'c']) ranked ∧
        ((ranked.take 5).map fun s => String.ofList ("a AND (".toList ++ s.tag.toList)) =
          ["a AND (#scalp", "a AND (#no-scalp"] := by
  intro index current
  have keyed : (index.stats.map (·.tag)).Nodup := by decide
  have given : ∀ r ∈ some current, r.GivesTags := by
    intro r edited
    cases edited
    exact List.forall_mem_cons.mpr ⟨Or.inr ⟨"SC", rfl⟩, List.forall_mem_singleton.mpr (Or.inl rfl)⟩
  have solid : ∀ c ∈ ['(', 's', 'c'], Text.isBlank c = false := by simp [Text.isBlank]
  have ends : EndsWith "a AND (sc ".toList "a AND ".toList (['('] ++ ['s', 'c']) [' '] :=
    ⟨by decide +kernel, List.cons_ne_nil _ _, solid, fun c is_last =>
      Option.some.inj is_last ▸ rfl, rfl⟩
  have complete : ¬Awaits (Token.scan (['('] ++ ['s', 'c'])) :=
    awaits_iff.not.mp (by decide +kernel)
  have goes_on : GoesOn "a AND (sc ".toList "a AND (".toList (tierOf ['s', 'c']) :=
    .word ends complete (by decide +kernel) (List.forall_mem_singleton.mpr rfl) (by decide +kernel)
  have suggested : suggest (.text "a AND (sc ") index (some current) 5 =
      .ok ["a AND (#scalp", "a AND (#no-scalp"] := by decide +kernel
  obtain ⟨-, -, best⟩ := completions_are_best "a AND (sc " index (some current) 5 keyed given
  obtain ⟨ranked, is_ranking, all⟩ := best _ _ goes_on
  exact ⟨keyed, given, goes_on, ranked, is_ranking, Except.ok.inj (all.symm.trans suggested)⟩

end Completion

end TradeJournal
