import Mathlib.Data.Set.List
import TradeJournal.Proofs.Tag.Canonical
import TradeJournal.Proofs.Tag.Distinct
import TradeJournal.Proofs.Text.LetterCase
import TradeJournal.Proofs.Text.Trimming

/-!
# The check of tags and their clean-up

A tag is checked as it was typed and cleaned up afterwards, and the two look at different texts: the
check at the typed characters behind the marker, the clean-up at their lower-case forms, of which it
leaves out what no body has. They agree because the characters that the check lets pass are those
that become characters of a body one by one (`isBodyChar_toLower`). So the clean-up leaves nothing
out of a tag that passed the check, and its body is the typed content with its letters in lower
case.

| What is typed | Its content | What the check says |
|---|---|---|
| ` #Scalp_1 ` | `Scalp_1` | passes, `#scalp_1` |
| `##a` | `#a` | invalid characters: the clean-up takes every marker away, the check one |
| `a b` | `a b` | invalid characters: the clean-up leaves the blank out |
-/

namespace TradeJournal

namespace Tag

open Text (folded)

/-! ### Characters that may be typed -/

/-- The capital letters are the only characters that may be typed and are in no body. -/
theorem isTypedChar_iff {c : Char} :
    isTypedChar c = true ↔ isBodyChar c = true ∨ ∃ n < 26, c = Char.ofNat (65 + n) := by
  have capital : 'A' ≤ c ∧ c ≤ 'Z' ↔ ∃ n < 26, c = Char.ofNat (65 + n) := by
    constructor
    · intro between
      have codes : 65 ≤ c.toNat ∧ c.toNat ≤ 90 := between
      refine ⟨c.toNat - 65, by omega, ?_⟩
      rw [Nat.add_sub_cancel' codes.1, Char.ofNat_toNat]
    · rintro ⟨n, place, rfl⟩
      have letters : ∀ n < 26, 'A' ≤ Char.ofNat (65 + n) ∧ Char.ofNat (65 + n) ≤ 'Z' := by decide
      exact letters n place
  rw [isTypedChar, decide_eq_true_iff, capital]

/-- **A character that may be typed becomes one of a body** when it is a letter in lower case. -/
theorem isBodyChar_toLower {c : Char} (typed : isTypedChar c = true) :
    isBodyChar c.toLower = true := by
  rcases Text.toLower_eq_self_or_exists c with same | ⟨n, place, -, small⟩
  · rcases isTypedChar_iff.mp typed with own | ⟨n, place, rfl⟩
    · rw [same, own]
    · have moved : ∀ n < 26, (Char.ofNat (65 + n)).toLower ≠ Char.ofNat (65 + n) := by decide
      exact absurd same (moved n place)
  · have letters : ∀ n < 26, isBodyChar (Char.ofNat (97 + n)) = true := by decide
    rw [small, letters n place]

/-- **A text is typed correctly** when it is one or more characters that may be typed, or these and
a line feed. -/
theorem isTyped_iff {text : List Char} :
    isTyped text = true ↔ ∃ typed, typed ≠ [] ∧ (∀ c ∈ typed, isTypedChar c = true) ∧
      (text = typed ∨ text = typed ++ ['\n']) := by
  have not_typed : isTypedChar '\n' = false := by decide
  rw [isTyped, Bool.and_eq_true, decide_eq_true_iff, Bool.or_eq_true, List.isEmpty_iff,
    decide_eq_true_iff]
  constructor
  · rintro ⟨shorter, behind⟩
    have whole := List.takeWhile_append_dropWhile (p := isTypedChar) (l := text)
    refine ⟨text.takeWhile isTypedChar, fun nothing => ?_,
      fun c member => List.all_eq_true.mp List.all_takeWhile c member, ?_⟩
    · rw [nothing, List.nil_append] at whole
      rw [whole] at shorter
      exact Nat.lt_irrefl _ shorter
    · rcases behind with none_left | line_feed
      · rw [none_left, List.append_nil] at whole
        exact Or.inl whole.symm
      · rw [line_feed] at whole
        exact Or.inr whole.symm
  · rintro ⟨typed, some_typed, each, rfl | rfl⟩
    · have behind : text.dropWhile isTypedChar = [] := by
        rw [← List.append_nil text, List.dropWhile_append_of_pos each, List.dropWhile_nil]
      rw [behind]
      exact ⟨List.length_pos_iff.mpr some_typed, Or.inl rfl⟩
    · have behind : (typed ++ ['\n']).dropWhile isTypedChar = ['\n'] := by
        rw [List.dropWhile_append_of_pos each, List.dropWhile_cons_of_neg (by simp [not_typed])]
      rw [behind, List.length_append]
      exact ⟨Nat.lt_add_of_pos_left (List.length_pos_iff.mpr some_typed), Or.inr rfl⟩

/-! ### The content of a typed tag -/

/-- A typed tag is its content between blanks, behind a marker if it begins with one. -/
theorem trim_eq_content (raw : List Char) :
    Text.trim raw = content raw ∧ (content raw).head? ≠ some marker ∨
    Text.trim raw = marker :: content raw := by
  rw [content]
  cases Text.trim raw with
  | nil => exact Or.inl ⟨rfl, nofun⟩
  | cons c rest =>
    by_cases marked : c = marker
    · subst marked
      exact Or.inr (by simp)
    · exact Or.inl (by simp [marked])

/-- No blank stands at the end of a content, and so no line feed does. -/
theorem content_ends (raw : List Char) : ∀ c ∈ (content raw).getLast?, Text.isBlank c = false := by
  have ends : ∀ c ∈ (Text.trim raw).getLast?, Text.isBlank c = false :=
    Text.trimEnd_ends (Text.trimStart raw)
  intro c is_last
  rcases trim_eq_content raw with ⟨whole, -⟩ | whole
  · exact ends c (whole ▸ is_last)
  · have some_content : content raw ≠ [] := by
      intro nothing
      simp [nothing] at is_last
    rw [whole, List.getLast?_cons_of_ne_nil some_content] at ends
    exact ends c is_last

/-- Blanks alone have no content. -/
theorem not_allBlank_of_content {raw : List Char} (some_content : content raw ≠ []) :
    Text.allBlank raw = false := by
  rw [Bool.eq_false_iff]
  intro blank
  rw [content, Text.trim_eq_nil_iff.mpr blank] at some_content
  exact some_content rfl

/-- **What the check asks of a content** is that it has characters and that all of them may be
typed. -/
theorem isTyped_content_iff (raw : List Char) :
    isTyped (content raw) = true ↔ content raw ≠ [] ∧ ∀ c ∈ content raw, isTypedChar c = true := by
  rw [isTyped_iff]
  constructor
  · rintro ⟨typed, some_typed, each, whole | whole⟩
    · exact whole ▸ ⟨some_typed, each⟩
    · have blank := content_ends raw '\n' (by rw [whole]; simp)
      cases blank
  · rintro ⟨some_content, each⟩
    exact ⟨content raw, some_content, each, Or.inl rfl⟩

/-- **A tag passes the check** when its content has characters, not too many of them, that all may
be typed. -/
theorem check_isValid_iff {raw : String} :
    (check raw).isValid = true ↔ content raw.toList ≠ [] ∧
      (∀ c ∈ content raw.toList, isTypedChar c = true) ∧ (content raw.toList).length ≤ maxBody := by
  have found : (check raw).isValid = true ↔
      Text.allBlank raw.toList = false ∧ issues raw.toList = [] := by
    rw [check]
    cases Text.allBlank raw.toList <;> simp [Check.isValid]
  have typed : issues raw.toList = [] ↔ content raw.toList ≠ [] ∧
      (content raw.toList).length ≤ maxBody ∧ isTyped (content raw.toList) = true := by
    rw [issues]
    by_cases nothing : content raw.toList = []
    · simp [nothing]
    · simp [nothing]
  rw [found, typed, isTyped_content_iff]
  constructor
  · rintro ⟨-, some_content, short, -, each⟩
    exact ⟨some_content, each, short⟩
  · rintro ⟨some_content, each, short⟩
    exact ⟨not_allBlank_of_content some_content, some_content, short, some_content, each⟩

/-! ### What becomes of the content -/

/-- **The body of a tag whose content may be typed is the content in lower case**: nothing of it is
left out. -/
theorem body_of_typed {raw : List Char} (each : ∀ c ∈ content raw, isTypedChar c = true) :
    body raw = folded (content raw) := by
  have of_body : ∀ c ∈ folded (content raw), isBodyChar c = true :=
    List.forall_mem_map.mpr fun c member => isBodyChar_toLower (each c member)
  have whole : folded (Text.trim raw) = folded (content raw) ∨
      folded (Text.trim raw) = marker :: folded (content raw) :=
    (trim_eq_content raw).imp (fun unmarked => congrArg folded unmarked.1) (congrArg folded)
  have spelling : ∀ c ∈ folded (Text.trim raw), IsSpelling c := by
    rcases whole with unmarked | marked
    · exact fun c member => Or.inr (of_body c (unmarked ▸ member))
    · rw [marked]
      exact List.forall_mem_cons.mpr ⟨Or.inl rfl, fun c member => Or.inr (of_body c member)⟩
  have lowered : Text.lower (Text.trim raw) = folded (Text.trim raw) := by
    rw [← Text.lower_folded, Text.lower, Text.lowerFrom_eq_self fun c member =>
      (spelling c member).lower]
  rw [body, lowered, filter_dropWhile_marker]
  rcases whole with unmarked | marked
  · rw [unmarked, List.filter_eq_self.mpr of_body]
  · rw [marked, List.filter_cons_of_neg (by simp [isBodyChar_marker]),
      List.filter_eq_self.mpr of_body]

/-- **The spelling that a content has when it may be typed**: its letters in lower case, behind the
marker. -/
def spelt (raw : String) : String := String.ofList (marker :: folded (content raw.toList))

theorem bodyOf_spelt (raw : String) : bodyOf (spelt raw) = folded (content raw.toList) := by
  rw [bodyOf, spelt, String.toList_ofList]
  rfl

/-- **A tag that passes the check has its spelling**, which the check reports and the clean-up
keeps. -/
theorem spelt_of_isValid {raw : String} (valid : (check raw).isValid = true) :
    normalize raw = spelt raw ∧ (check raw).sanitized = some (spelt raw) ∧
      isKept (spelt raw) = true := by
  obtain ⟨some_content, each, short⟩ := check_isValid_iff.mp valid
  have some_tag : spelt raw ≠ "" := by
    intro nothing
    simpa [spelt] using congrArg String.toList nothing
  have normalized : normalize raw = spelt raw := by
    rw [normalize, body_of_typed each, ofBody, if_neg (by simpa [folded] using some_content)]
    rfl
  have trimmed : normalize (String.ofList (Text.trim raw.toList)) = normalize raw := by
    rw [normalize, String.toList_ofList, body, Text.trim_trim]
    rfl
  refine ⟨normalized, ?_, ?_⟩
  · rw [check, not_allBlank_of_content some_content, trimmed, normalized]
    exact if_neg some_tag
  · rw [isKept, bodyOf_spelt, folded, List.length_map]
    exact decide_eq_true ⟨some_tag, short⟩

/-! ### Lists of tags -/

theorem clean_singleton (raw : String) :
    clean [raw] = if isKept (normalize raw) then [normalize raw] else [] := by
  rw [clean, List.map_singleton]
  cases kept : isKept (normalize raw) with
  | true => rw [List.filter_cons_of_pos kept]; rfl
  | false => rw [List.filter_cons_of_neg (by simp [kept])]; rfl

/-- **A canonical tag that is not too long passes the check**, and is its own spelling. -/
theorem IsCanonical.check_isValid {tag : String} (canonical : IsCanonical tag)
    (short : (bodyOf tag).length ≤ maxBody) : (check tag).isValid = true ∧ spelt tag = tag := by
  obtain ⟨own, some_body, of_body, whole⟩ := id canonical
  have own_body : bodyOf tag = own := by
    rw [whole, bodyOf, String.toList_ofList]
    rfl
  have own_content : content tag.toList = own := by
    rw [content, Text.trim_eq_self fun c member => (canonical.spelling c member).not_blank, whole,
      String.toList_ofList]
    exact if_pos rfl
  have valid : (check tag).isValid = true := by
    rw [check_isValid_iff, own_content]
    exact ⟨some_body, fun c member =>
      isTypedChar_iff.mpr (Or.inl (List.all_eq_true.mp of_body c member)),
      own_body ▸ short⟩
  exact ⟨valid, (spelt_of_isValid valid).1.symm.trans canonical.normalize_eq⟩

/-- A value that passes the check is a text that does. -/
theorem exists_text_of_checkValue {v : Value} (valid : (checkValue v).findings = []) :
    ∃ text, v = .text text ∧ (check text).isValid = true := by
  cases v with
  | text text => exact ⟨text, rfl, List.isEmpty_iff.mpr valid⟩
  | _ => cases valid

/-- **Tags that pass the check** are texts that all do. -/
theorem exists_texts_of_checkAll {tags : List Value} (valid : (checkAll tags).isValid = true) :
    ∃ texts : List String, tags = texts.map .text ∧ ∀ text ∈ texts, (check text).isValid =
      true := by
  rw [Check.isValid, checkAll, List.isEmpty_iff, List.append_eq_nil_iff,
    List.flatMap_eq_nil_iff] at valid
  have each : ∀ tag ∈ tags, ∃ text, tag = .text text ∧ (check text).isValid = true := by
    intro tag member
    obtain ⟨i, at_i⟩ := List.mem_iff_getElem?.mp member
    have found := valid.2 (tag, i) (List.mk_mem_zipIdx_iff_getElem?.mpr at_i)
    exact exists_text_of_checkValue (List.map_eq_nil_iff.mp found)
  obtain ⟨texts, rfl⟩ : tags ∈ Set.range (List.map Value.text) := by
    rw [Set.range_list_map]
    intro tag member
    obtain ⟨text, rfl, -⟩ := each tag member
    exact ⟨text, rfl⟩
  refine ⟨texts, rfl, fun text member => ?_⟩
  obtain ⟨text', same, passes⟩ := each (.text text) (List.mem_map_of_mem member)
  rwa [Value.text.inj same]

/-- **A value that passes the check as a list** is a list, or another sequence. -/
theorem exists_tags_of_checkList {v : Value} (valid : (checkList v).isValid = true) :
    ∃ tags, (v = .list tags ∨ ∃ face, v = .foreign face (some tags)) ∧
      (checkAll tags).isValid = true := by
  cases v with
  | list tags => exact ⟨tags, Or.inl rfl, valid⟩
  | foreign face items =>
    cases items with
    | none => cases valid
    | some tags =>
      rw [checkList] at valid
      split at valid
      · exact ⟨tags, Or.inr ⟨face, rfl⟩, valid⟩
      · cases valid
  | _ => cases valid

/-- **The clean-up of tags that all pass the check** keeps the spelling of each, at its first
occurrence. -/
theorem clean_of_isValid {texts : List String}
    (valid : ∀ text ∈ texts, (check text).isValid = true) :
    clean texts = (texts.map spelt).eraseDups := by
  have spellings : texts.map normalize = texts.map spelt :=
    List.map_congr_left fun text member => (spelt_of_isValid (valid text member)).1
  have kept : ∀ tag ∈ texts.map spelt, isKept tag = true :=
    List.forall_mem_map.mpr fun text member => (spelt_of_isValid (valid text member)).2.2
  rw [clean, spellings, List.filter_eq_self.mpr kept, distinct_eq_eraseDups]

/-- **The check of tags and their clean-up agree.** A tag that passes the check has a canonical
spelling, whose body is the content with its ASCII letters in lower case and nothing left out of it,
and cleaning up the tag gives just this spelling. A tag that cleaning up gives passes the check as
its own spelling. And of a list, or another sequence, that passes the check, cleaning up keeps the
spelling of every element, at its first occurrence. -/
theorem accepted_tags_are_kept :
    (∀ raw : String, (check raw).isValid = true →
      ∃ tag, (check raw).sanitized = some tag ∧ bodyOf tag = folded (content raw.toList) ∧
        (bodyOf tag).length = (content raw.toList).length ∧ tag.toList = marker :: bodyOf tag ∧
        clean [raw] = [tag]) ∧
      (∀ raw tag : String, clean [raw] = [tag] →
        (check tag).isValid = true ∧ (check tag).sanitized = some tag) ∧
      ∀ v : Value, (checkList v).isValid = true →
        ∃ texts : List String,
          (v = .list (texts.map .text) ∨ ∃ face, v = .foreign face (some (texts.map .text))) ∧
          ∃ spellings :
          List String, texts.map (fun text => (check text).sanitized) = spellings.map some ∧
            clean texts = spellings.eraseDups ∧
            ∀ text ∈ texts, ∃ tag ∈ clean texts, bodyOf tag = folded (content text.toList) := by
  refine ⟨fun raw valid => ?_, fun raw tag cleaned => ?_, fun v valid => ?_⟩
  · obtain ⟨normalized, reported, kept⟩ := spelt_of_isValid valid
    refine ⟨spelt raw, reported, bodyOf_spelt raw, ?_, ?_, ?_⟩
    · rw [bodyOf_spelt, folded, List.length_map]
    · rw [bodyOf_spelt, spelt, String.toList_ofList]
    · rw [clean_singleton, normalized, if_pos kept]
  · rw [clean_singleton] at cleaned
    split at cleaned
    · next kept =>
      obtain rfl := List.singleton_inj.mp cleaned
      obtain ⟨some_tag, short⟩ := of_decide_eq_true kept
      obtain ⟨valid, own⟩ := IsCanonical.check_isValid (isCanonical_ofBody some_tag) short
      exact ⟨valid, (spelt_of_isValid valid).2.1.trans (congrArg some own)⟩
    · cases cleaned
  · obtain ⟨tags, is_sequence, valid⟩ := exists_tags_of_checkList valid
    obtain ⟨texts, rfl, each⟩ := exists_texts_of_checkAll valid
    refine ⟨texts, is_sequence, texts.map spelt, ?_, clean_of_isValid each, fun text member => ?_⟩
    · rw [List.map_map]
      exact List.map_congr_left fun text member => (spelt_of_isValid (each text member)).2.1
    · refine ⟨spelt text, ?_, bodyOf_spelt text⟩
      rw [clean_of_isValid each, List.mem_eraseDups]
      exact List.mem_map_of_mem member

/-- A tag before a line feed, one that the clean-up makes of a text that the check refuses, and a
list with the same tag in two spellings. -/
theorem accepted_tags_are_kept_repeated :
    let listed := ["B ", "#b", "A"]
    (check " #Scalp_1\n").isValid = true ∧ clean ["##a b"] = ["#ab"] ∧
      (checkList (.list (listed.map .text))).isValid = true ∧
      clean [" #Scalp_1\n"] = ["#scalp_1"] ∧ (check "#ab").sanitized = some "#ab" ∧
      clean listed = ["#b", "#a"] := by
  intro listed
  have passes : (check " #Scalp_1\n").isValid = true := by decide +kernel
  have cleaned : clean ["##a b"] = ["#ab"] := by decide +kernel
  have list_passes : (checkList (.list (listed.map .text))).isValid = true := by decide +kernel
  obtain ⟨of_passing, of_cleaned, of_list⟩ := accepted_tags_are_kept
  obtain ⟨tag, -, own_body, -, whole, kept⟩ := of_passing _ passes
  obtain ⟨texts, is_sequence, spellings, reported, first_kept, -⟩ := of_list _ list_passes
  have same : Value.list (listed.map .text) = .list (texts.map .text) :=
    is_sequence.resolve_right fun ⟨_, foreign⟩ => Value.noConfusion foreign
  have is_tag : tag = "#scalp_1" := by
    rw [← String.toList_inj, whole, own_body]
    decide +kernel
  have is_listed : listed = texts :=
    (List.map_inj_right fun _ _ => Value.text.inj).mp (Value.list.inj same)
  have are_spellings : spellings = ["#b", "#b", "#a"] := by
    refine (List.map_inj_right fun _ _ => Option.some.inj).mp (reported.symm.trans ?_)
    rw [← is_listed]
    decide +kernel
  refine ⟨passes, cleaned, list_passes, is_tag ▸ kept, (of_cleaned _ _ cleaned).2, ?_⟩
  rw [is_listed, first_kept, are_spellings]
  decide +kernel

end Tag

end TradeJournal
