import TradeJournal.Tag

/-!
# Canonical tags

The characters of a canonical tag are left alone by everything that is done to a typed one:
none of them is blank, none has another lower-case form, and none is left out, except that the
marker is taken away and put back. So a canonical tag is its own canonical spelling, and since
every spelling that is not empty is canonical, these are all the spellings that are.
-/

namespace TradeJournal

namespace Text

/-- A text without blanks has nothing to trim at its end. -/
theorem trimEnd_eq_self {s : List Char} (solid : ∀ c ∈ s, isBlank c = false) : trimEnd s = s := by
  induction s with
  | nil => rfl
  | cons c rest ih =>
    obtain ⟨first, others⟩ := List.forall_mem_cons.mp solid
    rw [trimEnd, ih others]
    cases rest with
    | nil => simp [first]
    | cons => rfl

/-- A text without blanks has nothing to trim. -/
theorem trim_eq_self {s : List Char} (solid : ∀ c ∈ s, isBlank c = false) : trim s = s := by
  have start : trimStart s = s := by
    cases s with
    | nil => rfl
    | cons c rest => simp [trimStart, solid c (by simp)]
  rw [trim, start, trimEnd_eq_self solid]

/-- A text is in lower case when all its characters are. -/
theorem lowerFrom_eq_self {s : List Char}
    (small : ∀ c ∈ s, lowerChar c = [c] ∧ c ≠ capitalSigma) (casedBehind : Bool) :
    lowerFrom casedBehind s = s := by
  induction s generalizing casedBehind with
  | nil => rfl
  | cons c rest ih =>
    obtain ⟨⟨own, not_sigma⟩, others⟩ := List.forall_mem_cons.mp small
    rw [lowerFrom, if_neg not_sigma, own, ih others]
    rfl

end Text

namespace Tag

/-! ### The characters of a canonical tag -/

theorem isBodyChar_iff {c : Char} :
    isBodyChar c = true ↔
      (97 ≤ c.toNat ∧ c.toNat ≤ 122) ∨ (48 ≤ c.toNat ∧ c.toNat ≤ 57) ∨ c.toNat = 95 := by
  have underscore : c = '_' ↔ c.toNat = 95 := (@Char.toNat_inj c '_').symm
  simp [isBodyChar, Char.le_def, UInt32.le_iff_toNat_le, ← underscore]

/-- Whether canonical tags are spelt with a character. -/
def IsSpelling (c : Char) : Prop := c = marker ∨ isBodyChar c = true

theorem IsSpelling.toNat {c : Char} (h : IsSpelling c) :
    c.toNat = 35 ∨ (97 ≤ c.toNat ∧ c.toNat ≤ 122) ∨ (48 ≤ c.toNat ∧ c.toNat ≤ 57) ∨
    c.toNat = 95 := by
  rcases h with rfl | of_body
  · exact Or.inl rfl
  · exact Or.inr (isBodyChar_iff.mp of_body)

theorem isBodyChar_marker : isBodyChar marker = false := rfl

/-- No character of a canonical tag is blank. -/
theorem IsSpelling.not_blank {c : Char} (h : IsSpelling c) : Text.isBlank c = false := by
  have codes := h.toNat
  simp only [Text.isBlank, Bool.or_eq_false_iff, Bool.and_eq_false_iff, decide_eq_false_iff_not,
    beq_eq_false_iff_ne]
  omega

/-- No character of a canonical tag is a parenthesis. -/
theorem IsSpelling.not_parenthesis {c : Char} (h : IsSpelling c) : c ≠ '(' ∧ c ≠ ')' := by
  have codes := h.toNat
  constructor <;> (rintro rfl; simp at codes)

/-- Every character of a canonical tag is its own lower-case form. -/
theorem IsSpelling.lower {c : Char} (h : IsSpelling c) :
    Text.lowerChar c = [c] ∧ c ≠ Text.capitalSigma := by
  have codes := h.toNat
  have ascii : c.toNat < 128 := by omega
  have not_capital : ¬('A' ≤ c ∧ c ≤ 'Z') := by
    rw [Char.le_def, Char.le_def, UInt32.le_iff_toNat_le, UInt32.le_iff_toNat_le]
    change ¬(65 ≤ c.toNat ∧ c.toNat ≤ 90)
    omega
  refine ⟨by rw [Text.lowerChar, if_pos ascii, if_neg not_capital], ?_⟩
  rintro rfl
  simp [Text.capitalSigma] at ascii

/-! ### Canonical tags are those that stay as they are -/

theorem isBodyChar_of_mem_body {raw : List Char} {c : Char} (h : c ∈ body raw) :
    isBodyChar c = true := (List.mem_filter.mp h).2

/-- **What is made of a typed tag is canonical, if anything is.** -/
theorem isCanonical_ofBody {raw : List Char} (some_body : ofBody (body raw) ≠ "") :
    IsCanonical (ofBody (body raw)) := by
  have kept : body raw ≠ [] := by
    intro none_kept
    simp [ofBody, none_kept] at some_body
  refine ⟨body raw, kept, List.all_eq_true.mpr fun c => isBodyChar_of_mem_body, ?_⟩
  rw [ofBody, if_neg (by simpa using kept)]

theorem IsCanonical.spelling {tag : String} (h : IsCanonical tag) :
    ∀ c ∈ tag.toList, IsSpelling c := by
  obtain ⟨own, -, of_body, rfl⟩ := h
  rw [String.toList_ofList]
  exact List.forall_mem_cons.mpr ⟨Or.inl rfl, fun c member =>
    Or.inr (List.all_eq_true.mp of_body c member)⟩

theorem IsCanonical.ne_empty {tag : String} (h : IsCanonical tag) : tag ≠ "" := by
  obtain ⟨own, -, -, rfl⟩ := h
  intro nothing
  simpa using congrArg String.toList nothing

theorem IsCanonical.marker_mem {tag : String} (h : IsCanonical tag) : marker ∈ tag.toList := by
  obtain ⟨own, -, -, rfl⟩ := h
  rw [String.toList_ofList]
  exact List.mem_cons_self

/-- The markers before a body would be left out with the other characters that no body has. -/
theorem filter_dropWhile_marker (s : List Char) :
    (s.dropWhile (· = marker)).filter isBodyChar = s.filter isBodyChar := by
  induction s with
  | nil => rfl
  | cons c rest ih =>
    by_cases marked : c = marker
    · subst marked
      rw [List.dropWhile_cons_of_pos (by simp), ih,
        List.filter_cons_of_neg (by simp [isBodyChar_marker])]
    · rw [List.dropWhile_cons_of_neg (by simp [marked])]

/-- The body of a canonical tag is what the tag has after its marker. -/
theorem body_marker_cons {own : List Char} (of_body : own.all isBodyChar = true) :
    body (marker :: own) = own := by
  have each := List.all_eq_true.mp of_body
  have spelling : ∀ c ∈ marker :: own, IsSpelling c :=
    List.forall_mem_cons.mpr ⟨Or.inl rfl, fun c member => Or.inr (each c member)⟩
  -- Trimming and lower case leave the tag alone, then the marker goes and nothing else.
  have typed : Text.lower (Text.trim (marker :: own)) = marker :: own := by
    rw [Text.trim_eq_self fun c member => (spelling c member).not_blank, Text.lower,
      Text.lowerFrom_eq_self fun c member => (spelling c member).lower]
  have unmarked : own.dropWhile (· = marker) = own := by
    cases own with
    | nil => rfl
    | cons c rest =>
      have other : c ≠ marker := by
        rintro rfl
        simp [isBodyChar_marker] at of_body
      simp [other]
  rw [body, typed, List.dropWhile_cons_of_pos (by simp), unmarked, List.filter_eq_self]
  exact each

/-- **A canonical tag is its own canonical spelling.** -/
theorem IsCanonical.normalize_eq {tag : String} (h : IsCanonical tag) : normalize tag = tag := by
  obtain ⟨own, some_body, of_body, rfl⟩ := h
  rw [normalize, String.toList_ofList, body_marker_cons of_body, ofBody,
    if_neg (by simpa using some_body)]

/-- **The canonical tags are those that stay as they are**, and there is something in them. -/
theorem isCanonical_iff {tag : String} : IsCanonical tag ↔ normalize tag = tag ∧ tag ≠ "" := by
  constructor
  · intro h
    exact ⟨h.normalize_eq, h.ne_empty⟩
  · rintro ⟨same, some_tag⟩
    rw [← same]
    exact isCanonical_ofBody (by rw [← same] at some_tag; exact some_tag)

end Tag

end TradeJournal
