import TradeJournal.Proofs.Tag.Canonical
import TradeJournal.Proofs.Text.Trimming

/-!
# What a typed tag is spelt with

Four things are done to a typed tag: it is trimmed, put in lower case, rid of the markers before it
and of every character that no body has. The outcome shows two of them alone, lower case and the
last one. What is trimmed and what marks a tag would be left out at the end anyway, and lower case
looks at the neighbours of one letter only, the capital sigma, of which no form is in a body. So
every character of a typed tag gives its own part of the body, whatever stands around it
(`body_eq_flatMap`), and a character that gives nothing may stand anywhere or be missing.
-/

namespace TradeJournal.Tag

/-! ### What single characters give -/

/-- **What a character gives to a body**: the characters of its lower-case form that bodies consist
of. -/
def contribution (c : Char) : List Char := (Text.lowerChar c).filter isBodyChar

/-- **Of a text in lower case every character gives its own part**: the forms of a sigma, which
alone depend on what stands around it, are in no body. -/
theorem filter_lowerFrom (casedBehind : Bool) (s : List Char) :
    (Text.lowerFrom casedBehind s).filter isBodyChar = s.flatMap contribution := by
  induction s generalizing casedBehind with
  | nil => rfl
  | cons c rest ih =>
    rw [Text.lowerFrom, List.filter_append, ih, List.flatMap_cons]
    congr 1
    split
    · next sigma =>
      subst sigma
      split <;> decide
    · rfl

/-- A blank gives nothing. -/
theorem contribution_of_blank {c : Char} (blank : Text.isBlank c = true) : contribution c = [] :=
  Text.forall_blank (p := fun c => contribution c = []) (by decide +kernel) blank

theorem flatMap_contribution_of_allBlank {s : List Char} (blank : Text.allBlank s = true) :
    s.flatMap contribution = [] :=
  List.flatMap_eq_nil_iff.mpr fun c member =>
    contribution_of_blank (List.all_eq_true.mp blank c member)

/-- **The body of a typed tag** is what its characters give, one after the other. -/
theorem body_eq_flatMap (raw : List Char) : body raw = raw.flatMap contribution := by
  obtain ⟨lead, tail, blank, blank', whole⟩ := Text.exists_append_trim_append raw
  calc body raw = (Text.lower (Text.trim raw)).filter isBodyChar := filter_dropWhile_marker _
    _ = (Text.trim raw).flatMap contribution := filter_lowerFrom false _
    _ = (lead ++ (Text.trim raw ++ tail)).flatMap contribution := by
      rw [List.flatMap_append, List.flatMap_append, flatMap_contribution_of_allBlank blank,
        flatMap_contribution_of_allBlank blank', List.nil_append, List.append_nil]
    _ = raw.flatMap contribution := by rw [whole]

/-! ### Loose characters -/

/-- **Whether a character makes no difference to a tag**: a blank, a marker, or any other ASCII
character that may not be typed in a body, such as punctuation. -/
def isLoose (c : Char) : Bool := Text.isBlank c || (c.toNat < 128 && !isTypedChar c)

theorem contribution_of_isLoose {c : Char} (loose : isLoose c = true) : contribution c = [] := by
  rw [isLoose, Bool.or_eq_true, Bool.and_eq_true, decide_eq_true_iff, Bool.not_eq_true',
    isTypedChar,
    decide_eq_false_iff_not, not_or] at loose
  rcases loose with blank | ⟨ascii, not_body, not_capital⟩
  · exact contribution_of_blank blank
  · rw [contribution, Text.lowerChar, if_pos ascii, if_neg not_capital,
      List.filter_cons_of_neg not_body]
    rfl

/-- Leaving out the loose characters of a typed tag leaves its body as it is. -/
theorem body_filter_not_isLoose (raw : List Char) : body (raw.filter (!isLoose ·)) = body raw := by
  rw [body_eq_flatMap, body_eq_flatMap]
  induction raw with
  | nil => rfl
  | cons c rest ih =>
    rw [List.flatMap_cons, ← ih]
    cases loose : isLoose c with
    | true =>
      rw [List.filter_cons_of_neg (by simp [loose]), contribution_of_isLoose loose, List.nil_append]
    | false => rw [List.filter_cons_of_pos (by simp [loose]), List.flatMap_cons]

/-! ### Canonical spellings -/

/-- A canonical spelling is empty or a canonical tag. -/
theorem normalize_eq_empty_or_isCanonical (raw : String) :
    normalize raw = "" ∨ IsCanonical (normalize raw) :=
  Decidable.or_iff_not_imp_left.mpr isCanonical_ofBody

/-- **The texts that are their own canonical spelling** are the canonical tags and the empty
text. -/
theorem normalize_eq_self_iff {s : String} : normalize s = s ↔ s = "" ∨ IsCanonical s := by
  rw [isCanonical_iff]
  constructor
  · intro same
    exact Decidable.or_iff_not_imp_left.mpr fun some_tag => ⟨same, some_tag⟩
  · rintro (rfl | ⟨same, -⟩)
    · rfl
    · exact same

theorem bodyOf_normalize (raw : String) : bodyOf (normalize raw) = body raw.toList := by
  rw [normalize, ofBody]
  split
  · next nothing => rw [List.isEmpty_iff.mp nothing]; rfl
  · rw [bodyOf, String.toList_ofList]
    rfl

/-- **The canonical spelling is a canonical form.** It is empty or the marker and a body, the texts
that are their own canonical spelling are just these, and so it is that of itself. Its body is what
bodies can have of the typed tag in lower case; and typed tags that differ in loose characters only
have the same, wherever these stand. -/
theorem normalize_canonical_form :
    (∀ raw : String, normalize raw = "" ∨ IsCanonical (normalize raw)) ∧
    (∀ s : String, normalize s = s ↔ s = "" ∨ IsCanonical s) ∧
    (∀ raw : String, normalize (normalize raw) = normalize raw) ∧
    (∀ raw : String, bodyOf (normalize raw) = (Text.lower raw.toList).filter isBodyChar) ∧
    ∀ raw raw' : String, raw.toList.filter (!isLoose ·) = raw'.toList.filter (!isLoose ·) →
      normalize raw = normalize raw' := by
  refine ⟨normalize_eq_empty_or_isCanonical, fun _ => normalize_eq_self_iff,
    fun raw => normalize_eq_self_iff.mpr (normalize_eq_empty_or_isCanonical raw), fun raw => ?_,
    fun raw raw' same => ?_⟩
  · rw [bodyOf_normalize, body_eq_flatMap, Text.lower, filter_lowerFrom]
  · rw [normalize, normalize, ← body_filter_not_isLoose, same, body_filter_not_isLoose]

/-- Blanks, markers and punctuation within a tag, and a letter beyond ASCII whose lower-case form is
in it. -/
theorem normalize_canonical_form_scattered :
    " ##Sc-al!P #\u212Aing\n".toList.filter (!isLoose ·) = "ScalP\u212Aing".toList.filter
      (!isLoose ·) ∧
      normalize " ##Sc-al!P #\u212Aing\n" = normalize "ScalP\u212Aing" ∧
      normalize "ScalP\u212Aing" = "#scalpking" := by
  have same : " ##Sc-al!P #\u212Aing\n".toList.filter (!isLoose ·) =
      "ScalP\u212Aing".toList.filter (!isLoose ·) := by
    decide +kernel
  exact ⟨same, normalize_canonical_form.2.2.2.2 _ _ same, by decide +kernel⟩

end TradeJournal.Tag
