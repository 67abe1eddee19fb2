import TradeJournal.Text.Blank
import TradeJournal.Text.Case

/-!
# Letters in either case

Texts that differ in nothing but the case of ASCII letters. Such texts have one *folded* form, in
which these letters are small and everything else is as it was; and what is folded first is trimmed,
lowered and raised as it would be without.

The case maps look at a letter's neighbours only to tell whether a capital sigma ends a word. A
letter and its other case are alike in the two classes that this depends on, so even there nothing
changes.
-/

namespace TradeJournal.Text

/-- **A text with its ASCII letters in lower case**; no other character is touched. -/
def folded (s : List Char) : List Char := s.map Char.toLower

/-- **Whether two texts differ in the case of ASCII letters at most.** -/
def SameLetters (s s' : List Char) : Prop := folded s = folded s'

instance (s s' : List Char) : Decidable (SameLetters s s') :=
  inferInstanceAs (Decidable (folded s = folded s'))

/-- What does not depend on folding is the same for two such texts. -/
theorem SameLetters.congr {α : Type} {f : List Char → α} (fold : ∀ s, f (folded s) = f s)
    {s s' : List Char} (same : SameLetters s s') : f s = f s' := by
  rw [← fold s, same, fold]

/-! ### A letter and its small form -/

/-- **A character is in lower case already, or is one of the 26 capital letters** and the letter 32
places on is its small form. -/
theorem toLower_eq_self_or_exists (c : Char) :
    c.toLower = c ∨ ∃ n < 26, c = Char.ofNat (65 + n) ∧ c.toLower = Char.ofNat (97 + n) := by
  by_cases capital : 65 ≤ c.toNat ∧ c.toNat ≤ 90
  · have found : c = Char.ofNat (65 + (c.toNat - 65)) := by
      rw [Nat.add_sub_cancel' capital.1, Char.ofNat_toNat]
    have small : ∀ n < 26, (Char.ofNat (65 + n)).toLower = Char.ofNat (97 + n) := by decide
    have place : c.toNat - 65 < 26 := by omega
    exact Or.inr ⟨c.toNat - 65, place, found, (congrArg Char.toLower found).trans (small _ place)⟩
  · have not_capital : ¬(c.val ≥ 'A'.val ∧ c.val ≤ 'Z'.val) := by
      rw [ge_iff_le, UInt32.le_iff_toNat_le, UInt32.le_iff_toNat_le]
      exact capital
    exact Or.inl (dif_neg not_capital)

/-- **What tells no capital letter from its small form** tells no character from it. -/
theorem toLower_congr {α : Type} {f : Char → α}
    (letters : ∀ n < 26, f (Char.ofNat (97 + n)) = f (Char.ofNat (65 + n))) (c : Char) :
    f c.toLower = f c := by
  rcases toLower_eq_self_or_exists c with same | ⟨n, place, capital, small⟩
  · rw [same]
  · rw [small, capital, letters n place]

theorem isBlank_toLower (c : Char) : isBlank c.toLower = isBlank c := toLower_congr (by decide) c

theorem isCased_toLower (c : Char) : isCased c.toLower = isCased c :=
  toLower_congr (by decide +kernel) c

theorem isCaseIgnorable_toLower (c : Char) : isCaseIgnorable c.toLower = isCaseIgnorable c :=
  toLower_congr (by decide +kernel) c

theorem lowerChar_toLower (c : Char) : lowerChar c.toLower = lowerChar c :=
  toLower_congr (by decide) c

theorem upperChar_toLower (c : Char) : upperChar c.toLower = upperChar c :=
  toLower_congr (by decide) c

/-- A character that is no ASCII letter is nobody's small form but its own. -/
theorem toLower_eq_iff {c d : Char}
    (plain : ∀ n < 26, d ≠ Char.ofNat (65 + n) ∧ d ≠ Char.ofNat (97 + n)) :
    c.toLower = d ↔ c = d := by
  rcases toLower_eq_self_or_exists c with same | ⟨n, place, capital, small⟩
  · rw [same]
  · rw [small, capital]
    exact iff_of_false (plain n place).2.symm (plain n place).1.symm

theorem toLower_eq_capitalSigma_iff {c : Char} : c.toLower = capitalSigma ↔ c = capitalSigma :=
  toLower_eq_iff (by decide)

/-! ### Folding first -/

theorem folded_cons (c : Char) (rest : List Char) :
    folded (c :: rest) = c.toLower :: folded rest := rfl

/-- **What is left out at the start** stays the same when no letter is told from its other case. -/
theorem dropWhile_folded {p : Char → Bool} (alike : ∀ c : Char, p c.toLower = p c) (s : List Char) :
    (folded s).dropWhile p = folded (s.dropWhile p) := by
  induction s with
  | nil => rfl
  | cons c rest ih =>
    rw [folded_cons, List.dropWhile_cons, List.dropWhile_cons, alike]
    split
    · exact ih
    · rfl

theorem trimEnd_folded (s : List Char) : trimEnd (folded s) = folded (trimEnd s) := by
  induction s with
  | nil => rfl
  | cons c rest ih =>
    rw [folded_cons, trimEnd, trimEnd, ih, isBlank_toLower]
    cases trimEnd rest with
    | nil => cases isBlank c <;> rfl
    | cons => rfl

/-- **Folding leaves blanks where they are**, so a text may be folded before it is trimmed or
after. -/
theorem trim_folded (s : List Char) : trim (folded s) = folded (trim s) := by
  rw [trim, trimStart, dropWhile_folded isBlank_toLower, trimEnd_folded]
  rfl

theorem upper_folded (s : List Char) : upper (folded s) = upper s := by
  induction s with
  | nil => rfl
  | cons c rest ih =>
    rw [upper] at ih ⊢
    rw [folded_cons, List.flatMap_cons, upperChar_toLower, ih]
    rfl

theorem casedAhead_folded (s : List Char) : casedAhead (folded s) = casedAhead s := by
  rw [casedAhead, casedAhead, dropWhile_folded isCaseIgnorable_toLower]
  cases s.dropWhile isCaseIgnorable with
  | nil => rfl
  | cons c rest => exact isCased_toLower c

theorem lowerFrom_folded (s : List Char) (casedBehind : Bool) :
    lowerFrom casedBehind (folded s) = lowerFrom casedBehind s := by
  induction s generalizing casedBehind with
  | nil => rfl
  | cons c rest ih =>
    rw [folded_cons, lowerFrom, lowerFrom, ih, casedAhead_folded, lowerChar_toLower,
      isCaseIgnorable_toLower, isCased_toLower]
    simp only [toLower_eq_capitalSigma_iff]

/-- **Lower case forgets the case of letters.** -/
theorem lower_folded (s : List Char) : lower (folded s) = lower s := lowerFrom_folded s false

end TradeJournal.Text
