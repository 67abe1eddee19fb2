import Mathlib.Algebra.Group.Nat.Defs
import Mathlib.Data.List.TakeWhile
import TradeJournal.Number.Reading

/-!
# Fields of digits

Numbers in dates and in other fields of a fixed width are written with leading zeros. Such a field
is read as the number that was written, as long as the field is wide enough for it
(`Number.int?_lastDigits`).
-/

namespace TradeJournal.Number

/-! ### Digits -/

/-- **Whether a character is one of the ten digits.** -/
def IsDecimal (c : Char) : Prop := ∃ k < 10, c = digitChar k

theorem digitChar_mod (n : Nat) : digitChar (n % 10) = digitChar n := by
  rw [digitChar, Nat.mod_mod, digitChar]

theorem isDecimal_digitChar (n : Nat) : IsDecimal (digitChar n) :=
  ⟨n % 10, Nat.mod_lt n (by decide), (digitChar_mod n).symm⟩

namespace IsDecimal

variable {c : Char} (h : IsDecimal c)
include h

/-- What holds of the ten digits holds of each of them. -/
theorem elim {P : Char → Prop} (all : ∀ k < 10, P (digitChar k)) : P c := by
  obtain ⟨k, less, rfl⟩ := h
  exact all k less

theorem isPadding_eq : isPadding c = false := h.elim (P := fun c => isPadding c = false) (by decide)

theorem plainDigit_eq : plainDigit c = c := h.elim (P := fun c => plainDigit c = c) (by decide)

theorem isDigitIn_eq : isDigitIn 10 c = true :=
  h.elim (P := fun c => isDigitIn 10 c = true) (by decide)

theorem toNat_lt : c.toNat < 128 := h.elim (P := fun c => c.toNat < 128) (by decide)

/-- A digit is none of the signs that stand between digits. -/
theorem ne_of_not_mem {sign : Char} (other : sign ∉ (List.range 10).map digitChar) : c ≠ sign := by
  rintro rfl
  obtain ⟨k, less, rfl⟩ := h
  exact other (List.mem_map_of_mem (List.mem_range.mpr less))

end IsDecimal

/-! ### Fields -/

theorem length_lastDigits (width n : Nat) : (lastDigits width n).length = width := by
  induction width generalizing n with
  | zero => rfl
  | succ width ih => simp [lastDigits, ih]

theorem isDecimal_of_mem_lastDigits {width n : Nat} : ∀ c ∈ lastDigits width n, IsDecimal c := by
  induction width generalizing n with
  | zero => simp [lastDigits]
  | succ width ih =>
    rw [lastDigits, List.forall_mem_append]
    exact ⟨ih, by simpa using isDecimal_digitChar n⟩

theorem ofDigitsIn_append_digit (s : List Char) (n : Nat) :
    ofDigitsIn 10 (s ++ [digitChar n]) = 10 * ofDigitsIn 10 s + n % 10 := by
  have value : ∀ k < 10, digitValue? (digitChar k) = some k := by decide
  rw [ofDigitsIn, List.foldl_append, ← digitChar_mod]
  simp only [List.foldl_cons, List.foldl_nil, value (n % 10) (Nat.mod_lt n (by decide)),
    Option.getD_some]
  rfl

/-- **The digits of a field denote its number**, as far as they go. -/
theorem ofDigitsIn_lastDigits (width n : Nat) :
    ofDigitsIn 10 (lastDigits width n) = n % 10 ^ width := by
  induction width generalizing n with
  | zero => rw [Nat.pow_zero, Nat.mod_one]; rfl
  | succ width ih =>
    rw [lastDigits, ofDigitsIn_append_digit, ih, Nat.pow_succ', Nat.mod_mul]
    omega

/-! ### Reading -/

section

variable {s : List Char} (digits : ∀ c ∈ s, IsDecimal c)
include digits

theorem bare_of_digits : bare s = s := by
  have not_padding : ∀ c ∈ s, ¬isPadding c = true := fun c member => by
    simp [(digits c member).isPadding_eq]
  have front : s.dropWhile isPadding = s :=
    List.dropWhile_eq_self_iff.mpr fun some_char => not_padding _ (List.getElem_mem some_char)
  have back : s.reverse.dropWhile isPadding = s.reverse :=
    List.dropWhile_eq_self_iff.mpr fun some_char =>
      not_padding _ (List.mem_reverse.mp (List.getElem_mem some_char))
  rw [bare, front, back, List.reverse_reverse]
  exact (List.map_congr_left fun c member => (digits c member).plainDigit_eq).trans (List.map_id s)

theorem splitSign_of_digits : splitSign s = (false, s) := by
  cases s with
  | nil => rfl
  | cons c rest =>
    have digit := digits c List.mem_cons_self
    unfold splitSign
    split
    · next equal => exact absurd (List.cons.inj equal).1 (digit.ne_of_not_mem (by decide))
    · next equal => exact absurd (List.cons.inj equal).1 (digit.ne_of_not_mem (by decide))
    · rfl

theorem dropBase_of_digits : dropBase 10 s = s := by
  unfold dropBase
  split
  · exact if_neg (by simp [baseLetter?])
  · rfl

theorem ne_underscore_of_digits : ∀ c ∈ s, c ≠ '_' :=
  fun c member => (digits c member).ne_of_not_mem (by decide)

theorem run_of_digits : s.takeWhile (fun c => isDigitIn 10 c || c = '_') = s :=
  List.takeWhile_eq_self_iff.mpr fun c member => by simp [(digits c member).isDigitIn_eq]

/-- Where there are no underscores none stands in the wrong place. -/
theorem isSpaced_of_digits : isSpaced 10 s = true := by
  have plain := ne_underscore_of_digits digits
  have pairs : ∀ pair ∈ s.zip s.tail, pair ≠ ('_', '_') := by
    rintro ⟨c, d⟩ member equal
    exact plain c (List.of_mem_zip member).1 (Prod.mk.inj equal).1
  have first : s.head? ≠ some '_' := fun found => plain _ (List.mem_of_mem_head? found) rfl
  have last : s.getLast? ≠ some '_' := fun found => plain _ (List.mem_of_mem_getLast? found) rfl
  rw [isSpaced, run_of_digits digits]
  simpa [first, last] using pairs

/-- **Digits are read as the number that they denote.** -/
theorem int?_of_digits (filled : s ≠ []) (short : s.length ≤ maxDigits) :
    int? s = some (ofDigitsIn 10 s : Int) := by
  have kept : s.filter (· ≠ '_') = s :=
    List.filter_eq_self.mpr fun c member => by simpa using ne_underscore_of_digits digits c member
  rw [int?, intIn, bare_of_digits digits, splitSign_of_digits digits]
  dsimp only
  rw [dropBase_of_digits digits, isSpaced_of_digits digits, run_of_digits digits, kept]
  simp [filled, Nat.not_lt.mpr short, Except.toOption]

end

/-- **A field that is wide enough is read as its number.** -/
theorem int?_lastDigits {width n : Nat} (positive : 0 < width) (narrow : width ≤ maxDigits)
    (fits : n < 10 ^ width) : int? (lastDigits width n) = some (n : Int) := by
  have filled : lastDigits width n ≠ [] := by
    rw [← List.length_pos_iff, length_lastDigits]
    exact positive
  rw [int?_of_digits isDecimal_of_mem_lastDigits filled (by rwa [length_lastDigits]),
    ofDigitsIn_lastDigits, Nat.mod_eq_of_lt fits]

end TradeJournal.Number
