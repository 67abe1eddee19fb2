import TradeJournal.Proofs.Number.Order
import TradeJournal.Proofs.Number.Overflow

/-!
# Quotients that are whole numbers

A whole number below `2 ^ 53` is a floating-point number, whatever quotient it is given as. Such a
quotient is therefore not rounded at all (`Double.place?_ofRatio_mul`): its significand is the
number itself, shifted to the left as far as its exponent is below zero.
-/

namespace TradeJournal.Double

open Number (twoTo twoTo_pos twoTo_add twoTo_succ roundQuotient roundQuotient_mul)

/-- A number that is shifted to the left and back is unchanged. -/
theorem exact_mul_twoTo_neg (negative : Bool) (n k : Nat) :
    exact negative (n * twoTo k) (-k) = signed negative n := by
  have shift_ne_zero : (2 : ℚ) ^ k ≠ 0 := by positivity
  rw [exact, signed_mul, Int.cast_mul, Int.cast_natCast, natCast_twoTo, zpow_neg, zpow_natCast,
    mul_inv_cancel_right₀ shift_ne_zero]

section

variable {n den : Nat} (positive : 0 < den)
include positive

/-- **A quotient below `2 ^ 53` needs no exponent above zero.** -/
theorem exponentFor_nonpos (some_n : 0 < n) (small : n < twoTo 53) :
    exponentFor (n * den) den ≤ 0 := by
  have num_ne_zero : n * den ≠ 0 := Nat.ne_of_gt (Nat.mul_pos some_n positive)
  have places : (n * den).log2 < 53 + (den.log2 + 1) := by
    rw [Nat.log2_lt num_ne_zero, Nat.pow_add]
    exact Nat.mul_lt_mul'' small Nat.lt_log2_self
  rw [exponentFor]
  generalize is_guess : ((n * den).log2 : Int) - den.log2 - 53 = guess
  refine max_le ?_ (by decide)
  split
  · omega
  · next too_long =>
    -- The guess is below zero, since without a shift the quotient is the number.
    have shifted : guess ≠ 0 := by
      rintro rfl
      rw [scaled, if_neg (by decide)] at too_long
      have unit : den * twoTo (0 : Int).toNat = den := Nat.mul_one den
      dsimp only at too_long
      rw [unit, Nat.mul_div_cancel n positive] at too_long
      exact too_long small
    omega

/-- A whole number with binary places behind it is not rounded. -/
theorem roundQuotient_scaled_neg (k : Nat) :
    roundQuotient (scaled (n * den) den (-k)).1 (scaled (n * den) den (-k)).2 = n * twoTo k := by
  rw [scaled]
  cases k with
  | zero =>
    have unit : twoTo 0 = 1 := rfl
    rw [if_neg (by decide)]
    simpa [unit] using roundQuotient_mul n positive
  | succ k =>
    have up : (-(-((k + 1 : Nat) : Int))).toNat = k + 1 := by omega
    rw [if_pos (by omega), up, Nat.mul_right_comm]
    exact roundQuotient_mul _ positive

/-- **A quotient that is a whole number below `2 ^ 53` is not rounded.** -/
theorem place?_ofRatio_mul (negative : Bool) (small : n < twoTo 53) :
    (ofRatio negative (n * den) den).place? = some (placeOfInt (signed negative n)) := by
  obtain rfl | some_n := Nat.eq_zero_or_pos n
  · cases negative <;> simp [ofRatio, Double.zero, place?, placeOfInt, exact, signed]
  obtain ⟨k, is_k⟩ := Int.exists_eq_neg_ofNat (exponentFor_nonpos positive some_n small)
  rw [ofRatio, if_neg (Nat.ne_of_gt (Nat.mul_pos some_n positive)), is_k]
  extract_lets exponent s rounded carried
  have is_rounded : rounded = n * twoTo k := roundQuotient_scaled_neg positive k
  by_cases fits : rounded < twoTo 53
  · have stays : carried = (n * twoTo k, -(k : Int)) := by
      simp only [carried, if_pos fits, is_rounded, exponent]
    rw [stays, if_neg (by rw [maxExponent]; omega), place?, exact_mul_twoTo_neg]
    rfl
  · -- A significand with too many places ends in a zero, since the number itself fits.
    cases k with
    | zero =>
      rw [is_rounded] at fits
      exact absurd (by simpa [twoTo] using small) fits
    | succ k =>
      have halved : carried = (n * twoTo k, -(k : Int)) := by
        simp only [carried, if_neg fits, is_rounded, exponent, Prod.mk.injEq]
        rw [twoTo_succ, Nat.mul_left_comm, Nat.mul_div_cancel_left _ Nat.two_pos]
        exact ⟨rfl, by omega⟩
      rw [halved, if_neg (by rw [maxExponent]; omega), place?, exact_mul_twoTo_neg]
      rfl

end

end TradeJournal.Double
