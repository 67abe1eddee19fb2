import Mathlib.Data.Nat.Basic
import TradeJournal.Number.Double

/-!
# Whole numbers beyond the floating-point numbers

A whole number is rounded to a significand of 53 bits. The largest significand is odd, so from half
a unit above it on a number is rounded up to a power of two; and above the largest number there is
no such power. The whole numbers that have no floating-point number next to them are then those from
`overflow` on.
-/

namespace TradeJournal

namespace Number

theorem twoTo_pos (n : Nat) : 0 < twoTo n := Nat.two_pow_pos n

theorem twoTo_le_twoTo {m n : Nat} (h : m ≤ n) : twoTo m ≤ twoTo n :=
  Nat.pow_le_pow_right Nat.two_pos h

theorem twoTo_add (m n : Nat) : twoTo (m + n) = twoTo m * twoTo n := Nat.pow_add 2 m n

theorem twoTo_succ (n : Nat) : twoTo (n + 1) = 2 * twoTo n := Nat.pow_succ'

/-- A quotient is rounded down or up. -/
theorem roundQuotient_bounds (num den : Nat) :
    num / den ≤ roundQuotient num den ∧ roundQuotient num den ≤ num / den + 1 := by
  rw [roundQuotient]
  split
  · omega
  · split
    · omega
    · split <;> omega

/-- **An odd number gives way to the next one from the half on**, where a tie goes to the even
neighbour. -/
theorem lt_roundQuotient_iff {num half q : Nat} (positive : 0 < half) (odd : q % 2 = 1) :
    q < roundQuotient num (2 * half) ↔ (2 * q + 1) * half ≤ num := by
  have whole := Nat.div_add_mod num (2 * half)
  have less := Nat.mod_lt num (Nat.mul_pos Nat.two_pos positive)
  have bounds := roundQuotient_bounds num (2 * half)
  have middle : (2 * q + 1) * half = 2 * half * q + half := by
    rw [Nat.add_mul, Nat.one_mul, Nat.mul_right_comm]
  rw [middle]
  obtain below | equal | above := Nat.lt_trichotomy (num / (2 * half)) q
  · have next := Nat.mul_le_mul_left (2 * half) below
    rw [Nat.mul_succ] at next
    omega
  · rw [equal] at whole
    rw [roundQuotient, equal, if_neg (show ¬q % 2 = 0 by omega)]
    split
    · omega
    · split <;> omega
  · have next := Nat.mul_le_mul_left (2 * half) above
    rw [Nat.mul_succ] at next
    omega

end Number

namespace Double

open Number (twoTo twoTo_add twoTo_pos roundQuotient)

/-- **The first whole number that is beyond the floating-point numbers**: half a unit above the
largest of them. -/
def overflow : Nat := twoTo 1024 - twoTo 970

/-- It lies between the largest power of two that is a floating-point number and the next one. -/
theorem overflow_bounds : twoTo 1023 ≤ overflow ∧ overflow ≤ twoTo 1024 := by decide +kernel

/-- It is half a unit above the number with the largest significand and the largest exponent. -/
theorem overflow_eq : (2 * (twoTo 53 - 1) + 1) * twoTo 970 = overflow := by decide +kernel

/-- **A number scaled by its highest power of two**, `k` places short of it, has more than `k`
binary places. -/
theorem le_scaled_quotient {n : Nat} (positive : 0 < n) (k : Nat) :
    twoTo k ≤ (scaled n 1 (n.log2 - k)).1 / (scaled n 1 (n.log2 - k)).2 := by
  have least : twoTo n.log2 ≤ n := Nat.log2_self_le (Nat.ne_of_gt positive)
  generalize n.log2 = top at *
  rw [scaled]
  split
  · next below =>
    obtain ⟨j, rfl⟩ := Nat.exists_eq_add_of_le (show top ≤ k by omega)
    have up : (-((top : Int) - (top + j : Nat))).toNat = j := by omega
    dsimp only
    rw [up, Nat.div_one, twoTo_add]
    exact Nat.mul_le_mul_right _ least
  · next above =>
    obtain ⟨j, rfl⟩ := Nat.exists_eq_add_of_le (show k ≤ top by omega)
    have down : (((k + j : Nat) : Int) - k).toNat = j := by omega
    dsimp only
    rw [down, Nat.one_mul, Nat.le_div_iff_mul_le (twoTo_pos j), ← twoTo_add]
    exact least

/-- A whole number has a significand of 53 bits 52 places below its highest power of two. -/
theorem exponentFor_one {n : Nat} (positive : 0 < n) : exponentFor n 1 = (n.log2 : Int) - 52 := by
  have guess : (n.log2 : Int) - (Nat.log2 1 : Nat) - 53 = n.log2 - (53 : Nat) := by
    rw [show Nat.log2 1 = 0 from rfl]
    omega
  rw [exponentFor, guess, if_neg (Nat.not_lt.mpr (le_scaled_quotient positive 53)), minExponent]
  omega

/-- **Which whole numbers are rounded to an infinity.** -/
theorem exists_ofInt_eq_infinity_iff {n : Int} :
    (∃ negative, ofInt n = .infinity negative) ↔ overflow ≤ n.natAbs := by
  by_cases zero : n.natAbs = 0
  · have some_bound : 0 < overflow := Nat.lt_of_lt_of_le (twoTo_pos _) overflow_bounds.1
    simp only [ofInt, ofRatio, if_pos zero, Double.zero, reduceCtorEq, exists_false, false_iff]
    omega
  have positive := Nat.pos_of_ne_zero zero
  have lower : twoTo n.natAbs.log2 ≤ n.natAbs := Nat.log2_self_le zero
  have upper : n.natAbs < twoTo (n.natAbs.log2 + 1) := Nat.lt_log2_self
  rw [ofInt, ofRatio, if_neg zero, exponentFor_one positive]
  extract_lets exponent s rounded carried
  have infinite : (∃ negative, (if maxExponent < carried.2 then infinity (n < 0)
      else finite (n < 0) carried.1 carried.2) = infinity negative) ↔ maxExponent < carried.2 := by
    split <;> simp [*]
  have reaches : maxExponent < carried.2 ↔
      971 < exponent ∨ exponent = 971 ∧ twoTo 53 ≤ rounded := by
    simp only [carried, maxExponent]
    split <;> omega
  rw [infinite, reaches]
  obtain below | equal | above := Nat.lt_trichotomy n.natAbs.log2 1023
  · have less : n.natAbs < overflow := Nat.lt_of_lt_of_le upper
      (Nat.le_trans (Number.twoTo_le_twoTo below) overflow_bounds.1)
    omega
  · have at_top : exponent = 971 := by omega
    have unit : s = (n.natAbs, 2 * twoTo 970) := by
      simp only [s, at_top]
      rw [scaled, if_neg (by decide), Nat.one_mul, ← Number.twoTo_succ]
      rfl
    have carries : twoTo 53 ≤ rounded ↔ overflow ≤ n.natAbs := by
      rw [← overflow_eq, ← Number.lt_roundQuotient_iff (twoTo_pos _) (by decide)]
      simp only [rounded, unit]
      have some_place := twoTo_pos 53
      omega
    omega
  · have more : overflow ≤ n.natAbs := Nat.le_trans overflow_bounds.2
      (Nat.le_trans (Number.twoTo_le_twoTo above) lower)
    omega

end Double

end TradeJournal
