import Mathlib.Algebra.Order.Field.Power
import Mathlib.Algebra.Order.Ring.Unbundled.Rat
import Mathlib.Data.Rat.Cast.Order
import Mathlib.Order.WithBotTop
import Mathlib.Tactic.NormNum
import Mathlib.Tactic.Positivity
import Mathlib.Tactic.Ring
import TradeJournal.Number.Double

/-!
# The order of numbers

A floating-point number that is one has a place among the rational numbers, with an end added on
either side for the infinities. The comparisons of `Double` bring two significands to a common
power of two, so they are the comparisons of places: what is needed of them, that they are
transitive and that any two numbers compare, is then the order of the rational numbers.
-/

namespace TradeJournal.Double

open Number (twoTo)

/-- The value of a finite number. -/
def exact (negative : Bool) (significand : Nat) (exponent : Int) : ℚ :=
  signed negative significand * 2 ^ exponent

/-- **The place of a number**; what is not a number has none. -/
def place? : Double → Option (WithBotTop ℚ)
  | .nan => none
  | .infinity true => some ⊥
  | .infinity false => some ⊤
  | .finite negative m e => some (WithBotTop.coe (exact negative m e))

/-- The place of a whole number. -/
def placeOfInt (n : Int) : WithBotTop ℚ := WithBotTop.coe n

@[simp]
theorem coe_inj {p q : ℚ} : WithBotTop.coe p = WithBotTop.coe q ↔ p = q :=
  WithBotTop.coe_injective.eq_iff

@[simp]
theorem bot_ne_coe (q : ℚ) : (⊥ : WithBotTop ℚ) ≠ WithBotTop.coe q := (WithBotTop.coe_ne_bot q).symm

@[simp]
theorem top_ne_coe (q : ℚ) : (⊤ : WithBotTop ℚ) ≠ WithBotTop.coe q := (WithBotTop.coe_ne_top q).symm

theorem placeOfInt_inj {m n : Int} : placeOfInt m = placeOfInt n ↔ m = n := by
  rw [placeOfInt, placeOfInt, coe_inj, Int.cast_inj]

theorem place?_eq_none_iff {x : Double} : x.place? = none ↔ x = .nan := by
  rcases x with _ | (_ | _) | _ <;> simp [place?]

theorem natCast_twoTo (n : Nat) : (twoTo n : ℚ) = 2 ^ n := by
  change ((2 ^ n : Nat) : ℚ) = 2 ^ n
  push_cast
  rfl

/-- **A finite number in units of a smaller power of two.** -/
theorem exact_eq_units {negative : Bool} {m : Nat} {e low : Int} (h : low ≤ e) :
    exact negative m e = (signed negative m * twoTo (e - low).toNat : Int) * (2 : ℚ) ^ low := by
  have up : ((e - low).toNat : Int) = e - low := Int.toNat_of_nonneg (by omega)
  have split : (2 : ℚ) ^ e = 2 ^ (e - low).toNat * 2 ^ low := by
    rw [← zpow_natCast, up, ← zpow_add₀ (by norm_num)]
    congr 1
    omega
  rw [exact, split, Int.cast_mul, Int.cast_natCast, natCast_twoTo, mul_assoc]

section Finite

variable {a b : Bool} {m n : Nat} {e f : Int}

theorem lt_finite_iff :
    (finite a m e).lt (finite b n f) = true ↔ exact a m e < exact b n f := by
  rw [exact_eq_units (min_le_left e f), exact_eq_units (min_le_right e f),
    mul_lt_mul_iff_left₀ (by positivity), Int.cast_lt, lt, decide_eq_true_eq]

theorem same_finite_iff :
    (finite a m e).same (finite b n f) = true ↔ exact a m e = exact b n f := by
  have unit_ne_zero : (2 : ℚ) ^ min e f ≠ 0 := by positivity
  rw [exact_eq_units (min_le_left e f), exact_eq_units (min_le_right e f),
    mul_left_inj' unit_ne_zero, Int.cast_inj, same, beq_iff_eq]

end Finite

/-- **Comparing numbers is comparing their places.** -/
theorem lt_iff {x y : Double} :
    x.lt y = true ↔ ∃ p q, x.place? = some p ∧ y.place? = some q ∧ p < q := by
  rcases x with _ | (_ | _) | ⟨a, m, e⟩ <;> rcases y with _ | (_ | _) | ⟨b, n, f⟩
  case finite.finite =>
    rw [lt_finite_iff]
    simp [place?]
  case finite.infinity.false =>
    have below : WithBotTop.coe (exact a m e) < ⊤ := lt_top_iff_ne_top.mpr (WithBotTop.coe_ne_top _)
    simpa [lt, place?] using below
  case infinity.true.finite =>
    have above : ⊥ < WithBotTop.coe (exact b n f) := bot_lt_iff_ne_bot.mpr (WithBotTop.coe_ne_bot _)
    simpa [lt, place?] using above
  all_goals simp [lt, place?]

/-- **Numbers are equal where their places are.** -/
theorem same_iff {x y : Double} :
    x.same y = true ↔ ∃ p, x.place? = some p ∧ y.place? = some p := by
  rcases x with _ | (_ | _) | ⟨a, m, e⟩ <;> rcases y with _ | (_ | _) | ⟨b, n, f⟩
  case finite.finite =>
    rw [same_finite_iff]
    simp [place?, eq_comm]
  all_goals simp [same, place?]

/-! ### Whole numbers -/

theorem signed_mul (negative : Bool) (m k : Nat) :
    signed negative (m * k) = signed negative m * k := by
  cases negative <;> simp [signed]

theorem natAbs_signed (negative : Bool) (m : Nat) : (signed negative m).natAbs = m := by
  cases negative <;> simp [signed]

/-- A number with a power of two as its denominator. -/
theorem exact_mul_twoTo {negative : Bool} {m : Nat} {e : Int} (h : e < 0) :
    exact negative m e * twoTo (-e).toNat = signed negative m := by
  have up : ((-e).toNat : Int) = -e := Int.toNat_of_nonneg (by omega)
  rw [exact, natCast_twoTo, ← zpow_natCast, up, mul_assoc, ← zpow_add₀ (by norm_num)]
  simp

theorem toInt?_finite_iff {negative : Bool} {m : Nat} {e n : Int} :
    (finite negative m e).toInt? = some n ↔ exact negative m e = n := by
  rw [toInt?]
  by_cases whole : 0 ≤ e
  · have value : exact negative m e = (signed negative (m * twoTo e.toNat) : Int) := by
      rw [exact_eq_units whole, signed_mul]
      simp
    rw [if_pos whole, Option.some.injEq, value, Int.cast_inj]
  · have below : e < 0 := by omega
    have some_unit : (twoTo (-e).toNat : ℚ) ≠ 0 := by
      rw [natCast_twoTo]
      positivity
    have value : exact negative m e * twoTo (-e).toNat = signed negative m := exact_mul_twoTo below
    rw [if_neg whole, ← mul_left_inj' some_unit, value]
    -- The denominator is a power of two, which divides the significand or does not.
    split
    · next divides =>
      have parts := Nat.div_add_mod m (twoTo (-e).toNat)
      rw [divides, Nat.add_zero, Nat.mul_comm] at parts
      nth_rewrite 2 [← parts]
      rw [signed_mul, Int.cast_mul, Int.cast_natCast, mul_left_inj' some_unit, Int.cast_inj,
        Option.some.injEq]
    · next not_divides =>
      constructor
      · intro none_found
        cases none_found
      · intro equal
        have multiple : signed negative m = n * twoTo (-e).toNat := by exact_mod_cast equal
        have divides : twoTo (-e).toNat ∣ m := by
          rw [← natAbs_signed negative m, multiple, Int.natAbs_mul, Int.natAbs_natCast]
          exact Nat.dvd_mul_left _ _
        exact absurd (Nat.mod_eq_zero_of_dvd divides) not_divides

/-- **A number equals a whole number where its place is that number.** -/
theorem sameInt_iff {x : Double} {n : Int} :
    x.sameInt n = true ↔ x.place? = some (placeOfInt n) := by
  rw [sameInt, beq_iff_eq, placeOfInt]
  rcases x with _ | (_ | _) | ⟨a, m, e⟩
  case finite =>
    rw [toInt?_finite_iff]
    simp [place?]
  all_goals simp [toInt?, place?]

/-! ### Numbers that are compared -/

/-- Whether a number is less than another or equal to it. -/
def AtMost (x y : Double) : Prop := x.lt y = true ∨ x.same y = true

/-- Whether a number is one. -/
def IsNumber (x : Double) : Prop := ∃ p, x.place? = some p

theorem lt_trans {x y z : Double} (first : x.lt y = true) (second : y.lt z = true) :
    x.lt z = true := by
  obtain ⟨p, q, px, qy, less⟩ := lt_iff.mp first
  obtain ⟨q', r, qy', rz, less'⟩ := lt_iff.mp second
  obtain rfl : q = q' := Option.some.inj (qy.symm.trans qy')
  exact lt_iff.mpr ⟨p, r, px, rz, less.trans less'⟩

theorem AtMost.trans_lt {x y z : Double} (first : x.AtMost y) (second : y.lt z = true) :
    x.lt z = true := by
  rcases first with less | equal
  · exact lt_trans less second
  · obtain ⟨p, px, py⟩ := same_iff.mp equal
    obtain ⟨p', r, py', rz, less⟩ := lt_iff.mp second
    obtain rfl : p = p' := Option.some.inj (py.symm.trans py')
    exact lt_iff.mpr ⟨p, r, px, rz, less⟩

/-- **Any two numbers compare.** -/
theorem IsNumber.atMost_of_not_lt {x y : Double} (hx : x.IsNumber) (hy : y.IsNumber)
    (not_less : x.lt y = false) : y.AtMost x := by
  obtain ⟨p, px⟩ := hx
  obtain ⟨q, qy⟩ := hy
  have le : q ≤ p := by
    by_contra greater
    rw [lt_iff.mpr ⟨p, q, px, qy, not_le.mp greater⟩] at not_less
    cases not_less
  rcases le.lt_or_eq with less | equal
  · exact Or.inl (lt_iff.mpr ⟨q, p, qy, px, less⟩)
  · exact Or.inr (same_iff.mpr ⟨p, equal ▸ qy, px⟩)

theorem IsNumber.atMost_self {x : Double} (h : x.IsNumber) : x.AtMost x := by
  obtain ⟨p, px⟩ := h
  exact Or.inr (same_iff.mpr ⟨p, px, px⟩)

theorem isNumber_infinity (negative : Bool) : (infinity negative).IsNumber := by
  cases negative
  · exact ⟨⊤, rfl⟩
  · exact ⟨⊥, rfl⟩

theorem isNumber_finite (negative : Bool) (m : Nat) (e : Int) : (finite negative m e).IsNumber :=
  ⟨_, rfl⟩

/-- What is nearest to a quotient is a number. -/
theorem isNumber_ofRatio (negative : Bool) (num den : Nat) :
    (ofRatio negative num den).IsNumber := by
  rw [ofRatio]
  split
  · exact isNumber_finite _ _ _
  · extract_lets exponent s rounded carried
    split
    · exact isNumber_infinity negative
    · exact isNumber_finite _ _ _

end TradeJournal.Double
