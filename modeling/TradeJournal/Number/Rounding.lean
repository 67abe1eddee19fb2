/-!
# Rounding a quotient

Numbers are rounded once, from their exact value, and a value halfway between two
candidates goes to the even one. Everything here is exact arithmetic on natural numbers.
-/

namespace TradeJournal.Number

/-- **The nearest whole number to a quotient**, a half going to the even neighbour. -/
def roundQuotient (num den : Nat) : Nat :=
  let q := num / den
  let twice := 2 * (num % den)
  if twice < den then q
  else if den < twice then q + 1
  else if q % 2 = 0 then q else q + 1

/-- A quotient without remainder is its own rounding. -/
theorem roundQuotient_mul (n : Nat) {den : Nat} (h : 0 < den) :
    roundQuotient (n * den) den = n := by
  have remainder : n * den % den = 0 := Nat.mul_mod_left n den
  have quotient : n * den / den = n := Nat.mul_div_cancel n h
  simp [roundQuotient, remainder, quotient, h]

end TradeJournal.Number
