import TradeJournal.Number.Digits
import TradeJournal.Number.Power
import TradeJournal.Number.Rounding

/-!
# Decimals of limited precision

A decimal is read exactly, however many digits it has. What is computed from it has at most
`precision` significant digits: further ones are rounded away, a half going to the even neighbour.
A whole part with more digits than that cannot be split off.
-/

namespace TradeJournal.Number

/-- **A decimal**: a number and the count of its digits after the point. -/
structure Decimal where
  unscaled : Nat
  places : Nat
  deriving DecidableEq, Repr

namespace Decimal

/-- The most significant digits that a computed decimal has. -/
def precision : Nat := 28

/-- The whole part. -/
def whole (d : Decimal) : Nat := d.unscaled / tenTo d.places

/-- Whether the number is above a whole number. -/
def above (d : Decimal) (n : Nat) : Bool := n * tenTo d.places < d.unscaled

/-- Whether the number is below a whole number. -/
def below (d : Decimal) (n : Nat) : Bool := d.unscaled < n * tenTo d.places

/-- **The number with at most `precision` significant digits.** -/
def rounded (d : Decimal) : Decimal :=
  let excess := digitCount d.unscaled - precision
  ⟨roundQuotient d.unscaled (tenTo excess) * tenTo (excess - d.places), d.places - excess⟩

/-- A whole number of times the number. -/
def times (n : Nat) (d : Decimal) : Decimal := rounded ⟨n * d.unscaled, d.places⟩

/-- **What is behind the point**; none when the whole part has too many digits. -/
def fraction? (d : Decimal) : Option Decimal :=
  if tenTo precision ≤ d.whole then none else some (rounded ⟨d.unscaled % tenTo d.places, d.places⟩)

end Decimal

end TradeJournal.Number
