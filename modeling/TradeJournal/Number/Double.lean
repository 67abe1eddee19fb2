import TradeJournal.Number.Power
import TradeJournal.Number.Rounding

/-!
# Binary floating-point numbers

A `Double` is a number of the 64-bit binary format: a significand below `2 ^ 53`, scaled by a
power of two between `2 ^ -1074` and `2 ^ 971`, or an infinity, or not a number. Zero keeps
its sign. The format is modelled by its values: `ofRatio` rounds an exact quotient to
the nearest of them, and comparisons are exact.
-/

namespace TradeJournal

/-- **A binary floating-point number.** A finite one has the value `significand * 2 ^ exponent`
with its sign; each value has one representation, the one with the smallest exponent that
keeps the significand below `2 ^ 53`. -/
inductive Double
  | nan
  | infinity (negative : Bool)
  | finite (negative : Bool) (significand : Nat) (exponent : Int)
  deriving DecidableEq, Repr, Inhabited

namespace Double

open Number (twoTo)

/-- The exponent of the smallest positive number. -/
def minExponent : Int := -1074

/-- The exponent of the largest numbers. -/
def maxExponent : Int := 971

/-- Zero with a sign. -/
def zero (negative : Bool) : Double := .finite negative 0 minExponent

/-- A quotient scaled by a power of two: `num / den / 2 ^ exponent` as a quotient. -/
def scaled (num den : Nat) (exponent : Int) : Nat × Nat :=
  if exponent < 0 then (num * twoTo (-exponent).toNat, den) else (num, den * twoTo exponent.toNat)

/-- The exponent at which a positive quotient has a significand of 53 bits, unless that
is below the least exponent. -/
def exponentFor (num den : Nat) : Int :=
  let guess : Int := (num.log2 : Int) - den.log2 - 53
  let s := scaled num den guess
  let exact := if s.1 / s.2 < twoTo 53 then guess else guess + 1
  max exact minExponent

/-- **The number nearest to a quotient**, of two equally near ones that with the even
significand; infinite when the significand would need an exponent above the largest. -/
def ofRatio (negative : Bool) (num den : Nat) : Double :=
  if num = 0 then zero negative
  else
    let exponent := exponentFor num den
    let s := scaled num den exponent
    let rounded := Number.roundQuotient s.1 s.2
    let carried := if rounded < twoTo 53 then (rounded, exponent) else (rounded / 2, exponent + 1)
    if maxExponent < carried.2 then .infinity negative else .finite negative carried.1 carried.2

/-- The number nearest to a whole number. -/
def ofInt (n : Int) : Double := ofRatio (n < 0) n.natAbs 1

/-- The opposite number. -/
def neg : Double → Double
  | .nan => .nan
  | .infinity negative => .infinity !negative
  | .finite negative m e => .finite (!negative) m e

/-- The significand of a finite number over a common power of two, with its sign. -/
def signed (negative : Bool) (m : Nat) : Int := if negative then -(m : Int) else m

/-- The number nearest to a whole number of units, each of a power of two. -/
def ofUnits (n : Int) (exponent : Int) : Double :=
  ofRatio (n < 0) (n.natAbs * twoTo exponent.toNat) (twoTo (-exponent).toNat)

/-- **The rounded sum**; opposite numbers add up to zero without a sign. -/
def add : Double → Double → Double
  | .nan, _ | _, .nan => .nan
  | .infinity a, .infinity b => if a = b then .infinity a else .nan
  | .infinity a, .finite .. | .finite .., .infinity a => .infinity a
  | .finite a m e, .finite b n f =>
    let low := min e f
    if m = 0 ∧ n = 0 ∧ a ∧ b then zero true
    else ofUnits (signed a m * twoTo (e - low).toNat + signed b n * twoTo (f - low).toNat) low

/-- **The rounded product.** -/
def mul : Double → Double → Double
  | .nan, _ | _, .nan => .nan
  | .infinity a, .infinity b => .infinity (a != b)
  | .infinity a, .finite b n _ | .finite b n _, .infinity a =>
    if n = 0 then .nan else .infinity (a != b)
  | .finite a m e, .finite b n f =>
    ofRatio (a != b) (m * n * twoTo (e + f).toNat) (twoTo (-(e + f)).toNat)

/-- **The order of numbers**; nothing is below or above what is not a number. -/
def lt : Double → Double → Bool
  | .nan, _ | _, .nan => false
  | .infinity a, .infinity b => a && !b
  | .infinity a, .finite .. => a
  | .finite .., .infinity b => !b
  | .finite a m e, .finite b n f =>
    let low := min e f
    signed a m * twoTo (e - low).toNat < signed b n * twoTo (f - low).toNat

/-- **Equality of values**: both zeros are equal, and what is not a number equals nothing. -/
def same : Double → Double → Bool
  | .nan, _ | _, .nan => false
  | .infinity a, .infinity b => a == b
  | .infinity _, .finite .. | .finite .., .infinity _ => false
  | .finite a m e, .finite b n f =>
    let low := min e f
    signed a m * twoTo (e - low).toNat == signed b n * twoTo (f - low).toNat

/-- Whether a number is zero. -/
def isZero : Double → Bool
  | .finite _ m _ => m == 0
  | _ => false

/-- The whole number that a number is equal to, if it is one. -/
def toInt? : Double → Option Int
  | .finite negative m e =>
    if 0 ≤ e then some (signed negative (m * twoTo e.toNat))
    else if m % twoTo (-e).toNat = 0 then some (signed negative (m / twoTo (-e).toNat))
    else none
  | _ => none

/-- Whether a number has the value of a whole number. -/
def sameInt (x : Double) (n : Int) : Bool := x.toInt? == some n

end Double

end TradeJournal
