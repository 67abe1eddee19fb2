import TradeJournal.Number.Digits
import TradeJournal.Number.Double
import TradeJournal.Number.Power

/-!
# The shortest decimal that reads back

A binary number is written with the fewest decimal digits that round back to it, and of
the decimals of that length with the one nearest to it. The decimals that round to a number
fill an interval around it, which reaches halfway to its two neighbours and includes its ends
when the significand is even. On the grid of decimals with a given last place only the two
neighbours of the number matter: if any grid point lies in the interval, one of these does.
-/

namespace TradeJournal.Double

/-- **The interval of decimals that read back**, with the number itself, all in units of a
quarter of the last binary place: low end, number, high end. -/
def readBack (significand : Nat) (exponent : Int) : Nat × Nat × Nat :=
  let closer := significand = Number.twoTo 52 ∧ minExponent < exponent
  (if closer then 4 * significand - 1 else 4 * significand - 2, 4 * significand,
    4 * significand + 2)

/-- A decimal: its digits as one number, and the power of ten that scales it. -/
structure Decimal where
  digits : Nat
  place : Int
  deriving DecidableEq, Repr

/-- **The decimal on one grid that reads back**, the nearer of two, the even one when they
are equally near. -/
def onGrid (significand : Nat) (exponent : Int) (place : Int) : Option Decimal :=
  let scaleUp := Number.twoTo (exponent - 2).toNat * Number.tenTo (-place).toNat
  let unit := Number.twoTo (2 - exponent).toNat * Number.tenTo place.toNat
  let interval := readBack significand exponent
  let low := interval.1 * scaleUp
  let value := interval.2.1 * scaleUp
  let high := interval.2.2 * scaleUp
  let readsBack (n : Nat) : Bool :=
    if significand % 2 = 0 then low ≤ n * unit ∧ n * unit ≤ high
    else low < n * unit ∧ n * unit < high
  let below := value / unit
  let rest := value % unit
  let nearerBelow := if 2 * rest = unit then below % 2 = 0 else 2 * rest < unit
  if readsBack below ∧ (nearerBelow ∨ ¬ readsBack (below + 1)) then some ⟨below, place⟩
  else if readsBack (below + 1) then some ⟨below + 1, place⟩
  else none

/-- The exponent of ten of a positive number: it has that many digits after its first one
before the point. -/
def exponentOfTen (significand : Nat) (exponent : Int) : Int :=
  let s := scaled significand 1 (-exponent)
  if s.2 ≤ s.1 then (Number.digitCount (s.1 / s.2) : Int) - 1
  else -(Number.digitCount ((s.2 + s.1 - 1) / s.1 - 1) : Int)

/-- Trailing zeros of a decimal moved into its place. -/
def dropZeros : Nat → Decimal → Decimal
  | 0, d => d
  | fuel + 1, d =>
    if d.digits ≠ 0 ∧ d.digits % 10 = 0 then dropZeros fuel ⟨d.digits / 10, d.place + 1⟩ else d

/-- **The shortest decimal that reads back**: the first hit on the grids of one digit, two
digits and so on; seventeen are always enough. -/
def shortest (significand : Nat) (exponent : Int) : Decimal :=
  let top := exponentOfTen significand exponent
  let found := (List.range 17).findSome? fun (k : Nat) => onGrid significand exponent (top - k)
  dropZeros 17 (found.getD ⟨significand, 0⟩)

/-- **The text of a decimal**: positional when its exponent of ten is from -4 to 15, with a
fraction in any case; otherwise one digit before the point and an exponent of at least two
digits. -/
def decimalText (d : Decimal) : List Char :=
  let ds := Number.digits d.digits
  let point : Int := ds.length + d.place
  if -4 < point ∧ point ≤ 16 then
    if point ≤ 0 then '0' :: '.' :: List.replicate (-point).toNat '0' ++ ds
    else if d.place ≥ 0 then ds ++ List.replicate d.place.toNat '0' ++ ['.', '0']
    else ds.take point.toNat ++ '.' :: ds.drop point.toNat
  else
    let size := Number.digits (point - 1).natAbs
    let fraction := if ds.length ≤ 1 then [] else '.' :: ds.drop 1
    ds.take 1 ++ fraction ++ 'e' :: (if point - 1 < 0 then '-' else '+')
      :: (if size.length < 2 then '0' :: size else size)

/-- **The text of a number.** -/
def text : Double → List Char
  | .nan => ['n', 'a', 'n']
  | .infinity negative => if negative then ['-', 'i', 'n', 'f'] else ['i', 'n', 'f']
  | .finite negative m e =>
    (if negative then ['-'] else []) ++
      (if m = 0 then ['0', '.', '0'] else decimalText (shortest m e))

end TradeJournal.Double
