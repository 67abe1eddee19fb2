import TradeJournal.Number.Digits
import TradeJournal.Number.Double

/-!
# Six decimal places

A number with exactly six digits after the point, rounded from its exact value, a half
going to the even neighbour.
-/

namespace TradeJournal.Double

/-- The number of millionths nearest to a finite number's size. -/
def millionths (significand : Nat) (exponent : Int) : Nat :=
  let s := scaled (significand * 1_000_000) 1 (-exponent)
  Number.roundQuotient s.1 s.2

/-- **The text of a number to six places.** -/
def fixedText : Double → List Char
  | .nan => ['n', 'a', 'n']
  | .infinity negative => if negative then ['-', 'i', 'n', 'f'] else ['i', 'n', 'f']
  | .finite negative m e =>
    let n := millionths m e
    (if negative then ['-'] else []) ++ Number.digits (n / 1_000_000) ++
      '.' :: Number.lastDigits 6 n

end TradeJournal.Double
