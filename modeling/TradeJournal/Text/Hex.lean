/-!
# Hexadecimal digits

Numbers as messages and escapes spell them: in base sixteen, in lower case, with a fixed width.
-/

namespace TradeJournal.Text

/-- A digit below sixteen. -/
def hexDigit (n : Nat) : Char := if n < 10 then Char.ofNat (48 + n) else Char.ofNat (87 + n)

/-- **The last `width` digits of a number.** -/
def hexDigits : Nat → Nat → List Char
  | 0, _ => []
  | width + 1, n => hexDigits width (n / 16) ++ [hexDigit (n % 16)]

end TradeJournal.Text
