/-!
# Decimal digits

Whole numbers as decimal text, padding, and reading digits back.
-/

namespace TradeJournal.Number

/-- A decimal digit. -/
def digitChar (n : Nat) : Char := Char.ofNat (48 + n % 10)

/-- **The decimal digits of a number**, without leading zeros; zero is one digit. -/
def digits (n : Nat) : List Char := Nat.toDigits 10 n

/-- The decimal text of a whole number. -/
def intText (n : Int) : List Char :=
  if n < 0 then '-' :: digits n.natAbs else digits n.natAbs

/-- The last `width` decimal digits of a number. -/
def lastDigits : Nat → Nat → List Char
  | 0, _ => []
  | width + 1, n => lastDigits width (n / 10) ++ [digitChar n]

/-- The number that a string of ASCII digits denotes. -/
def ofDigits (s : List Char) : Nat := s.foldl (fun n c => 10 * n + (c.toNat - 48)) 0

/-- The number of decimal digits of a positive number. -/
def digitCount (n : Nat) : Nat := (digits n).length

end TradeJournal.Number
