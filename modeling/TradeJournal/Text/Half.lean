/-!
# Halves of pairs

Some formats count in units of sixteen bits, and a character outside the basic plane takes a pair of
them: a high half and a low one. Such a format can also name a half that stands alone. That half is
no character, and still a text that was read from there has to keep it. So some characters stand in
for halves. Such a one counts as one character, is never printable, and cannot be encoded as bytes.

Which characters these are is a convention. The program's readers use private characters of the last
plane, the ones with the same last four hexadecimal digits, which then cannot stand for themselves.
Where texts have no halves that stand alone, no character need be given up.
-/

namespace TradeJournal.Text

/-- Whether a unit is half of a pair. -/
def isHalf (unit : Nat) : Bool := 0xD800 ≤ unit && unit < 0xE000

/-- How far a half is from the character that holds it. -/
def halfDistance : Nat := 0x100000

/-- **The character for a code**, which may be that of a half. -/
def charOfCode (code : Nat) : Char :=
  Char.ofNat (if isHalf code then halfDistance + code else code)

/-- **The half that a character of the last plane holds**, if it holds one. -/
def half? (c : Char) : Option Nat :=
  let unit := c.toNat - halfDistance
  if halfDistance ≤ c.toNat ∧ isHalf unit then some unit else none

/-- **A half is found again in the character that holds it.** -/
theorem half?_charOfCode {unit : Nat} (h : isHalf unit = true) :
    half? (charOfCode unit) = some unit := by
  have bounds : 0xD800 ≤ unit ∧ unit < 0xE000 := by simpa [isHalf] using h
  have valid : (halfDistance + unit).isValidChar := by
    unfold halfDistance Nat.isValidChar
    omega
  have code : (charOfCode unit).toNat = halfDistance + unit := by
    rw [charOfCode, if_pos h, Char.ofNat, dif_pos valid]
    rfl
  simp [half?, code, h]

/-- **A convention on halves**: which half a character stands in for, if it does. The characters of
the plain alphabet stand for themselves. -/
structure HalfCoding where
  half? : Char → Option Nat
  plain : ∀ c : Char, c.toNat < 128 → half? c = none

namespace HalfCoding

/-- **The convention of the readers**: private characters of the last plane. -/
def lastPlane : HalfCoding where
  half? := Text.half?
  plain c low := by
    have below : ¬halfDistance ≤ c.toNat := by
      unfold halfDistance
      omega
    simp [Text.half?, below]

/-- **The convention without stand-ins**: there are no halves, and every character is itself. -/
def whole : HalfCoding where
  half? _ := none
  plain _ _ := rfl

end HalfCoding

/-! ### Pairs -/

/-- **Units as characters**: a high half and the low half behind it make one character. -/
def joinUnits : List Nat → List Char
  | [] => []
  | high :: low :: rest =>
    if 0xD800 ≤ high ∧ high < 0xDC00 ∧ 0xDC00 ≤ low ∧ low < 0xE000 then
      Char.ofNat (0x10000 + (high - 0xD800) * 0x400 + (low - 0xDC00)) :: joinUnits rest
    else charOfCode high :: joinUnits (low :: rest)
  | [unit] => [charOfCode unit]

/-! ### Finding halves -/

/-- **Halves in a text**: where the first ones stand, side by side. -/
structure Halves where
  first : Nat
  last : Nat
  /-- The first of them. -/
  unit : Nat
  deriving DecidableEq, Repr

variable (coding : HalfCoding)

/-- The halves that stand first in a text, from a position on. -/
def halvesFrom? (position : Nat) : List Char → Option Halves
  | [] => none
  | c :: rest =>
    match coding.half? c with
    | some unit =>
      let more := rest.takeWhile fun c => (coding.half? c).isSome
      some ⟨position, position + more.length, unit⟩
    | none => halvesFrom? (position + 1) rest

/-- **The halves that stand first in a text**, if it holds any. -/
def halves? (s : List Char) : Option Halves := halvesFrom? coding 0 s

theorem halvesFrom?_eq_none_iff (position : Nat) (s : List Char) :
    halvesFrom? coding position s = none ↔ ∀ c ∈ s, coding.half? c = none := by
  induction s generalizing position with
  | nil => simp [halvesFrom?]
  | cons c rest ih =>
    cases found : coding.half? c with
    | none => simp [halvesFrom?, found, ih]
    | some unit => simp [halvesFrom?, found]

/-- **A text is free of halves when none of its characters stands in for one.** -/
theorem halves?_eq_none_iff (s : List Char) :
    halves? coding s = none ↔ ∀ c ∈ s, coding.half? c = none :=
  halvesFrom?_eq_none_iff coding 0 s

end TradeJournal.Text
