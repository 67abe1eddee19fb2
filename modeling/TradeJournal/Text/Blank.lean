/-!
# Blanks and trimming

Twenty-nine characters count as **blank**: the controls that move the cursor, the four
information separators, and the separators of the Unicode character database. Zero-width
characters are none of them. Trimming removes blanks at the ends of a text, and a text
falls into words at its blanks.
-/

namespace TradeJournal.Text

/-- Whether a character is blank. -/
def isBlank (c : Char) : Bool :=
  let n := c.toNat
  (9 ≤ n && n ≤ 13) || (28 ≤ n && n ≤ 32) || n == 0x85 || n == 0xA0 || n == 0x1680
    || (0x2000 ≤ n && n ≤ 0x200A) || n == 0x2028 || n == 0x2029 || n == 0x202F
    || n == 0x205F || n == 0x3000

/-- The text without the blanks at its start. -/
def trimStart (s : List Char) : List Char := s.dropWhile isBlank

/-- The text without the blanks at its end. -/
def trimEnd : List Char → List Char
  | [] => []
  | c :: rest =>
    match trimEnd rest with
    | [] => if isBlank c then [] else [c]
    | kept => c :: kept

/-- The text without the blanks at either end. -/
def trim (s : List Char) : List Char := trimEnd (trimStart s)

/-- Whether a text has no character but blanks. -/
def allBlank (s : List Char) : Bool := s.all isBlank

/-- The part of a text after its last blank; all of it when it has none. -/
def lastWord : List Char → List Char
  | [] => []
  | c :: rest => if rest.any isBlank then lastWord rest else if isBlank c then rest else c :: rest

/-- **Splitting at a class of characters**: the non-empty stretches between separators. The
first argument is the stretch read so far, in reverse. -/
def splitAtClassFrom (separates : Char → Bool) (current : List Char) :
    List Char → List (List Char)
  | [] => if current.isEmpty then [] else [current.reverse]
  | c :: rest =>
    if separates c then
      if current.isEmpty then splitAtClassFrom separates [] rest
      else current.reverse :: splitAtClassFrom separates [] rest
    else splitAtClassFrom separates (c :: current) rest

/-- The words of a text, separated by blanks. -/
def words (s : List Char) : List (List Char) := splitAtClassFrom isBlank [] s

/-! ### How trimming acts -/

theorem trimEnd_of_allBlank {s : List Char} (h : allBlank s = true) : trimEnd s = [] := by
  induction s with
  | nil => rfl
  | cons c rest ih =>
    simp only [allBlank, List.all_cons, Bool.and_eq_true] at h
    simp [trimEnd, ih h.2, h.1]

/-- Trimming loses blanks only: what is removed at the end is blank. -/
theorem exists_trimEnd_append (s : List Char) :
    ∃ tail, allBlank tail = true ∧ trimEnd s ++ tail = s := by
  induction s with
  | nil => exact ⟨[], rfl, rfl⟩
  | cons c rest ih =>
    obtain ⟨tail, blank, whole⟩ := ih
    rw [trimEnd]
    split
    · next kept =>
      rw [kept, List.nil_append] at whole
      split
      · next first =>
          exact ⟨c :: tail, by rw [allBlank, List.all_cons, first]; exact blank, by rw [whole]; rfl⟩
      · exact ⟨tail, blank, by rw [whole]; rfl⟩
    · exact ⟨tail, blank, by rw [List.cons_append, whole]⟩

end TradeJournal.Text
