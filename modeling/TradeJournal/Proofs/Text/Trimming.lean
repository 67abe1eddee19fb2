import TradeJournal.Text.Blank

/-!
# Trimming and the last word

A trimmed text is the text without blanks on either side, and the last word of a text is what its
last blank is followed by. Both are said here by how the parts make up the whole, which is what a
reader that goes through a text piece by piece can use.
-/

namespace TradeJournal.Text

/-! ### Blanks -/

/-- The characters that are blank, by their codes. -/
def blankCodes : List Nat :=
  [0x9, 0xA, 0xB, 0xC, 0xD, 0x1C, 0x1D, 0x1E, 0x1F, 0x20, 0x85, 0xA0, 0x1680, 0x2000, 0x2001,
    0x2002, 0x2003,
    0x2004, 0x2005, 0x2006, 0x2007, 0x2008, 0x2009, 0x200A, 0x2028, 0x2029, 0x202F, 0x205F, 0x3000]

/-- **What holds of these characters** holds of every blank. -/
theorem forall_blank {p : Char → Prop} (each : ∀ n ∈ blankCodes, p (Char.ofNat n)) {c : Char}
    (blank : isBlank c = true) : p c := by
  have listed : c.toNat ∈ blankCodes := by
    simp only [isBlank, Bool.or_eq_true, Bool.and_eq_true, decide_eq_true_eq, beq_iff_eq] at blank
    simp only [blankCodes, List.mem_cons, List.not_mem_nil, or_false]
    omega
  rw [← Char.ofNat_toNat c]
  exact each c.toNat listed

/-! ### What is trimmed, and the last word -/

/-- Trimming loses blanks only: what is removed at the start is blank. -/
theorem exists_append_trimStart (s : List Char) :
    ∃ lead, allBlank lead = true ∧ lead ++ trimStart s = s :=
  ⟨s.takeWhile isBlank, List.all_takeWhile, List.takeWhile_append_dropWhile⟩

/-- **A text is its trimmed form between blanks.** -/
theorem exists_append_trim_append (s : List Char) :
    ∃ lead tail, allBlank lead = true ∧ allBlank tail = true ∧ lead ++ (trim s ++ tail) = s := by
  obtain ⟨lead, blank, whole⟩ := exists_append_trimStart s
  obtain ⟨tail, blank', whole'⟩ := exists_trimEnd_append (trimStart s)
  exact ⟨lead, tail, blank, blank', by rw [trim, whole', whole]⟩

/-- **Nothing is left of a text** when it has no character but blanks. -/
theorem trim_eq_nil_iff {s : List Char} : trim s = [] ↔ allBlank s = true := by
  constructor
  · intro nothing
    obtain ⟨lead, tail, blank, blank', whole⟩ := exists_append_trim_append s
    rw [nothing, List.nil_append] at whole
    rw [← whole, allBlank, List.all_append]
    exact Bool.and_eq_true_iff.mpr ⟨blank, blank'⟩
  · intro blank
    obtain ⟨lead, _, whole⟩ := exists_append_trimStart s
    have kept : allBlank (trimStart s) = true := by
      rw [← whole, allBlank, List.all_append] at blank
      exact (Bool.and_eq_true_iff.mp blank).2
    rw [trim, trimEnd_of_allBlank kept]

/-- No blank stands in the last word. -/
theorem lastWord_solid (s : List Char) : ∀ c ∈ lastWord s, isBlank c = false := by
  induction s with
  | nil => simp [lastWord]
  | cons c rest ih =>
    rw [lastWord]
    split
    · exact ih
    · next no_blank =>
      have solid : ∀ d ∈ rest, isBlank d = false := by simpa using no_blank
      split
      · exact solid
      · next not_blank => exact List.forall_mem_cons.mpr ⟨by simpa using not_blank, solid⟩

/-- **The last word ends the text**, and stands after a blank if it is not the whole text. -/
theorem exists_append_lastWord (s : List Char) :
    ∃ head, head ++ lastWord s = s ∧ ∀ c ∈ head.getLast?, isBlank c = true := by
  induction s with
  | nil => exact ⟨[], rfl, by simp⟩
  | cons c rest ih =>
    rw [lastWord]
    split
    · next some_blank =>
      obtain ⟨head, whole, ends⟩ := ih
      have some_head : head ≠ [] := by
        rintro rfl
        obtain ⟨d, member, blank⟩ := List.any_eq_true.mp some_blank
        rw [List.nil_append] at whole
        rw [lastWord_solid rest d (whole.symm ▸ member)] at blank
        cases blank
      refine ⟨c :: head, by rw [List.cons_append, whole], ?_⟩
      rw [List.getLast?_cons_of_ne_nil some_head]
      exact ends
    · split
      · next blank => exact ⟨[c], rfl, by simpa using blank⟩
      · exact ⟨[], rfl, by simp⟩

/-! ### The end of a text -/

/-- No blank stands at the end of a text that is trimmed there. -/
theorem trimEnd_ends (s : List Char) : ∀ c ∈ (trimEnd s).getLast?, isBlank c = false := by
  induction s with
  | nil => simp [trimEnd]
  | cons c rest ih =>
    rw [trimEnd]
    split
    · split
      · simp
      · next not_blank => simpa using not_blank
    · next some_kept =>
      rw [List.getLast?_cons_of_ne_nil some_kept]
      exact ih

/-- **A text is cut off behind its last character that is not blank.** -/
theorem trimEnd_append {s tail : List Char} (ends : ∀ c ∈ s.getLast?, isBlank c = false)
    (blank : allBlank tail = true) : trimEnd (s ++ tail) = s := by
  induction s with
  | nil => exact trimEnd_of_allBlank blank
  | cons c rest ih =>
    rw [List.cons_append, trimEnd]
    cases rest with
    | nil =>
      have own : isBlank c = false := ends c rfl
      rw [List.nil_append, trimEnd_of_allBlank blank]
      simp [own]
    | cons d rest =>
      rw [List.getLast?_cons_cons] at ends
      rw [ih ends]

/-! ### Trimmed texts -/

/-- No blank stands at the start of a trimmed text. -/
theorem trim_starts (s : List Char) : ∀ c ∈ (trim s).head?, isBlank c = false := by
  intro c first
  obtain ⟨tail, -, whole⟩ := exists_trimEnd_append (trimStart s)
  have kept : (trimStart s).head? = some c := by
    rw [← whole, List.head?_append]
    exact congrArg (Option.or · _) first
  have stops := List.head?_dropWhile_not isBlank s
  rw [trimStart] at kept
  rw [kept] at stops
  simpa using stops

/-- **A trimmed text has nothing to trim.** -/
theorem trim_trim (s : List Char) : trim (trim s) = trim s := by
  have start : trimStart (trim s) = trim s := by
    have starts := trim_starts s
    rw [trimStart]
    cases trimmed : trim s with
    | nil => rfl
    | cons c rest =>
      rw [trimmed] at starts
      rw [List.dropWhile_cons_of_neg (by simp [starts c rfl])]
  have ends : trimEnd (trim s ++ []) = trim s := trimEnd_append (trimEnd_ends (trimStart s)) rfl
  rw [List.append_nil] at ends
  rw [trim, start, ends]

/-! ### Finding the last word -/

/-- **The last word is found** where it stands: behind a blank or at the start. -/
theorem lastWord_append {head last : List Char} (solid : ∀ c ∈ last, isBlank c = false)
    (apart : ∀ c ∈ head.getLast?, isBlank c = true) : lastWord (head ++ last) = last := by
  have no_blank : last.any isBlank = false := by simpa using solid
  induction head with
  | nil =>
    cases last with
    | nil => rfl
    | cons c rest =>
      obtain ⟨own, others⟩ := List.forall_mem_cons.mp solid
      rw [List.any_cons, own, Bool.false_or] at no_blank
      rw [List.nil_append, lastWord, no_blank, own]
      rfl
  | cons c rest ih =>
    rw [List.cons_append, lastWord]
    cases rest with
    | nil =>
      have own : isBlank c = true := apart c rfl
      rw [List.nil_append, no_blank, own]
      rfl
    | cons d rest =>
      rw [List.getLast?_cons_cons] at apart
      have some_blank : (d :: rest ++ last).any isBlank = true := by
        rw [List.any_eq_true]
        obtain ⟨b, is_last⟩ : ∃ b, (d :: rest).getLast? = some b :=
          ⟨_, List.getLast?_eq_some_getLast (List.cons_ne_nil d rest)⟩
        exact ⟨b, List.mem_append_left _ (List.mem_of_getLast? is_last), apart b is_last⟩
      rw [if_pos some_blank]
      exact ih apart

end TradeJournal.Text
