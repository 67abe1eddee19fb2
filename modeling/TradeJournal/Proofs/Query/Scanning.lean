import TradeJournal.Proofs.Query.Grammar
import TradeJournal.Proofs.Tag.Canonical
import TradeJournal.Proofs.Text.Trimming

/-!
# Scanning piece by piece

Blanks and parentheses delimit words, and a word never runs over a delimiter. So a text may be
scanned piece by piece when it is cut next to delimiters (`Token.scan_append`), and what
remains is what a single word gives: the canonical spelling of a tag gives that tag.

The pieces that queries are written from are scanned here: groups, negations, and operands
with a connective between them.
-/

namespace TradeJournal.Query

/-- The word for a connective. -/
def Connective.word : Connective → List Char
  | .and => ['A', 'N', 'D']
  | .or => ['O', 'R']

/-- What is written between two operands. -/
def Connective.separator (c : Connective) : List Char := ' ' :: c.word ++ [' ']

/-- Whether a character ends the word before it. -/
def Delimits (c : Char) : Prop := c = '(' ∨ c = ')' ∨ Text.isBlank c = true

/-- Whether a text begins with a delimiter, if with anything. -/
def Breaks (text : List Char) : Prop := ∀ c ∈ text.head?, Delimits c

theorem breaks_cons {c : Char} {rest : List Char} : Breaks (c :: rest) ↔ Delimits c := by
  simp [Breaks]

theorem delimits_blank : Delimits ' ' := Or.inr (Or.inr rfl)

theorem breaks_blank {rest : List Char} : Breaks (' ' :: rest) := breaks_cons.mpr delimits_blank

theorem breaks_of_allBlank {blanks : List Char} (blank : Text.allBlank blanks = true) :
    Breaks blanks := by
  intro c first
  exact Or.inr (Or.inr (List.all_eq_true.mp blank c (List.mem_of_head? first)))

theorem Breaks.append {text : List Char} (breaks : Breaks text) (some_text : text ≠ [])
    (rest : List Char) :
    Breaks (text ++ rest) := by
  cases text with
  | nil => exact absurd rfl some_text
  | cons c text => exact breaks

namespace Token

/-- The token of a delimiter; none of a blank. -/
def ofDelimiter (c : Char) : List Token :=
  if c = '(' then [.opening] else if c = ')' then [.closing] else []

theorem ofWord?_nil : ofWord? [] = none := rfl

/-! ### Cutting at delimiters -/

/-- A delimiter ends the word before it. -/
theorem scanFrom_of_delimits {c : Char} (delimits : Delimits c) (word rest : List Char) :
    scanFrom word (c :: rest) = (ofWord? word.reverse).toList ++ (ofDelimiter c ++ scan rest) := by
  rw [scanFrom, ofDelimiter]
  split
  · rfl
  · split
    · rfl
    · next not_opening not_closing =>
      have blank : Text.isBlank c = true := by
        rcases delimits with rfl | rfl | blank
        · exact absurd rfl not_opening
        · exact absurd rfl not_closing
        · exact blank
      rw [if_pos blank]
      rfl

/-- Any other character goes on the word before it. -/
theorem scanFrom_of_not_delimits {c : Char} (goes_on : ¬Delimits c) (word rest : List Char) :
    scanFrom word (c :: rest) = scanFrom (c :: word) rest := by
  simp only [Delimits, not_or, Bool.not_eq_true] at goes_on
  obtain ⟨not_opening, not_closing, not_blank⟩ := goes_on
  rw [scanFrom, if_neg not_opening, if_neg not_closing, not_blank]
  rfl

/-- A delimiter is scanned on its own where no word is before it. -/
theorem scan_cons {c : Char} (delimits : Delimits c) (rest : List Char) :
    scan (c :: rest) = ofDelimiter c ++ scan rest := by
  rw [scan, scanFrom_of_delimits delimits]
  simp [ofWord?_nil]

theorem scanFrom_append {second : List Char} (breaks : Breaks second) (word first : List Char) :
    scanFrom word (first ++ second) = scanFrom word first ++ scan second := by
  -- The word read so far is arbitrary: it is cut off by the first delimiter, or goes on.
  induction first generalizing word with
  | nil =>
    cases second with
    | nil => simp [scan, scanFrom, ofWord?_nil]
    | cons c rest =>
      have delimits := breaks_cons.mp breaks
      rw [List.nil_append, scanFrom_of_delimits delimits, scan_cons delimits, scanFrom]
  | cons c rest ih =>
    rw [List.cons_append]
    by_cases delimits : Delimits c
    · rw [scanFrom_of_delimits delimits, scanFrom_of_delimits delimits, scan, ih, ← scan]
      simp
    · rw [scanFrom_of_not_delimits delimits, scanFrom_of_not_delimits delimits, ih]

/-- **A text is scanned piece by piece** when it is cut before a delimiter. -/
theorem scan_append {first second : List Char} (breaks : Breaks second) :
    scan (first ++ second) = scan first ++ scan second := scanFrom_append breaks [] first

/-- A text is also scanned piece by piece when it is cut after a delimiter. -/
theorem scan_append_of_ends {first : List Char} (ends : ∀ c ∈ first.getLast?, Delimits c)
    (second : List Char) : scan (first ++ second) = scan first ++ scan second := by
  rcases List.eq_nil_or_concat first with rfl | ⟨init, c, rfl⟩
  · rfl
  · have delimits : Delimits c := ends c (by simp)
    rw [List.concat_eq_append, List.append_assoc, List.singleton_append,
      scan_append (breaks_cons.mpr delimits), scan_append (breaks_cons.mpr delimits),
      scan_cons delimits, scan_cons delimits [], List.append_assoc, List.append_assoc]
    rfl

/-! ### Blanks -/

/-- Blanks are scanned to nothing. -/
theorem scan_blanks {blanks : List Char} (blank : Text.allBlank blanks = true) :
    scan blanks = [] := by
  induction blanks with
  | nil => rfl
  | cons c rest ih =>
    rw [Text.allBlank, List.all_cons, Bool.and_eq_true] at blank
    have not_parenthesis : ofDelimiter c = [] := by
      have other : c ≠ '(' ∧ c ≠ ')' := by
        constructor <;> (rintro rfl; simp [Text.isBlank] at blank)
      rw [ofDelimiter, if_neg other.1, if_neg other.2]
    rw [scan_cons (Or.inr (Or.inr blank.1)), not_parenthesis, List.nil_append]
    exact ih blank.2

theorem scan_blanks_append {blanks : List Char} (blank : Text.allBlank blanks = true)
    (text : List Char) : scan (blanks ++ text) = scan text := by
  have ends : ∀ c ∈ blanks.getLast?, Delimits c := fun c last =>
    Or.inr (Or.inr (List.all_eq_true.mp blank c (List.mem_of_getLast? last)))
  rw [scan_append_of_ends ends, scan_blanks blank, List.nil_append]

theorem scan_append_blanks {blanks : List Char} (blank : Text.allBlank blanks = true)
    (text : List Char) : scan (text ++ blanks) = scan text := by
  rw [scan_append (breaks_of_allBlank blank), scan_blanks blank, List.append_nil]

/-- **The blanks around a query do not matter.** -/
theorem scan_trim (text : List Char) : scan (Text.trim text) = scan text := by
  obtain ⟨lead, tail, blank, blank', whole⟩ := Text.exists_append_trim_append text
  calc scan (Text.trim text)
      _ = scan (Text.trim text ++ tail) := (scan_append_blanks blank' _).symm
      _ = scan (lead ++ (Text.trim text ++ tail)) := (scan_blanks_append blank _).symm
      _ = scan text := by rw [whole]

/-! ### Words -/

/-- A text without delimiters is one word. -/
theorem scanFrom_of_word {text : List Char} (solid : ∀ c ∈ text, ¬Delimits c) (word : List Char) :
    scanFrom word text = (ofWord? (word.reverse ++ text)).toList := by
  induction text generalizing word with
  | nil => rw [scanFrom, List.append_nil]
  | cons c rest ih =>
    obtain ⟨first, others⟩ := List.forall_mem_cons.mp solid
    rw [scanFrom_of_not_delimits first, ih others]
    simp

theorem scan_of_word {word : List Char} (solid : ∀ c ∈ word, ¬Delimits c) :
    scan word = (ofWord? word).toList := scanFrom_of_word solid []

/-! ### Tags -/

/-- The operator that a word is, is one of the three. -/
theorem isOperator_of_operator? {word : List Char} {token : Token}
    (h : operator? word = some token) :
    token.isOperator = true := by
  rw [operator?] at h
  split at h
  · exact Option.some.inj h ▸ rfl
  · split at h
    · exact Option.some.inj h ▸ rfl
    · split at h
      · exact Option.some.inj h ▸ rfl
      · cases h

theorem operator?_ne_tag (word : List Char) (text : String) : operator? word ≠ some (.tag text) :=
  fun found => Bool.false_ne_true (isOperator_of_operator? found)

/-- **Tags are scanned to their canonical spelling.** -/
theorem isCanonical_of_ofWord? {word : List Char} {text : String}
    (h : ofWord? word = some (.tag text)) : Tag.IsCanonical text := by
  rw [ofWord?] at h
  split at h
  · next token found =>
    obtain rfl := Option.some.inj h
    exact absurd found (operator?_ne_tag word text)
  · by_cases nothing : Tag.ofBody (Tag.body word) = ""
    · simp [nothing] at h
    · obtain rfl : Tag.ofBody (Tag.body word) = text := by simpa [nothing] using h
      exact Tag.isCanonical_ofBody nothing

theorem isCanonical_of_mem_scanFrom {word rest : List Char} {text : String}
    (h : .tag text ∈ scanFrom word rest) : Tag.IsCanonical text := by
  induction rest generalizing word with
  | nil => exact isCanonical_of_ofWord? (Option.mem_toList.mp h)
  | cons c rest ih =>
    by_cases delimits : Delimits c
    · rw [scanFrom_of_delimits delimits, List.mem_append, List.mem_append] at h
      rcases h with before | delimiter | after
      · exact isCanonical_of_ofWord? (Option.mem_toList.mp before)
      · simp only [ofDelimiter] at delimiter
        split at delimiter
        · simp at delimiter
        · split at delimiter <;> simp at delimiter
      · exact ih after
    · rw [scanFrom_of_not_delimits delimits] at h
      exact ih h

/-- The tags of a query are canonical. -/
theorem isCanonical_of_mem_tokenize {query text : String} (h : .tag text ∈ tokenize query) :
    Tag.IsCanonical text := isCanonical_of_mem_scanFrom h

/-- A word that begins with the marker is no operator. -/
theorem operator?_marker_cons (own : List Char) : operator? (Tag.marker :: own) = none := by
  have upper : Text.upper (Tag.marker :: own) = Tag.marker :: Text.upper own := rfl
  simp only [operator?, upper]
  simp [Tag.marker]

/-- **The canonical spelling of a tag is scanned to that tag.** -/
theorem scan_canonical {text : String} (h : Tag.IsCanonical text) :
    scan text.toList = [.tag text] := by
  have solid : ∀ c ∈ text.toList, ¬Delimits c := by
    intro c member
    have spelling := h.spelling c member
    simp [Delimits, spelling.not_parenthesis, spelling.not_blank]
  have same : Tag.ofBody (Tag.body text.toList) = text := h.normalize_eq
  have no_operator : operator? text.toList = none := by
    obtain ⟨own, -, -, rfl⟩ := h
    rw [String.toList_ofList]
    exact operator?_marker_cons own
  rw [scan_of_word solid, ofWord?, no_operator, same]
  simp [h.ne_empty]

/-! ### Parentheses -/

/-- The parentheses and their tokens. -/
def IsParenthesis (c : Char) (token : Token) : Prop :=
  c = '(' ∧ token = opening ∨ c = ')' ∧ token = closing

/-- **The token of a word** is an operator or a tag. -/
theorem isOperator_or_isTag_of_ofWord? {word : List Char} {token : Token}
    (h : ofWord? word = some token) : token.isOperator = true ∨ token.isTag = true := by
  rw [ofWord?] at h
  split at h
  · next operator found =>
    obtain rfl := Option.some.inj h
    exact Or.inl (isOperator_of_operator? found)
  · dsimp only at h
    split at h
    · cases h
    · exact Or.inr (Option.some.inj h ▸ rfl)

/-- No word is a parenthesis. -/
theorem ofWord?_ne_parenthesis {c : Char} {token : Token} (parenthesis : IsParenthesis c token)
    (word : List Char) : ofWord? word ≠ some token := by
  intro is_token
  have shape := isOperator_or_isTag_of_ofWord? is_token
  rcases parenthesis with ⟨-, rfl⟩ | ⟨-, rfl⟩ <;> simp [isOperator, isTag] at shape

/-- The token of a delimiter is the parenthesis that it is, if it is one. -/
theorem count_ofDelimiter {c : Char} {token : Token} (parenthesis : IsParenthesis c token)
    (d : Char) :
    (ofDelimiter d).count token = [d].count c := by
  rw [ofDelimiter]
  by_cases opens : d = '('
  · subst opens
    rcases parenthesis with ⟨rfl, rfl⟩ | ⟨rfl, rfl⟩ <;> rfl
  · by_cases closes : d = ')'
    · subst closes
      rcases parenthesis with ⟨rfl, rfl⟩ | ⟨rfl, rfl⟩ <;> rfl
    · rw [if_neg opens, if_neg closes]
      rcases parenthesis with ⟨rfl, rfl⟩ | ⟨rfl, rfl⟩ <;> simp [opens, closes]

theorem count_scanFrom {c : Char} {token : Token} (parenthesis : IsParenthesis c token)
    (word text : List Char) : (scanFrom word text).count token = text.count c := by
  have no_word (word : List Char) : (ofWord? word).toList.count token = 0 :=
    List.count_eq_zero.mpr fun member =>
      ofWord?_ne_parenthesis parenthesis word (Option.mem_toList.mp member)
  induction text generalizing word with
  | nil => exact no_word word.reverse
  | cons d rest ih =>
    have split : d :: rest = [d] ++ rest := rfl
    by_cases delimits : Delimits d
    · rw [scanFrom_of_delimits delimits, List.count_append, List.count_append, no_word,
        Nat.zero_add,
        count_ofDelimiter parenthesis, scan, ih, split, List.count_append]
    · have other : d ≠ c := by
        rintro rfl
        rcases parenthesis with ⟨rfl, -⟩ | ⟨rfl, -⟩
        · exact delimits (Or.inl rfl)
        · exact delimits (Or.inr (Or.inl rfl))
      rw [scanFrom_of_not_delimits delimits, ih, List.count_cons_of_ne other]

/-- **Every parenthesis of a text is a token**, and no other token is one. -/
theorem count_scan {c : Char} {token : Token} (parenthesis : IsParenthesis c token)
    (text : List Char) :
    (scan text).count token = text.count c := count_scanFrom parenthesis [] text

/-- Closing parentheses are scanned one by one. -/
theorem scan_replicate_closing (n : Nat) :
    scan (List.replicate n ')') = List.replicate n .closing := by
  induction n with
  | zero => rfl
  | succ n ih =>
    rw [List.replicate_succ, scan_cons (Or.inr (Or.inl rfl)), ih]
    rfl

/-! ### Groups, negations, chains -/

theorem scan_parenthesized (text : List Char) :
    scan (Tree.parenthesized text) = .opening :: scan text ++ [.closing] := by
  have closes : Breaks [')'] := breaks_cons.mpr (Or.inr (Or.inl rfl))
  rw [Tree.parenthesized, List.cons_append, scan_cons (Or.inl rfl), scan_append closes]
  rfl

theorem scan_negation (text : List Char) : scan ("NOT ".toList ++ text) = .not :: scan text := by
  have word : scan ['N', 'O', 'T'] = [.not] := by decide
  have written : "NOT ".toList ++ text = ['N', 'O', 'T'] ++ ' ' :: text := by simp
  rw [written, scan_append breaks_blank, scan_cons delimits_blank, word]
  rfl

theorem scan_connective (c : Connective) (first second : List Char) :
    scan (first ++ c.separator ++ second) = scan first ++ c.token :: scan second := by
  have word : scan c.word = [c.token] := by cases c <;> decide
  -- The word of the connective stands between two blanks, and a text is cut before each of them.
  have written : first ++ c.separator ++ second = first ++ ' ' :: (c.word ++ ' ' :: second) := by
    simp [Connective.separator]
  rw [written, scan_append breaks_blank, scan_cons delimits_blank, scan_append breaks_blank,
    scan_cons delimits_blank, word]
  rfl

/-- **Operands with a connective between them are scanned one after the other.** -/
theorem scan_joined (c : Connective) {texts : List (List Char)} (some_text : texts ≠ []) :
    scan (Tree.joined c.separator texts) = [c.token].intercalate (texts.map scan) := by
  induction texts with
  | nil => exact absurd rfl some_text
  | cons first rest ih =>
    by_cases last : rest = []
    · subst last
      rw [Tree.joined, List.map_singleton, List.intercalate_singleton]
    · have more : rest.map scan ≠ [] := by simpa using last
      have split : Tree.joined c.separator (first :: rest) =
          first ++ c.separator ++ Tree.joined c.separator rest := by
        cases rest with
        | nil => exact absurd rfl last
        | cons => rfl
      rw [split, scan_connective, ih last, List.map_cons, List.intercalate_cons_of_ne_nil more]
      simp

end Token

end TradeJournal.Query
