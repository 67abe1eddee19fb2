import Mathlib.Data.List.Chain
import TradeJournal.Proofs.Query.LetterCase
import TradeJournal.Proofs.Query.Phrase

/-!
# Writing tokens with blanks of one's own

A trader writes tokens with any blanks around them, operator words in any letter case, and
parentheses next to whatever they stand by. A *layout* is such a text: one piece for each token,
which is a gap and then the word for the token, and blanks behind the last piece. The only condition
is that two words need a gap between them, since without one they would be a single word.

Every layout is scanned to its tokens. The tags of a layout are canonical, and this is the only
condition on tokens to have one; so layouts and queries have the same tokens.
-/

namespace TradeJournal.Query

namespace Token

/-- **Whether a word stands for a token**: the text of a tag, an operator in any letter case, a
parenthesis. -/
def WrittenAs (word : List Char) : Token → Prop
  | tag text => Tag.IsCanonical text ∧ word = text.toList
  | opening => word = ['(']
  | closing => word = [')']
  | operator => Text.SameLetters word operator.spelling

/-- Whether a token is written as a word that has to end somewhere: it is no parenthesis. -/
def isWord : Token → Bool
  | opening | closing => false
  | _ => true

theorem writtenAs_spelling {token : Token}
    (canonical : ∀ text, token = .tag text → Tag.IsCanonical text) :
    token.WrittenAs token.spelling := by
  cases token with
  | tag text => exact ⟨canonical text rfl, rfl⟩
  | and | or | not | opening | closing => exact rfl

/-- **What stands for a token is scanned to it.** -/
theorem scan_of_writtenAs {token : Token} {word : List Char} (written : token.WrittenAs word) :
    scan word = [token] := by
  have letters {operator : Token} (scanned : scan operator.spelling = [operator])
      (same : Text.SameLetters word operator.spelling) : scan word = [operator] := by
    rw [same.congr scan_folded, scanned]
  cases token with
  | tag text =>
    obtain ⟨canonical, rfl⟩ := written
    exact scan_canonical canonical
  | and | or | not => exact letters (by decide) written
  | opening | closing =>
    obtain rfl : word = _ := written
    decide

end Token

/-- **A token as it is written**: a gap before it, and a word that stands for it. -/
structure Piece where
  gap : List Char
  token : Token
  word : List Char
  gap_blank : Text.allBlank gap = true
  written : token.WrittenAs word

namespace Piece

/-- What is written for the token. -/
def text (p : Piece) : List Char := p.gap ++ p.word

/-- **Two neighbours are apart**: there is a gap between them if both are words. -/
def Apart (p q : Piece) : Prop := p.token.isWord = true → q.token.isWord = true → q.gap ≠ []

variable {p q : Piece}

/-- A parenthesis is a delimiter and nothing else. -/
theorem exists_word_eq (parenthesis : p.token.isWord = false) : ∃ c, p.word = [c] ∧ Delimits c := by
  have written := p.written
  cases token : p.token with
  | opening =>
    rw [token] at written
    exact ⟨'(', written, Or.inl rfl⟩
  | closing =>
    rw [token] at written
    exact ⟨')', written, Or.inr (Or.inl rfl)⟩
  | tag | and | or | not =>
    rw [token] at parenthesis
    cases parenthesis

/-- **A piece breaks off the word before it** by its gap, or by being a parenthesis. -/
theorem breaks_text_append (free : p.token.isWord = true → p.gap ≠ []) (rest : List Char) :
    Breaks (p.text ++ rest) := by
  rw [text, List.append_assoc]
  by_cases no_gap : p.gap = []
  · have parenthesis : p.token.isWord = false := by
      rw [Bool.eq_false_iff]
      intro word
      exact free word no_gap
    obtain ⟨c, is_word, delimits⟩ := exists_word_eq parenthesis
    rw [no_gap, is_word]
    exact breaks_cons.mpr delimits
  · exact (breaks_of_allBlank p.gap_blank).append no_gap _

/-- **A piece is scanned to its token**, when a word is broken off behind it. -/
theorem scan_text_append {rest : List Char} (breaks : p.token.isWord = true → Breaks rest) :
    Token.scan (p.text ++ rest) = p.token :: Token.scan rest := by
  have own : Token.scan p.word = [p.token] := Token.scan_of_writtenAs p.written
  have cut : Token.scan (p.word ++ rest) = Token.scan p.word ++ Token.scan rest := by
    cases word : p.token.isWord with
    | true => exact Token.scan_append (breaks word)
    | false =>
      obtain ⟨c, is_word, delimits⟩ := exists_word_eq word
      rw [is_word]
      refine Token.scan_append_of_ends ?_ rest
      rintro _ ⟨⟩
      exact delimits
  rw [text, List.append_assoc, Token.scan_blanks_append p.gap_blank, cut, own]
  rfl

end Piece

/-- **A text that tokens are written as**, piece by piece. -/
structure Layout where
  pieces : List Piece
  tail : List Char
  apart : pieces.IsChain Piece.Apart
  tail_blank : Text.allBlank tail = true

namespace Layout

/-- The whole text. -/
def text (l : Layout) : String := String.ofList (l.pieces.flatMap Piece.text ++ l.tail)

/-- The tokens that are written. -/
def tokens (l : Layout) : List Token := l.pieces.map Piece.token

theorem scan_pieces {pieces : List Piece} (apart : pieces.IsChain Piece.Apart) {tail : List Char}
    (blank : Text.allBlank tail = true) :
    Token.scan (pieces.flatMap Piece.text ++ tail) = pieces.map Piece.token := by
  induction pieces with
  | nil => exact Token.scan_blanks blank
  | cons p rest ih =>
    -- What a word is broken off by stands at the start of the next piece, or of the tail.
    have breaks (word : p.token.isWord = true) : Breaks (rest.flatMap Piece.text ++ tail) := by
      cases rest with
      | nil => exact breaks_of_allBlank blank
      | cons q rest =>
        have next : p.Apart q := (List.isChain_cons_cons.mp apart).1
        rw [List.flatMap_cons, List.append_assoc]
        exact Piece.breaks_text_append (next word) _
    rw [List.flatMap_cons, List.append_assoc, Piece.scan_text_append breaks, ih apart.of_cons,
      List.map_cons]

/-- **A layout is read back.** -/
theorem tokenize_text (l : Layout) : tokenize l.text = l.tokens := by
  rw [tokenize, text, String.toList_ofList]
  exact scan_pieces l.apart l.tail_blank

/-- The tags of a layout are canonical. -/
theorem isCanonical_of_mem_tokens {l : Layout} {tag : String} (listed : .tag tag ∈ l.tokens) :
    Tag.IsCanonical tag := by
  obtain ⟨p, -, is_tag⟩ := List.mem_map.mp listed
  have written := p.written
  rw [is_tag] at written
  exact written.1

/-- A piece with one blank before its word, in the spelling of rendered trees. -/
def spaced (token : Token) (canonical : ∀ text, token = .tag text → Tag.IsCanonical text) :
    Piece where
  gap := [' ']
  token := token
  word := token.spelling
  gap_blank := rfl
  written := Token.writtenAs_spelling canonical

/-- **Tokens have a layout** when their tags are canonical. -/
theorem exists_tokens_eq {tokens : List Token}
    (canonical : ∀ tag, .tag tag ∈ tokens → Tag.IsCanonical tag) :
    ∃ l : Layout, l.tokens = tokens := by
  suffices pieces : ∃ pieces : List Piece, pieces.map Piece.token = tokens ∧ ∀ p ∈ pieces,
      p.gap ≠ [] by
    obtain ⟨pieces, spell, gaps⟩ := pieces
    -- There is a gap before every word, so neighbours are apart whichever they are.
    have apart : pieces.Pairwise Piece.Apart := by
      refine List.pairwise_of_forall_mem_list ?_
      intro p _ q listed _ _
      exact gaps q listed
    exact ⟨⟨pieces, [], apart.isChain, rfl⟩, spell⟩
  induction tokens with
  | nil => exact ⟨[], rfl, by simp⟩
  | cons token rest ih =>
    obtain ⟨pieces, spell, gaps⟩ :=
      ih fun tag listed => canonical tag (List.mem_cons_of_mem _ listed)
    refine ⟨spaced token (fun tag is_tag => canonical tag (is_tag ▸ List.mem_cons_self)) ::
      pieces, ?_, ?_⟩
    · rw [List.map_cons, spell]
      rfl
    · exact List.forall_mem_cons.mpr ⟨List.cons_ne_nil _ _, gaps⟩

end Layout

/-! ### Composition and inversion -/

/-- **Reading tokens is compositional and inverts writing them.** A text may be cut next to a
delimiter. Whatever layout tokens are written in, they are read back from it; and the tokens that
have a layout are those whose tags are canonical, which is so for the tokens of any text. -/
theorem tokenizing_inverts_writing :
    (∀ first second : String,
      (∀ c ∈ first.toList.getLast?, Delimits c) ∨ (∀ c ∈ second.toList.head?, Delimits c) →
      tokenize (first ++ second) = tokenize first ++ tokenize second) ∧
    (∀ l : Layout, tokenize l.text = l.tokens) ∧
    (∀ tokens : List Token,
      (∃ l : Layout, l.tokens = tokens) ↔ ∀ tag, .tag tag ∈ tokens → Tag.IsCanonical tag) ∧
    (∀ query : String, ∀ tag, .tag tag ∈ tokenize query → Tag.IsCanonical tag) := by
  refine ⟨?_, Layout.tokenize_text, ?_, ?_⟩
  · intro first second cut
    rw [tokenize, String.toList_append]
    rcases cut with ends | breaks
    · exact Token.scan_append_of_ends ends second.toList
    · exact Token.scan_append breaks
  · intro tokens
    constructor
    · rintro ⟨l, rfl⟩ tag listed
      exact Layout.isCanonical_of_mem_tokens listed
    · exact Layout.exists_tokens_eq
  · intro query tag listed
    exact Token.isCanonical_of_mem_tokenize listed

/-- Blanks of several kinds, operators in mixed case, and parentheses without blanks around them. -/
theorem tokenizing_inverts_writing_glued :
    let piece (gap : List Char) (token : Token) (word : List Char)
      (blank : Text.allBlank gap = true)
      (written : token.WrittenAs word) : Piece := ⟨gap, token, word, blank, written⟩
    let a := piece [] (.tag "#a") ['#', 'a'] rfl ⟨⟨['a'], by decide, rfl, rfl⟩, rfl⟩
    let and := piece ['\u2003', '\n'] .and ['a', 'N', 'd'] (by decide) rfl
    let not := piece ['\u00a0'] .not ['N', 'o', 't'] (by decide) rfl
    let l : Layout :=
      ⟨[piece [] .opening ['('] rfl rfl, a, and, not, piece [] .opening ['('] rfl rfl, a,
      piece [] .closing [')'] rfl rfl], ['\u3000'], by
        simp [a, and, not, piece, Piece.Apart, Token.isWord],
      by decide⟩
    l.text = "(#a\u2003\naNd\u00a0Not(#a)\u3000" ∧
    tokenize l.text = [.opening, .tag "#a", .and, .not, .opening, .tag "#a", .closing] ∧
    tokenize ("((" ++ "oR b") = tokenize "((" ++ tokenize "oR b" ∧
    (∃ l : Layout, l.tokens = [.tag "#b", .closing]) ∧ Tag.IsCanonical "#b" := by
  intro piece a and not l
  obtain ⟨compose, invert, layouts, canonical⟩ := tokenizing_inverts_writing
  refine ⟨by decide, invert l, compose _ _ (Or.inl (by simp [Delimits])), (layouts _).mpr ?_,
    canonical "oR b" "#b" (by decide)⟩
  intro tag listed
  obtain rfl : tag = "#b" := by simpa using listed
  exact ⟨['b'], by decide, rfl, rfl⟩

end TradeJournal.Query
