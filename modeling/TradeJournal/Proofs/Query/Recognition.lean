import TradeJournal.Proofs.Completion.Preservation
import TradeJournal.Proofs.Query.Rendering
import TradeJournal.Query.Recognition

/-!
# No query is taken for free text

Queries are recognized by other means than they are scanned: operators are looked for as words
between word boundaries with letters compared in lower case, while a scanned word stands between
blanks and parentheses and is compared in upper case. Every operator that is scanned is found all
the same, for two reasons:

* of all characters, only six ASCII letters and their small forms have upper-case forms that
  operators are spelt with (`exists_not_mem_upperChar`), so a scanned operator is spelt with these
  letters and nothing else;
* no delimiter belongs to a word (`Delimits.not_isWord`), so that there is a word boundary wherever
  a scanned word begins or ends.

A rendered tree and a completion each have a tag in canonical spelling, and so a marker.
-/

namespace TradeJournal

namespace Query

open Text (isWord lowerChar upperChar)

/-! ### Letters of operators -/

/-- The letters that operators are spelt with in upper case. -/
def operatorLetters : List Char := ['A', 'N', 'D', 'O', 'R', 'T']

/-- A run of case pairs leads from beyond ASCII to none of these letters. -/
theorem not_mem_operatorLetters_of_covers {run : Text.Case.Run} (listed : run ∈ Text.Case.upperRuns)
    {n : Nat}
    (beyond : 128 ≤ n) (covers : run.covers n = true) :
    Char.ofNat ((n : Int) + run.shift).toNat ∉ operatorLetters := by
  intro letter
  obtain ⟨d, is_letter, image⟩ : ∃ d ∈ operatorLetters,
      Char.ofNat ((n : Int) + run.shift).toNat = d :=
    ⟨_, letter, rfl⟩
  have codes : ∀ d ∈ operatorLetters, d.toNat ≠ 0 := by simp [operatorLetters]
  have code : ((n : Int) + run.shift).toNat = d.toNat := by
    by_cases valid : ((n : Int) + run.shift).toNat.isValidChar
    · rw [← image, Char.ofNat, dif_pos valid]
      rfl
    · rw [Char.ofNat, dif_neg valid] at image
      exact absurd (image ▸ rfl) (codes d is_letter)
  -- The run leads to the letter from one place only, and no run of the table is there beyond ASCII.
  have place : ((d.toNat : Int) - run.shift).toNat = n := by
    have some_code := codes d is_letter
    omega
  have nowhere : ∀ run ∈ Text.Case.upperRuns, ∀ code ∈ operatorLetters.map Char.toNat,
      128 ≤ ((code : Int) - run.shift).toNat →
        run.covers ((code : Int) - run.shift).toNat = false := by decide +kernel
  have uncovered := nowhere run listed d.toNat (List.mem_map_of_mem is_letter)
  rw [place, covers] at uncovered
  cases uncovered beyond

/-- **Beyond ASCII no character has an upper-case form that operators are spelt with**: some
character of it is none of their letters. -/
theorem exists_not_mem_upperChar {c : Char} (beyond : 128 ≤ c.toNat) :
    ∃ d ∈ upperChar c, d ∉ operatorLetters := by
  rw [upperChar, if_neg (Nat.not_lt.mpr beyond), Text.caseImage]
  split
  · next image found =>
    have long : ∀ image ∈ Text.Case.upperLong, ∃ code ∈ image.2,
        Char.ofNat code ∉ operatorLetters := by decide
    obtain ⟨code, inside, other⟩ := long image (List.mem_of_find?_eq_some found)
    exact ⟨Char.ofNat code, List.mem_map_of_mem inside, other⟩
  · split
    · next run found =>
      have covers : run.covers c.toNat = true :=
        @List.find?_some _ (Text.Case.Run.covers · c.toNat) _ _ found
      exact ⟨_, List.mem_singleton_self _,
        not_mem_operatorLetters_of_covers (List.mem_of_find?_eq_some found) beyond covers⟩
    · refine ⟨c, List.mem_singleton_self c, fun letter => ?_⟩
      have small : ∀ d ∈ operatorLetters, d.toNat < 128 := by simp [operatorLetters]
      exact absurd (small c letter) (Nat.not_lt.mpr beyond)

/-- The letters of an operator in ASCII, in either case. -/
theorem lowerChar_of_upperChar {c d : Char} (within : c.toNat < 128) (upper : upperChar c = [d])
    (letter : d ∈ operatorLetters) : lowerChar c = [d.toLower] := by
  have small : ∀ n < 128, ∀ code ∈ operatorLetters.map Char.toNat,
      upperChar (Char.ofNat n) = [Char.ofNat code] →
      lowerChar (Char.ofNat n) = [(Char.ofNat code).toLower] := by decide +kernel
  have found := small c.toNat within d.toNat (List.mem_map_of_mem letter)
  rw [Char.ofNat_toNat, Char.ofNat_toNat] at found
  exact found upper

/-- **A word with the upper-case form of an operator** is spelt with its letters, and so it is found
when letters are compared in lower case. -/
theorem afterWord?_of_upper {name : List Char} (letters : ∀ d ∈ name, d ∈ operatorLetters)
    {word : List Char}
    (upper : Text.upper word = name) (rest : List Char) :
    afterWord? (name.map Char.toLower) (word ++ rest) = some rest := by
  induction word generalizing name with
  | nil =>
    subst upper
    rfl
  | cons c word ih =>
    rw [Text.upper, List.flatMap_cons, ← Text.upper] at upper
    have within : c.toNat < 128 := by
      by_contra beyond
      obtain ⟨d, image, other⟩ := exists_not_mem_upperChar (Nat.not_lt.mp beyond)
      exact other (letters d (upper ▸ List.mem_append_left _ image))
    obtain ⟨d, own⟩ : ∃ d, upperChar c = [d] := ⟨_, by rw [upperChar, if_pos within]⟩
    rw [own, List.singleton_append] at upper
    subst upper
    obtain ⟨letter, others⟩ := List.forall_mem_cons.mp letters
    rw [List.map_cons, List.cons_append, afterWord?,
      if_pos (lowerChar_of_upperChar within own letter)]
    exact ih others rfl

/-- The operators in upper case. -/
def operatorNames : List (List Char) := [['A', 'N', 'D'], ['O', 'R'], ['N', 'O', 'T']]

/-- A word that is an operator has one of these names in upper case. -/
theorem upper_mem_operatorNames {word : List Char} {token : Token}
    (is_operator : Token.operator? word = some token) :
    Text.upper word ∈ operatorNames := by
  by_contra other
  simp only [operatorNames, List.mem_cons, List.not_mem_nil, or_false, not_or] at other
  rw [Token.operator?, if_neg other.1, if_neg other.2.1, if_neg other.2.2] at is_operator
  cases is_operator

/-- **An operator is found at the start of a text** that begins with its word, when no word goes on
behind it. -/
theorem beginsWithOperator_append {word : List Char} {token : Token}
    (is_operator : Token.operator? word = some token)
    {rest : List Char} (ends : ∀ c ∈ rest.head?, isWord c = false) :
    beginsWithOperator (word ++ rest) = true := by
  have letters : ∀ name ∈ operatorNames, ∀ d ∈ name, d ∈ operatorLetters := by
    simp [operatorNames, operatorLetters]
  have small : ∀ name ∈ operatorNames, name.map Char.toLower ∈ operatorWords := by decide
  have listed := upper_mem_operatorNames is_operator
  rw [beginsWithOperator, List.any_eq_true]
  refine ⟨_, small _ listed, ?_⟩
  rw [afterWord?_of_upper (letters _ listed) rfl]
  cases rest with
  | nil => rfl
  | cons c rest => simp [ends c rfl]

/-! ### Word boundaries -/

/-- **No delimiter belongs to a word.** -/
theorem Delimits.not_isWord {c : Char} (delimits : Delimits c) : isWord c = false := by
  rcases delimits with rfl | rfl | blank
  · decide
  · decide
  · exact Text.forall_blank (p := fun c => isWord c = false) (by decide +kernel) blank

/-- An operator that is found behind a character of no word is found in the whole text. -/
theorem hasOperatorWord_append {c : Char} (apart : isWord c = false) (before : List Char)
    {rest : List Char}
    (found : hasOperatorWord false rest = true) (afterWordChar : Bool) :
    hasOperatorWord afterWordChar (before ++ c :: rest) = true := by
  induction before generalizing afterWordChar with
  | nil => rw [List.nil_append, hasOperatorWord, apart, found, Bool.or_true]
  | cons d before ih => rw [List.cons_append, hasOperatorWord, ih, Bool.or_true]

theorem hasOperatorWord_of_begins {text : List Char} (begins : beginsWithOperator text = true) :
    hasOperatorWord false text = true := by
  cases text with
  | nil => cases begins
  | cons c rest => rw [hasOperatorWord, begins]; rfl

/-- **An operator that is scanned is found**: in the word that has been read so far, or in what
follows. -/
theorem hasOperatorWord_of_mem_scanFrom {word text : List Char} {token : Token}
    (member : token ∈ Token.scanFrom word text) (operator : token.isOperator = true) :
    hasOperatorWord false (word.reverse ++ text) = true := by
  have is_operator {word : List Char} (of_word : token ∈ (Token.ofWord? word).toList) :
      Token.operator? word = some token := by
    rw [Option.mem_toList, Token.ofWord?] at of_word
    split at of_word
    · next found => rw [found, of_word]
    · dsimp only at of_word
      split at of_word
      · cases of_word
      · rw [← Option.some.inj of_word] at operator
        cases operator
  induction text generalizing word with
  | nil =>
    exact hasOperatorWord_of_begins (beginsWithOperator_append (is_operator member) (by simp))
  | cons c rest ih =>
    by_cases delimits : Delimits c
    · rw [Token.scanFrom_of_delimits delimits, List.mem_append, List.mem_append] at member
      rcases member with of_word | of_delimiter | behind
      · refine hasOperatorWord_of_begins (beginsWithOperator_append (is_operator of_word) ?_)
        simpa using delimits.not_isWord
      · -- A delimiter is a parenthesis or has no token.
        rw [Token.ofDelimiter] at of_delimiter
        split at of_delimiter
        · rw [List.mem_singleton.mp of_delimiter] at operator
          cases operator
        · split at of_delimiter
          · rw [List.mem_singleton.mp of_delimiter] at operator
            cases operator
          · cases of_delimiter
      · exact hasOperatorWord_append delimits.not_isWord word.reverse (ih behind) false
    · rw [Token.scanFrom_of_not_delimits delimits] at member
      have found := ih member
      rwa [List.reverse_cons, List.append_assoc] at found

/-! ### Markers -/

theorem looksLikeQuery_of_marker {text : String} (marked : Tag.marker ∈ text.toList) :
    looksLikeQuery text = true := by
  rw [looksLikeQuery, decide_eq_true marked, Bool.true_or]

/-- A tree that has a text is written with a tag. -/
theorem Tree.HasText.exists_tag {t : Tree} (h : t.HasText) :
    ∃ tag, Tag.IsCanonical tag ∧ .tag tag ∈ t.phrase := by
  have operand {bareAnd : Bool} {child : Tree} {token : Token} (inside : token ∈ child.phrase) :
      token ∈ child.operandPhrase bareAnd := by
    rw [Tree.operandPhrase, Tree.operandTokens]
    split
    · exact inside
    · simp [inside]
  induction h with
  | @tag text canonical => exact ⟨text, canonical, List.mem_singleton_self _⟩
  | @not child _ ih =>
    obtain ⟨tag, canonical, inside⟩ := ih
    exact ⟨tag, canonical, List.mem_cons_of_mem _ (operand inside)⟩
  | @node c children some_child _ ih =>
    obtain ⟨child, rest, rfl⟩ := List.exists_cons_of_ne_nil some_child
    obtain ⟨tag, canonical, inside⟩ := ih child List.mem_cons_self
    refine ⟨tag, canonical, ?_⟩
    rw [phrase_node]
    exact mem_intercalate List.mem_cons_self (operand inside)

/-- **The text of a tree has a marker**: it holds the spelling of a tag. -/
theorem Tree.HasText.looksLikeQuery {t : Tree} (h : t.HasText) :
    ∃ text, t.toText = .ok text ∧ Query.looksLikeQuery text = true := by
  obtain ⟨text, written, spells⟩ := h.exists_toText
  obtain ⟨tag, canonical, inside⟩ := h.exists_tag
  refine ⟨text, written, looksLikeQuery_of_marker ?_⟩
  have kept : Tag.marker ∈ solid text.toList := by
    rw [spells.solid_eq, List.mem_flatMap]
    exact ⟨.tag tag, inside, canonical.marker_mem⟩
  exact (List.mem_filter.mp kept).1

/-- **No query is taken for free text.** A text with an operator among its tokens looks like a
query; every tree that is parsed from a text and asks for something has a text that does; and so
does every completion that is made with canonical tags. -/
theorem queries_are_recognized :
    (∀ (text : String) (token : Token), token ∈ tokenize text → token.isOperator = true →
      looksLikeQuery text = true) ∧
      (∀ (query : String) (tree : Tree), parse (tokenize query) = .ok tree → tree ≠ .empty →
        ∃ text, tree.toText = .ok text ∧ looksLikeQuery text = true) ∧
      ∀ (typed : String) (index : TagIndex) (current : Option Record) (limit : Int)
      (completions : List String),
        (∀ s ∈ index.stats, Tag.IsCanonical s.tag) →
        Completion.suggest (.text typed) index current limit = .ok completions →
        ∀ completion ∈ completions, looksLikeQuery completion = true := by
  refine ⟨fun text token member operator => ?_, fun query tree parsed some_query => ?_,
    fun typed index current limit completions canonical suggested completion member => ?_⟩
  · have found := hasOperatorWord_of_mem_scanFrom member operator
    rw [List.reverse_nil, List.nil_append] at found
    rw [looksLikeQuery, found, Bool.or_true]
  · have is_query := (isCanonical_of_parse parsed).resolve_left some_query
    exact is_query.hasText.looksLikeQuery
  · obtain ⟨excluded, s, proposed, rfl⟩ := Completion.exists_of_mem_suggest suggested member
    obtain ⟨listed, -⟩ := Completion.continuation_cuts proposed
    refine looksLikeQuery_of_marker ?_
    rw [String.toList_ofList]
    exact List.mem_append_right _ (canonical s listed).marker_mem

/-- An operator in mixed case between a parenthesis and an ideographic space, where no marker is; a
query that is written without a marker and rendered with one; and a completion. -/
theorem queries_are_recognized_unmarked :
    let index : TagIndex := ⟨[⟨"#swing", 1, "", [], .infinity true⟩]⟩
    .and ∈ tokenize "buy (aNd\u3000sell" ∧ looksLikeQuery "buy (aNd\u3000sell" = true ∧
      (∃ text, (Tree.or [.tag "#buy", .not (.tag "#sell")]).toText = .ok text ∧
        looksLikeQuery text = true) ∧
      Completion.suggest (.text "(wi") index none 5 = .ok ["(#swing"] ∧
      looksLikeQuery "(#swing" = true := by
  intro index
  have scanned : .and ∈ tokenize "buy (aNd\u3000sell" := by decide +kernel
  have parsed : parse (tokenize "buy or not sell") =
      .ok (.or [.tag "#buy", .not (.tag "#sell")]) := by
    decide +kernel
  have canonical : ∀ s ∈ index.stats, Tag.IsCanonical s.tag :=
    List.forall_mem_singleton.mpr ⟨"swing".toList, by decide, by decide, rfl⟩
  have suggested : Completion.suggest (.text "(wi") index none 5 = .ok ["(#swing"] := by
    decide +kernel
  obtain ⟨of_operator, of_tree, of_completion⟩ := queries_are_recognized
  exact ⟨scanned, of_operator _ _ scanned rfl, of_tree _ _ parsed (by decide), suggested,
    of_completion _ index none 5 _ canonical suggested _ List.mem_cons_self⟩

end Query

end TradeJournal
