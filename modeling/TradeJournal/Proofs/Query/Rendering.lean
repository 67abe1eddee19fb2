import TradeJournal.Proofs.Query.Phrase
import TradeJournal.Proofs.Query.Reading

/-!
# Rendering and parsing are inverse

The trees that come of parsing are canonical: the query that asks for nothing, or tags and
negated tags in canonical spelling under nodes of two or more operands. Every canonical tree
has a text, and this text is parsed to the tree.

The tokens that a tree is written with are a phrase of the grammar, at the level that the tree's
root has. An operand stands at the level that its connective asks for: where the root of the operand
binds tightly enough it is already there, and otherwise it is written between parentheses, which
makes a primary of it. So the induction on the tree needs one lemma for operands (`Derives.operand`)
and one for chains of them (`Derives.node`).
-/

namespace TradeJournal.Query

/-! ### Canonical trees -/

/-- **A tree that a query with at least one token may have.** -/
inductive Tree.IsQuery : Tree → Prop
  | tag {text : String} : Tag.IsCanonical text → IsQuery (.tag text)
  | not {text : String} : Tag.IsCanonical text → IsQuery (.not (.tag text))
  | node (c : Connective) {children : List Tree} :
    2 ≤ children.length → (∀ child ∈ children, IsQuery child) → IsQuery (c.node children)

/-- **A tree that a query may have.** -/
def Tree.IsCanonical (t : Tree) : Prop := t = .empty ∨ t.IsQuery

theorem infix_intercalate {α : Type} (separator : List α) {part : List α} {parts : List (List α)}
    (member : part ∈ parts) : part <:+: separator.intercalate parts := by
  induction parts with
  | nil => cases member
  | cons first rest ih =>
    by_cases last : rest = []
    · subst last
      obtain rfl := List.mem_singleton.mp member
      exact List.intercalate_singleton.symm ▸ List.infix_rfl
    · rw [List.intercalate_cons_of_ne_nil last]
      rcases List.mem_cons.mp member with rfl | member
      · exact ⟨[], _, (List.append_assoc _ _ _).symm⟩
      · exact (ih member).trans (List.suffix_append _ _).isInfix

theorem mem_intercalate {α : Type} {separator part : List α} {parts : List (List α)} {x : α}
    (member : part ∈ parts) (inside : x ∈ part) : x ∈ separator.intercalate parts :=
  (infix_intercalate separator member).mem inside

/-- **Phrases of canonical tags have canonical trees.** -/
theorem Derives.isQuery {level : Level} {tokens : List Token} {tree : Tree}
    (h : Derives level tokens tree)
    (canonical : ∀ text, .tag text ∈ tokens → Tag.IsCanonical text) : tree.IsQuery := by
  induction h with
  | tag text => exact .tag (canonical text (by simp))
  | negated text => exact .not (canonical text (by simp))
  | group _ ih => exact ih fun text member => canonical text (by simp [member])
  | plain _ ih | lone _ _ ih => exact ih canonical
  | joined c operands several _ ih =>
    refine .node c (by simpa using several) fun child member => ?_
    obtain ⟨operand, listed, rfl⟩ := List.mem_map.mp member
    refine ih operand listed fun text inside => canonical text ?_
    exact mem_intercalate (List.mem_map.mpr ⟨operand, listed, rfl⟩) inside

/-- What is parsed from canonical tags is canonical. -/
theorem isCanonical_of_parse_tokens {tokens : List Token} {tree : Tree}
    (canonical : ∀ text, .tag text ∈ tokens → Tag.IsCanonical text)
    (parsed : parse tokens = .ok tree) :
    tree.IsCanonical := by
  by_cases nothing : tokens = []
  · subst nothing
    exact Or.inl (Except.ok.inj parsed).symm
  · exact Or.inr ((derivation_of_parse nothing parsed).isQuery canonical)

/-- **Whatever is parsed from a query is canonical.** -/
theorem isCanonical_of_parse {query : String} {tree : Tree}
    (parsed : parse (tokenize query) = .ok tree) : tree.IsCanonical :=
  isCanonical_of_parse_tokens (fun _ => Token.isCanonical_of_mem_tokenize) parsed

/-! ### Levels of texts -/

/-- The level at which the text of a tree stands. -/
def Tree.level : Tree → Level
  | .tag _ | .foreign _ => .primary
  | .not _ => .negation
  | .and _ => .chain .and
  | .or _ => .chain .or

namespace Derives

variable {level : Level} {tokens : List Token} {tree : Tree}

/-- A phrase of any level is a query. -/
theorem derivation (h : Derives level tokens tree) : Derivation tokens tree := by
  match level with
  | .primary => exact .lone .or (.lone .and (.plain h))
  | .negation => exact .lone .or (.lone .and h)
  | .chain .and => exact .lone .or h
  | .chain .or => exact h

/-- A negation, and so a primary, is an operand of either connective. -/
theorem operand_of_negation (c : Connective) (h : Derives .negation tokens tree) :
    Derives c.operands tokens tree := by
  cases c with
  | and => exact h
  | or => exact .lone .and h

/-- **An operand stands at the level of the operands of its connective.** -/
theorem operand (c : Connective) {child : Tree} (h : Derives child.level tokens tree) :
    Derives c.operands (child.operandTokens c.bareAnd tokens) tree := by
  -- Only a conjunction inside a disjunction goes without parentheses that its level would ask for.
  cases child with
  | tag => exact operand_of_negation c (.plain h)
  | not => exact operand_of_negation c h
  | foreign => cases c <;> exact operand_of_negation _ (.plain (.group h.derivation))
  | or => cases c <;> exact operand_of_negation _ (.plain (.group h.derivation))
  | and =>
    cases c with
    | and => exact operand_of_negation .and (.plain (.group h.derivation))
    | or => exact h

/-- **Operands with their connective between them are a chain**, whose tree the parser gathers from
the trees that they are parsed to. -/
theorem node (c : Connective) {parsed : List (Tree × Tree)} (some_operand : parsed ≠ [])
    (each : ∀ p ∈ parsed, Derives p.1.level p.1.phrase p.2) :
    Derives (.chain c) (c.node (parsed.map (·.1))).phrase (gathered c.node (parsed.map (·.2))) := by
  have chain := @Derives.of_operands c (parsed.map fun p => (p.1.operandPhrase c.bareAnd, p.2))
    (by simpa using some_operand) (List.forall_mem_map.mpr fun p listed =>
      (each p listed).operand c)
  rw [Tree.phrase_node]
  simpa [Function.comp_def] using chain

end Derives

/-! ### Texts of trees -/

namespace Tree

theorem level_node (c : Connective) (children : List Tree) : (c.node children).level =
    .chain c := by
  cases c <;> rfl

/-- A tree that a query with at least one token may have has a text. -/
theorem IsQuery.hasText {t : Tree} (h : t.IsQuery) : t.HasText := by
  induction h with
  | tag canonical => exact .tag canonical
  | not canonical => exact .not (.tag canonical)
  | node c several _ ih => exact .node c (List.ne_nil_of_length_pos (by omega)) ih

/-- **The tokens of a canonical tree are a phrase with this tree.** -/
theorem IsQuery.derives {t : Tree} (h : t.IsQuery) : Derives t.level t.phrase t := by
  induction h with
  | @tag text _ => exact .tag text
  | @not text _ => exact .negated text
  | @node c children several _ ih =>
    have chain := @Derives.node c (children.map fun child => (child, child))
      (by simpa using List.ne_nil_of_length_pos (by omega)) (List.forall_mem_map.mpr ih)
    rw [level_node]
    simpa [Function.comp_def, gathered_of_two_le several] using chain

/-- The text of a canonical tree spells the tokens of the tree. -/
theorem IsCanonical.exists_spells {t : Tree} (h : t.IsCanonical) :
    ∃ text, t.toText = .ok text ∧ Spells text.toList t.phrase := by
  rcases h with rfl | query
  · exact ⟨"", rfl, rfl, rfl⟩
  · exact query.hasText.exists_toText

/-- The tokens of a canonical tree are parsed to the tree. -/
theorem IsCanonical.parse_phrase {t : Tree} (h : t.IsCanonical) : parse t.phrase = .ok t := by
  rcases h with rfl | query
  · rfl
  · exact parse_of_derivation query.derives.derivation

/-- **Every canonical tree has a text, and the text is parsed to the tree.** -/
theorem IsCanonical.exists_toText {t : Tree} (h : t.IsCanonical) :
    ∃ text, t.toText = .ok text ∧ parse (tokenize text) = .ok t := by
  obtain ⟨text, written, spells⟩ := h.exists_spells
  refine ⟨text, written, ?_⟩
  rw [tokenize, spells.scan_eq]
  exact h.parse_phrase

end Tree

end TradeJournal.Query
