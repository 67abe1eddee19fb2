import TradeJournal.Query.Parser

/-!
# The grammar of queries

What a query is, said without reading one. A query is a chain of alternatives joined by OR, an
alternative a chain of conjuncts joined by AND, a conjunct a negated tag or a primary, and a
primary a tag or a query between parentheses. `Derives` relates the tokens of a phrase to its
tree: the tree of a chain of one operand is that operand's, and a longer chain has one node
with all its operands in order.

The two kinds of chain differ in their connective only, so they are one rule here, and what
holds of one kind of chain is proved once.
-/

namespace TradeJournal.Query

/-! ### Phrases -/

/-- What joins the operands of a chain. -/
inductive Connective
  | and
  | or
  deriving DecidableEq, Repr

/-- **The levels of the grammar**, tightest binding first: primaries, negations, and chains of
conjuncts and of alternatives. -/
inductive Level
  | primary
  | negation
  | chain (c : Connective)
  deriving DecidableEq, Repr

namespace Connective

/-- The token between two operands. -/
def token : Connective → Token
  | .and => .and
  | .or => .or

/-- The node of a chain of several operands. -/
def node : Connective → List Tree → Tree
  | .and => .and
  | .or => .or

/-- The level of the operands. -/
def operands : Connective → Level
  | .and => .negation
  | .or => .chain .and

end Connective

/-- **The tokens of a phrase and its tree.** -/
inductive Derives : Level → List Token → Tree → Prop
  /-- A tag. -/
  | tag (text : String) : Derives .primary [.tag text] (.tag text)
  /-- A query between parentheses. -/
  | group {tokens : List Token} {tree : Tree} :
    Derives (.chain .or) tokens tree → Derives .primary (.opening :: tokens ++ [.closing]) tree
  /-- A negated tag. -/
  | negated (text : String) : Derives .negation [.not, .tag text] (.not (.tag text))
  /-- A primary that is not negated. -/
  | plain {tokens : List Token} {tree : Tree} :
    Derives .primary tokens tree → Derives .negation tokens tree
  /-- A chain of one operand. -/
  | lone (c : Connective) {tokens : List Token} {tree : Tree} :
    Derives c.operands tokens tree → Derives (.chain c) tokens tree
  /-- A chain of several operands. -/
  | joined (c : Connective) (operands : List (List Token × Tree)) :
    2 ≤ operands.length → (∀ operand ∈ operands, Derives c.operands operand.1 operand.2) →
    Derives (.chain c) ([c.token].intercalate (operands.map (·.1))) (c.node (operands.map (·.2)))

/-- **The tokens and the tree of a query.** -/
abbrev Derivation (tokens : List Token) (tree : Tree) : Prop := Derives (.chain .or) tokens tree

/-! ### Chains -/

/-- Operands with a connective after each of them but the last are joined by it. -/
theorem flatMap_append_eq_intercalate {α β : Type} (separator : β) (operands : List α)
    (phrase : α → List β) (last : α) :
    (operands.flatMap fun operand => phrase operand ++ [separator]) ++ phrase last
      = [separator].intercalate ((operands ++ [last]).map phrase) := by
  induction operands with
  | nil => simp
  | cons first rest ih =>
    have more : (rest ++ [last]).map phrase ≠ [] := by simp
    rw [List.cons_append, List.map_cons, List.intercalate_cons_of_ne_nil more, ← ih]
    simp

/-- Elements that each have something, paired with it. -/
theorem exists_pairs {α β : Type} {elements : List α} {P : α → β → Prop}
    (each : ∀ a ∈ elements, ∃ b, P a b) :
    ∃ pairs : List (α × β), pairs.map (·.1) = elements ∧ ∀ pair ∈ pairs, P pair.1 pair.2 := by
  induction elements with
  | nil => exact ⟨[], rfl, by simp⟩
  | cons a rest ih =>
    obtain ⟨⟨b, own⟩, others⟩ := List.forall_mem_cons.mp each
    obtain ⟨pairs, rfl, paired⟩ := ih others
    exact ⟨(a, b) :: pairs, rfl, List.forall_mem_cons.mpr ⟨own, paired⟩⟩

/-- **A chain of any number of operands**, its tree as the parser gathers it. -/
theorem Derives.of_operands (c : Connective) {operands : List (List Token × Tree)}
    (some_operand : operands ≠ [])
    (each : ∀ operand ∈ operands, Derives c.operands operand.1 operand.2) :
    Derives (.chain c) ([c.token].intercalate (operands.map (·.1)))
      (gathered c.node (operands.map (·.2))) := by
  match operands with
  | [] => exact absurd rfl some_operand
  | [operand] =>
    rw [List.map_singleton, List.intercalate_singleton]
    exact .lone c (each operand (by simp))
  | first :: second :: rest => exact .joined c (first :: second :: rest) (by simp) each

/-- A phrase has at least one token. -/
theorem Derives.tokens_ne_nil {level : Level} {tokens : List Token} {tree : Tree}
    (h : Derives level tokens tree) : tokens ≠ [] := by
  induction h with
  | tag | group | negated => simp
  | plain _ ih | lone _ _ ih => exact ih
  | joined c operands several _ ih =>
    match operands with
    | [] | [_] => simp at several
    | first :: second :: rest =>
      rw [List.map_cons, List.map_cons, List.intercalate_cons_cons]
      simp

/-- No phrase has the tree of the query that asks for nothing. -/
theorem Derives.tree_ne_empty {level : Level} {tokens : List Token} {tree : Tree}
    (h : Derives level tokens tree) : tree ≠ .empty := by
  induction h with
  | tag | negated => simp [Tree.empty]
  | group _ ih | plain _ ih | lone _ _ ih => exact ih
  | joined c operands several _ _ =>
    have : operands.map (·.2) ≠ [] := by
      intro none_left
      rw [List.map_eq_nil_iff] at none_left
      simp [none_left] at several
    cases c with
    | and => simpa [Connective.node, Tree.empty] using this
    | or => simp [Connective.node, Tree.empty]

end TradeJournal.Query
