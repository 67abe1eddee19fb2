import TradeJournal.Proofs.Query.Meaning
import TradeJournal.Proofs.Query.Rendering

/-!
# Queries made of queries

Two queries with a connective between them are one query. Where the connective is the loosest one
they need no parentheses: the chains of the two go on into each other, whatever their operands are.
Between parentheses a query is a primary, so that it can be an operand of any connective, and is
read to the same tree.

The truth of the whole is put together from the truths of the parts (`Denotes.join`), and the tags
at the leaves of a tree are those among the tokens, in their order (`Derives.leaves`), so that they
are put together as the tokens are.
-/

namespace TradeJournal.Query

theorem intercalate_append {α : Type} (separator : List α) {first second : List (List α)}
    (some_first : first ≠ []) (some_second : second ≠ []) :
    separator.intercalate (first ++ second)
      = separator.intercalate first ++ separator ++ separator.intercalate second := by
  induction first with
  | nil => exact absurd rfl some_first
  | cons part rest ih =>
    rw [List.cons_append]
    by_cases last : rest = []
    · subst last
      rw [List.nil_append, List.intercalate_cons_of_ne_nil some_second, List.intercalate_singleton]
    · rw [List.intercalate_cons_of_ne_nil (by simp [last]), List.intercalate_cons_of_ne_nil last,
        ih last]
      simp

/-! ### Truth -/

/-- The truth of a chain is that of its parts under the same connective. -/
theorem Connective.combine_append (c : Connective) (first second : List Bool) :
    c.combine (first ++ second) = c.combine [c.combine first, c.combine second] := by
  cases c <;> simp [combine]

namespace Denotes

variable {tags : List String} {tokens first second : List Token} {value value' : Bool}

/-- A chain of one operand. -/
theorem lone (c : Connective) (h : Denotes tags c.operands tokens value) :
    Denotes tags (.chain c) tokens value := by
  have alone : Denotes tags (.chain c) _ _ :=
    .chain c [(tokens, value)] (by simp) (by simpa using h)
  simpa [c.combine_singleton] using alone

/-- **Two chains with their connective between them** are a chain. -/
theorem join (c : Connective) (h : Denotes tags (.chain c) first value)
    (h' : Denotes tags (.chain c) second value') :
    Denotes tags (.chain c) (first ++ c.token :: second) (c.combine [value, value']) := by
  cases h with
  | chain _ operands some_operand each =>
    cases h' with
    | chain _ operands' some_operand' each' =>
      have joined := Denotes.chain c (operands ++ operands') (by simp [some_operand])
        (List.forall_mem_append.mpr ⟨each, each'⟩)
      rw [List.map_append, List.map_append, c.combine_append,
        intercalate_append _ (by simpa using some_operand) (by simpa using some_operand')] at joined
      simpa using joined

/-- A chain of phrases, each with its truth. -/
theorem chain_map {α : Type} (c : Connective) {operands : List α} (phrase : α → List Token)
    (truth : α → Bool) (some_operand : operands ≠ [])
    (each : ∀ a ∈ operands, Denotes tags c.operands (phrase a) (truth a)) :
    Denotes tags (.chain c) ([c.token].intercalate (operands.map phrase))
      (c.combine (operands.map truth)) := by
  have chained : Denotes tags (.chain c) _ _ :=
    .chain c (operands.map fun a => (phrase a, truth a)) (by simpa using some_operand)
      (List.forall_mem_map.mpr each)
  simpa [Function.comp_def] using chained

/-- A chain of either connective is a query. -/
theorem query (c : Connective) (h : Denotes tags (.chain c) tokens value) :
    Denotes tags (.chain .or) tokens value := by
  cases c with
  | and => exact lone .or h
  | or => exact h

/-- What binds as tightly as a negation is an operand of either connective. -/
theorem operand (c : Connective) (h : Denotes tags .negation tokens value) :
    Denotes tags c.operands tokens value := by
  cases c with
  | and => exact h
  | or => exact lone .and h

/-- **A query between parentheses** is an operand of either connective. -/
theorem grouped (c : Connective) (h : Denotes tags (.chain .or) tokens value) :
    Denotes tags c.operands (.opening :: tokens ++ [.closing]) value :=
  operand c (.plain (.group h))

/-- **Two queries between parentheses** with a connective between them are a query. -/
theorem join_grouped (c : Connective) (h : Denotes tags (.chain .or) first value)
    (h' : Denotes tags (.chain .or) second value') :
    Denotes tags (.chain .or)
      ((.opening :: first ++ [.closing]) ++ c.token :: (.opening :: second ++ [.closing]))
      (c.combine [value, value']) :=
  query c (join c (lone c (grouped c h)) (lone c (grouped c h')))

end Denotes

/-- What has a truth is parsed. -/
theorem exists_parse_of_denotes {tags : List String} {tokens : List Token} {value : Bool}
    (h : Denotes tags (.chain .or) tokens value) : ∃ tree, parse tokens = .ok tree := by
  obtain ⟨tree, derived, -⟩ := h.derives
  exact ⟨tree, parse_of_derivation derived⟩

/-- A query that has a token means what its tokens denote. -/
theorem denotes_of_means {tags : List String} {tokens : List Token} {value : Bool}
    (some_token : tokens ≠ []) (h : Means tags tokens value) :
    Denotes tags (.chain .or) tokens value :=
  h.resolve_left fun none_left => some_token none_left.1

/-- **Parentheses around a query** do not change its tree. -/
theorem parse_grouped {tokens : List Token} {tree : Tree} (some_token : tokens ≠ [])
    (parsed : parse tokens = .ok tree) : parse (.opening :: tokens ++ [.closing]) = .ok tree :=
  parse_of_derivation (Derives.group (derivation_of_parse some_token parsed)).derivation

/-! ### Tags -/

theorem tagTexts_append (first second : List Token) :
    tagTexts (first ++ second) = tagTexts first ++ tagTexts second := List.filterMap_append

theorem tagTexts_connective (c : Connective) (rest : List Token) :
    tagTexts (c.token :: rest) = tagTexts rest := by
  cases c <;> rfl

theorem tagTexts_grouped (tokens : List Token) :
    tagTexts (.opening :: tokens ++ [.closing]) = tagTexts tokens := by
  rw [tagTexts_append]
  exact List.append_nil _

/-- The leaves of the operands of a chain are the tags of the chain. -/
theorem leavesAll_operands (c : Connective) {operands : List (List Token × Tree)}
    (each : ∀ operand ∈ operands, operand.2.leaves = .ok (tagTexts operand.1)) :
    Tree.leavesAll (operands.map (·.2))
      = .ok (tagTexts ([c.token].intercalate (operands.map (·.1)))) := by
  induction operands with
  | nil => rfl
  | cons operand rest ih =>
    obtain ⟨own, others⟩ := List.forall_mem_cons.mp each
    rw [List.map_cons, List.map_cons, Tree.leavesAll, own, ih others]
    by_cases last : rest = []
    · subst last
      simp [bind, Except.bind, tagTexts]
    · have more : rest.map (·.1) ≠ [] := by simpa using last
      rw [List.intercalate_cons_of_ne_nil more, List.append_assoc, tagTexts_append,
        List.singleton_append, tagTexts_connective]
      rfl

/-- **The leaves of a tree are the tags of its phrase**, from left to right. -/
theorem Derives.leaves {level : Level} {tokens : List Token} {tree : Tree}
    (h : Derives level tokens tree) : tree.leaves = .ok (tagTexts tokens) := by
  induction h with
  | tag text | negated text => rfl
  | group _ ih =>
    rw [tagTexts_grouped]
    exact ih
  | plain _ ih | lone _ _ ih => exact ih
  | joined c operands _ _ ih =>
    have leaves := leavesAll_operands c ih
    cases c <;> exact leaves

/-- **A query refers to the tags among its tokens**, each at its first occurrence. -/
theorem referencedTags_of_parse {tokens : List Token} {tree : Tree}
    (parsed : parse tokens = .ok tree) :
    tree.referencedTags = .ok (Tag.distinct (tagTexts tokens)) := by
  by_cases nothing : tokens = []
  · subst nothing
    obtain rfl : Tree.empty = tree := Except.ok.inj parsed
    rfl
  · rw [Tree.referencedTags, (derivation_of_parse nothing parsed).leaves]
    rfl

end TradeJournal.Query
