import TradeJournal.Proofs.Query.Reading

/-!
# What queries mean

A Boolean meaning for the phrases of the grammar that goes by the tokens alone: a tag is true of
the tags of a record when it is one of them, a negation turns the tag after it around, and a
chain is true when all its conjuncts are, or one of its alternatives. The query without tokens
is true.

Evaluating the tree of a phrase gives this meaning. As a query has one tree at most, it
has one meaning at most.
-/

namespace TradeJournal.Query

/-- The truth of a chain, given that of its operands. -/
def Connective.combine : Connective → List Bool → Bool
  | .and, values => values.all id
  | .or, values => values.any id

/-- **The truth of a phrase** for the tags of a record. -/
inductive Denotes (tags : List String) : Level → List Token → Bool → Prop
  /-- A tag. -/
  | tag (text : String) : Denotes tags .primary [.tag text] (decide (text ∈ tags))
  /-- A query between parentheses. -/
  | group {tokens : List Token} {value : Bool} :
    Denotes tags (.chain .or) tokens value →
    Denotes tags .primary (.opening :: tokens ++ [.closing]) value
  /-- A negated tag. -/
  | negated (text : String) : Denotes tags .negation [.not, .tag text] (!decide (text ∈ tags))
  /-- A primary that is not negated. -/
  | plain {tokens : List Token} {value : Bool} :
    Denotes tags .primary tokens value → Denotes tags .negation tokens value
  /-- A chain of one or more operands. -/
  | chain (c : Connective) (operands : List (List Token × Bool)) :
    operands ≠ [] → (∀ operand ∈ operands, Denotes tags c.operands operand.1 operand.2) →
    Denotes tags (.chain c) ([c.token].intercalate (operands.map (·.1)))
      (c.combine (operands.map (·.2)))

/-- **The meaning of a query** for the tags of a record; the query without tokens is true. -/
def Means (tags : List String) (tokens : List Token) (value : Bool) : Prop :=
  (tokens = [] ∧ value = true) ∨ Denotes tags (.chain .or) tokens value

section

variable {tags : List String} {level : Level} {tokens : List Token} {tree : Tree} {value : Bool}

/-- Evaluating stops at the first conjunct that is false, which the truth of all does not show. -/
theorem Tree.evaluateAll_of_forall {valued : List (Tree × Bool)}
    (each : ∀ w ∈ valued, w.1.evaluate tags = .ok w.2) :
    evaluateAll tags (valued.map (·.1)) = .ok ((valued.map (·.2)).all id) := by
  induction valued with
  | nil => rfl
  | cons first rest ih =>
    obtain ⟨own, others⟩ := List.forall_mem_cons.mp each
    rw [List.map_cons, evaluateAll, own]
    cases value : first.2 with
    | false => simp [value, bind, Except.bind]
    | true => simpa [value, bind, Except.bind] using ih others

/-- Evaluating stops at the first alternative that is true. -/
theorem Tree.evaluateAny_of_forall {valued : List (Tree × Bool)}
    (each : ∀ w ∈ valued, w.1.evaluate tags = .ok w.2) :
    evaluateAny tags (valued.map (·.1)) = .ok ((valued.map (·.2)).any id) := by
  induction valued with
  | nil => rfl
  | cons first rest ih =>
    obtain ⟨own, others⟩ := List.forall_mem_cons.mp each
    rw [List.map_cons, evaluateAny, own]
    cases value : first.2 with
    | true => simp [value, bind, Except.bind]
    | false => simpa [value, bind, Except.bind] using ih others

/-- A node is evaluated to the truth of the chain of its operands. -/
theorem Tree.evaluate_node (c : Connective) {valued : List (Tree × Bool)}
    (each : ∀ w ∈ valued, w.1.evaluate tags = .ok w.2) :
    (c.node (valued.map (·.1))).evaluate tags = .ok (c.combine (valued.map (·.2))) := by
  cases c with
  | and => exact Tree.evaluateAll_of_forall each
  | or => exact Tree.evaluateAny_of_forall each

/-- A chain of one operand is as true as that operand. -/
theorem Connective.combine_singleton (c : Connective) (value : Bool) :
    c.combine [value] = value := by
  cases c <;> simp [combine]

/-- Operands gathered under a node are evaluated like the node, one operand alone like itself. -/
theorem Tree.evaluate_gathered (c : Connective) {valued : List (Tree × Bool)}
    (each : ∀ w ∈ valued, w.1.evaluate tags = .ok w.2) :
    (gathered c.node (valued.map (·.1))).evaluate tags = .ok (c.combine (valued.map (·.2))) := by
  match valued with
  | [] => exact Tree.evaluate_node c each
  | [w] =>
    rw [List.map_singleton, List.map_singleton, c.combine_singleton]
    exact each w (by simp)
  | first :: second :: rest => exact Tree.evaluate_node c each

/-- **The tree of a phrase is evaluated to the truth of the phrase.** -/
theorem Derives.denotes (h : Derives level tokens tree) :
    ∃ value, tree.evaluate tags = .ok value ∧ Denotes tags level tokens value := by
  induction h with
  | tag text => exact ⟨_, rfl, .tag text⟩
  | negated text => exact ⟨_, rfl, .negated text⟩
  | group _ ih =>
    obtain ⟨value, evaluated, denoted⟩ := ih
    exact ⟨value, evaluated, .group denoted⟩
  | plain _ ih =>
    obtain ⟨value, evaluated, denoted⟩ := ih
    exact ⟨value, evaluated, .plain denoted⟩
  | @lone c tokens tree _ ih =>
    obtain ⟨value, evaluated, denoted⟩ := ih
    have alone : Denotes tags (.chain c) _ _ :=
      .chain c [(tokens, value)] (by simp) (by simpa using denoted)
    simp only [List.map_singleton, List.intercalate_singleton, c.combine_singleton] at alone
    exact ⟨value, evaluated, alone⟩
  | joined c operands several _ ih =>
    -- The operands with their truths, of which the tree needs one half and the phrase the other.
    obtain ⟨valued, rfl, each⟩ := exists_pairs ih
    have some_operand : valued ≠ [] := by
      rintro rfl
      simp at several
    have evaluated := @Tree.evaluate_node tags c (valued.map fun v => (v.1.2, v.2))
      (List.forall_mem_map.mpr fun v listed => (each v listed).1)
    have denoted := @Denotes.chain tags c (valued.map fun v => (v.1.1, v.2))
      (by simpa using some_operand) (List.forall_mem_map.mpr fun v listed => (each v listed).2)
    simp only [List.map_map, Function.comp_def] at evaluated denoted ⊢
    exact ⟨_, evaluated, denoted⟩

/-- **What has a truth is a phrase**, and its tree is evaluated to that truth. -/
theorem Denotes.derives (h : Denotes tags level tokens value) :
    ∃ tree, Derives level tokens tree ∧ tree.evaluate tags = .ok value := by
  induction h with
  | tag text => exact ⟨_, .tag text, rfl⟩
  | negated text => exact ⟨_, .negated text, rfl⟩
  | group _ ih =>
    obtain ⟨tree, derived, evaluated⟩ := ih
    exact ⟨tree, .group derived, evaluated⟩
  | plain _ ih =>
    obtain ⟨tree, derived, evaluated⟩ := ih
    exact ⟨tree, .plain derived, evaluated⟩
  | chain c operands some_operand _ ih =>
    obtain ⟨planted, rfl, each⟩ := exists_pairs ih
    have derived := @Derives.of_operands c (planted.map fun p => (p.1.1, p.2))
      (by simpa using some_operand) (List.forall_mem_map.mpr fun p listed => (each p listed).1)
    have evaluated := @Tree.evaluate_gathered tags c (planted.map fun p => (p.2, p.1.2))
      (List.forall_mem_map.mpr fun p listed => (each p listed).2)
    simp only [List.map_map, Function.comp_def] at derived evaluated ⊢
    exact ⟨_, derived, evaluated⟩

/-- Evaluating what was parsed does not fail. -/
theorem exists_evaluate_of_parse (parsed : parse tokens = .ok tree) :
    ∃ value, tree.evaluate tags = .ok value := by
  by_cases nothing : tokens = []
  · subst nothing
    obtain rfl : Tree.empty = tree := Except.ok.inj parsed
    exact ⟨true, rfl⟩
  · obtain ⟨value, evaluated, -⟩ := @Derives.denotes tags _ _ _ (derivation_of_parse nothing parsed)
    exact ⟨value, evaluated⟩

/-- **A query means what its tree is evaluated to.** -/
theorem means_iff_of_parse (parsed : parse tokens = .ok tree) :
    Means tags tokens value ↔ tree.evaluate tags = .ok value := by
  by_cases nothing : tokens = []
  · subst nothing
    obtain rfl : Tree.empty = tree := Except.ok.inj parsed
    -- Every phrase has a token, so only the first way of meaning something is left.
    have undenoted : ¬Denotes tags (.chain .or) [] value := by
      intro denoted
      obtain ⟨tree, derived, -⟩ := denoted.derives
      exact derived.tokens_ne_nil rfl
    simp [Means, undenoted, Tree.empty, Tree.evaluate, Tree.evaluateAll, eq_comm]
  · have derived := derivation_of_parse nothing parsed
    constructor
    · rintro (⟨none_left, -⟩ | denoted)
      · exact absurd none_left nothing
      · obtain ⟨other, other_derived, evaluated⟩ := denoted.derives
        rw [derived.tree_unique other_derived]
        exact evaluated
    · intro evaluated
      obtain ⟨own, own_evaluated, denoted⟩ := @Derives.denotes tags _ _ _ derived
      obtain rfl : own = value := Except.ok.inj (own_evaluated.symm.trans evaluated)
      exact Or.inr denoted

end

end TradeJournal.Query
