import TradeJournal.Query.Defect

/-!
# Neighbours

Most defects of a query are seen from two tokens that stand next to each other. Here
`Neighbours` says where two tokens stand so, and the two searches of the check, the one for a
pair of a given shape and the one for a dangling negation, are said in its terms.
-/

namespace TradeJournal.Query

/-- Two tokens that stand next to each other somewhere. -/
def Neighbours (tokens : List Token) (a b : Token) : Prop :=
  ∃ before after, tokens = before ++ a :: b :: after

@[simp] theorem not_neighbours_nil (a b : Token) : ¬Neighbours [] a b := by
  rintro ⟨before, after, cut⟩
  simp at cut

@[simp] theorem not_neighbours_singleton (token a b : Token) : ¬Neighbours [token] a b := by
  rintro ⟨before, after, cut⟩
  have := congrArg List.length cut
  simp at this
  omega

theorem neighbours_cons_cons {first second : Token} {rest : List Token} {a b : Token} :
    Neighbours (first :: second :: rest) a b ↔
      (a = first ∧ b = second) ∨ Neighbours (second :: rest) a b := by
  constructor
  · rintro ⟨before, after, cut⟩
    cases before with
    | nil =>
      simp only [List.nil_append, List.cons.injEq] at cut
      exact Or.inl ⟨cut.1.symm, cut.2.1.symm⟩
    | cons head before =>
      simp only [List.cons_append, List.cons.injEq] at cut
      exact Or.inr ⟨before, after, cut.2⟩
  · rintro (⟨rfl, rfl⟩ | ⟨before, after, cut⟩)
    · exact ⟨[], rest, rfl⟩
    · exact ⟨first :: before, after, by rw [cut]; rfl⟩

/-- Neighbours in a stretch of tokens are neighbours in all of them. -/
theorem Neighbours.of_infix {part whole : List Token} {a b : Token} (near : Neighbours part a b)
    (inside : part <:+: whole) : Neighbours whole a b := by
  obtain ⟨before, after, rfl⟩ := near
  obtain ⟨lead, tail, rfl⟩ := inside
  exact ⟨lead ++ before, after ++ tail, by simp⟩

/-- **A pair of a shape is found exactly where two neighbours have it.** -/
theorem hasPair_eq_true {shape : Token → Token → Bool} {tokens : List Token} :
    hasPair shape tokens = true ↔ ∃ a b, Neighbours tokens a b ∧ shape a b = true := by
  induction tokens with
  | nil => simp [hasPair]
  | cons first rest ih =>
    cases rest with
    | nil => simp [hasPair]
    | cons second rest =>
      have step : hasPair shape (first :: second :: rest) =
          (shape first second || hasPair shape (second :: rest)) := rfl
      rw [step, Bool.or_eq_true, ih]
      constructor
      · rintro (here | ⟨a, b, near, there⟩)
        · exact ⟨first, second, neighbours_cons_cons.mpr (Or.inl ⟨rfl, rfl⟩), here⟩
        · exact ⟨a, b, neighbours_cons_cons.mpr (Or.inr near), there⟩
      · rintro ⟨a, b, near, found⟩
        rcases neighbours_cons_cons.mp near with ⟨rfl, rfl⟩ | near
        · exact Or.inl found
        · exact Or.inr ⟨a, b, near, found⟩

/-- No pair of a shape is found exactly where no two neighbours have it. -/
theorem hasPair_eq_false {shape : Token → Token → Bool} {tokens : List Token} :
    hasPair shape tokens = false ↔ ∀ a b, Neighbours tokens a b → shape a b = false := by
  rw [← Bool.not_eq_true, hasPair_eq_true]
  simp

/-- The search for a dangling negation, one token further on. -/
theorem hasDanglingNot_cons_cons (first second : Token) (rest : List Token) :
    hasDanglingNot (first :: second :: rest) =
      ((first = .not && !second.isTag) || hasDanglingNot (second :: rest)) := by
  cases first with
  | not => cases second <;> simp [hasDanglingNot, Token.isTag]
  | tag | and | or | opening | closing => simp [hasDanglingNot]

/-- **A negation dangles exactly when it is last or its neighbour is no tag.** -/
theorem hasDanglingNot_eq_true {tokens : List Token} :
    hasDanglingNot tokens = true ↔
      tokens.getLast? = some .not ∨ ∃ b, Neighbours tokens .not b ∧ b.isTag = false := by
  induction tokens with
  | nil => simp [hasDanglingNot]
  | cons first rest ih =>
    cases rest with
    | nil => cases first <;> simp [hasDanglingNot]
    | cons second rest =>
      rw [hasDanglingNot_cons_cons, Bool.or_eq_true, ih, List.getLast?_cons_cons]
      simp only [neighbours_cons_cons, Bool.and_eq_true, decide_eq_true_eq, Bool.not_eq_true']
      constructor
      · rintro (⟨rfl, untagged⟩ | last | ⟨b, near, untagged⟩)
        · exact Or.inr ⟨second, Or.inl ⟨rfl, rfl⟩, untagged⟩
        · exact Or.inl last
        · exact Or.inr ⟨b, Or.inr near, untagged⟩
      · rintro (last | ⟨b, ⟨rfl, rfl⟩ | near, untagged⟩)
        · exact Or.inr (Or.inl last)
        · exact Or.inl ⟨rfl, untagged⟩
        · exact Or.inr (Or.inr ⟨b, near, untagged⟩)

/-- No negation dangles exactly when none is last and the neighbour of each is a tag. -/
theorem hasDanglingNot_eq_false {tokens : List Token} :
    hasDanglingNot tokens = false ↔
      tokens.getLast? ≠ some .not ∧ ∀ b, Neighbours tokens .not b → b.isTag = true := by
  rw [← Bool.not_eq_true, hasDanglingNot_eq_true]
  simp

end TradeJournal.Query
