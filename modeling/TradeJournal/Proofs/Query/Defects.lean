import Mathlib.Data.List.Induction
import TradeJournal.Proofs.Query.Fit

/-!
# What the check finds

The check for defects goes through the tokens with counters and searches. Here `Defect.Holds` says
what the defects are without them: two are imbalances of parentheses, seen at an end and at a
beginning of the tokens, and the others are tokens that stand next to each other, first, or last
where they may not. The check finds the defects that are there and no others.

Only the parentheses take an argument. One counter runs along the tokens and does not go below zero,
so a closing parenthesis without a partner is forgotten by it and kept in a flag. What the counter
shows at the end is therefore not the difference of the two kinds of parentheses, but the greatest
difference that an *end* of the tokens has (`lt_unclosed_iff`); and the flag is raised as soon as a
*beginning* of the tokens closes more groups than it opens (`strayClosing_iff`).
-/

namespace TradeJournal.Query

/-! ### Ends and beginnings -/

/-- An end of tokens with one more behind them, other than the empty one, has this token behind an
end of the others. -/
theorem exists_suffix_append_singleton {tokens : List Token} {token : Token} {P : List Token → Prop}
    (not_nil : ¬P []) :
    (∃ ending, ending <:+ tokens ++ [token] ∧ P ending) ↔ ∃ ending, ending <:+ tokens ∧
      P (ending ++ [token]) := by
  simp only [List.suffix_concat_iff]
  constructor
  · rintro ⟨ending, rfl | ⟨ending, rfl, among⟩, holds⟩
    · exact absurd holds not_nil
    · exact ⟨ending, among, holds⟩
  · rintro ⟨ending, among, holds⟩
    exact ⟨_, Or.inr ⟨ending, rfl, among⟩, holds⟩

/-- A beginning of tokens with one more before them, other than the empty one, has this token before
a beginning of the others. -/
theorem exists_prefix_cons {tokens : List Token} {token : Token} {P : List Token → Prop}
    (not_nil : ¬P []) :
    (∃ beginning, beginning <+: token :: tokens ∧ P beginning) ↔
      ∃ beginning, beginning <+: tokens ∧ P (token :: beginning) := by
  simp only [List.prefix_cons_iff]
  constructor
  · rintro ⟨beginning, rfl | ⟨beginning, rfl, among⟩, holds⟩
    · exact absurd holds not_nil
    · exact ⟨beginning, among, holds⟩
  · rintro ⟨beginning, among, holds⟩
    exact ⟨_, Or.inr ⟨beginning, rfl, among⟩, holds⟩

/-! ### The two counts of parentheses -/

theorem balance_append_singleton (tokens : List Token) (token : Token) :
    balance (tokens ++ [token]) = (balance tokens).step token := by
  rw [balance, List.foldl_append]
  rfl

/-- **How many groups are left open**: more than a number of them exactly when some end of the
tokens opens more than that many groups that it does not close. -/
theorem lt_unclosed_iff {tokens : List Token} {n : Nat} :
    n < (balance tokens).unclosed ↔
      ∃ ending, ending <:+ tokens ∧ ending.count .closing + n < ending.count .opening := by
  induction tokens using List.reverseRecOn generalizing n with
  | nil => simp [balance]
  | append_singleton tokens token ih =>
    rw [balance_append_singleton, exists_suffix_append_singleton (by simp)]
    cases token with
    | opening =>
      have opened : ((balance tokens).step .opening).unclosed = (balance tokens).unclosed + 1 := rfl
      simp only [opened, List.count_append, List.count_singleton_self]
      cases n with
      | zero =>
        -- The parenthesis alone opens a group that it does not close.
        refine iff_of_true (Nat.succ_pos _) ⟨[], List.nil_suffix, by simp⟩
      | succ n =>
        rw [Nat.add_lt_add_iff_right, ih]
        refine exists_congr fun ending => and_congr_right fun _ => ?_
        simp
        omega
    | closing =>
      have closed : ((balance tokens).step .closing).unclosed = (balance tokens).unclosed - 1 := by
        rw [Balance.step]
        split
        · next none_open => rw [none_open]
        · rfl
      rw [closed, Nat.lt_sub_iff_add_lt, ih]
      refine exists_congr fun ending => and_congr_right fun _ => ?_
      simp
      omega
    | tag | and | or | not => simpa [Balance.step] using ih

/-- **Whether a parenthesis closes nothing**: exactly when some beginning of the tokens closes more
groups than were open before and it opens. -/
theorem strayClosing_iff {tokens : List Token} {depth : Nat} :
    (tokens.foldl Balance.step ⟨depth, false⟩).strayClosing = true ↔
      ∃ beginning, beginning <+: tokens ∧
        depth + beginning.count .opening < beginning.count .closing := by
  induction tokens generalizing depth with
  | nil => simp
  | cons token rest ih =>
    rw [List.foldl_cons, exists_prefix_cons (by simp)]
    cases token with
    | opening =>
      rw [Balance.step, ih]
      refine exists_congr fun beginning => and_congr_right fun _ => ?_
      simp
      omega
    | closing =>
      cases depth with
      | zero =>
        -- With no group open the parenthesis alone closes more than is open.
        exact iff_of_true (strayClosing_foldl rest 0) ⟨[], List.nil_prefix, by simp⟩
      | succ depth =>
        have step : Balance.step ⟨depth + 1, false⟩ .closing = ⟨depth, false⟩ := rfl
        rw [step, ih]
        refine exists_congr fun beginning => and_congr_right fun _ => ?_
        simp
        omega
    | tag | and | or | not => simpa [Balance.step] using ih

/-! ### The defects -/

/-- AND and OR. -/
def Token.Joins (token : Token) : Prop := token = .and ∨ token = .or

/-- **What it is for a defect to be there.** -/
def Defect.Holds (tokens : List Token) : Defect → Prop
  | .unmatchedOpening => ∃ ending, ending <:+ tokens ∧ ending.count .closing < ending.count .opening
  | .unmatchedClosing => ∃ beginning, beginning <+: tokens ∧
    beginning.count .opening < beginning.count .closing
  | .consecutiveOperators => ∃ a b, Neighbours tokens a b ∧ a.Joins ∧ b.Joins
  | .trailingOperator => ∃ last, tokens.getLast? = some last ∧ last.Joins
  | .leadingOperator => ∃ first, tokens.head? = some first ∧ first.Joins
  | .danglingNot =>
    tokens.getLast? = some .not ∨ ∃ next, Neighbours tokens .not next ∧ ¬∃ text, next = .tag text
  | .emptyParentheses => Neighbours tokens .opening .closing
  | .operatorAfterOpening => ∃ b, Neighbours tokens .opening b ∧ b.Joins
  | .operatorBeforeClosing => ∃ a, Neighbours tokens a .closing ∧ a.Joins
  | .missingOperator => ∃ a b, Neighbours tokens a b ∧ ((∃ text, a = .tag text) ∨ a = .closing) ∧
      ((∃ text, b = .tag text) ∨ b = .opening ∨ b = .not)

theorem isBinary_iff {token : Token} : token.isBinary = true ↔ token.Joins := by
  cases token <;> simp [Token.isBinary, Token.Joins]

theorem isTag_iff {token : Token} : token.isTag = true ↔ ∃ text, token = .tag text := by
  cases token <;> simp [Token.isTag]

theorem endsTerm_iff {token : Token} :
    endsTerm token = true ↔ (∃ text, token = .tag text) ∨ token = .closing := by
  cases token <;> simp [endsTerm]

theorem beginsTerm_iff_eq {token : Token} :
    beginsTerm token = true ↔ (∃ text, token = .tag text) ∨ token = .opening ∨ token = .not := by
  cases token <;> simp [beginsTerm]

/-- **The check finds a defect exactly where it is.** -/
theorem present_iff_holds {tokens : List Token} {d : Defect} :
    d.present tokens = true ↔ d.Holds tokens := by
  cases d with
  | unmatchedOpening =>
    rw [Defect.present, decide_eq_true_eq, lt_unclosed_iff]
    rfl
  | unmatchedClosing =>
    rw [Defect.present, balance, strayClosing_iff]
    simp only [Nat.zero_add, Defect.Holds]
  | danglingNot =>
    rw [Defect.present, hasDanglingNot_eq_true, Defect.Holds]
    simp only [← isTag_iff, Bool.not_eq_true]
  | trailingOperator =>
    cases last : tokens.getLast? <;> simp [Defect.present, Defect.Holds, last, isBinary_iff]
  | leadingOperator =>
    cases first : tokens.head? <;> simp [Defect.present, Defect.Holds, first, isBinary_iff]
  | consecutiveOperators | missingOperator =>
    simp only [Defect.present, hasPair_eq_true, Defect.Holds, Bool.and_eq_true, isBinary_iff,
      endsTerm_iff,
      beginsTerm_iff_eq]
  | emptyParentheses | operatorAfterOpening | operatorBeforeClosing =>
    simp [Defect.present, hasPair_eq_true, Defect.Holds, isBinary_iff]

/-- Defects can be looked for. -/
instance (tokens : List Token) (d : Defect) : Decidable (d.Holds tokens) :=
  decidable_of_iff (d.present tokens = true) present_iff_holds

/-- **The check reports the defects that are there**, each once and in the order of its list, in
these words; and it lets tokens pass exactly when it reports nothing. -/
theorem check_reports_defects (tokens : List Token) :
    problems tokens = (Defect.all.filter fun d => d.Holds tokens).map Defect.message ∧
      Defect.all.map Defect.message =
        ["Unmatched opening parenthesis", "Unmatched closing parenthesis",
          "Cannot have consecutive operators",
          "Query cannot end with AND or OR", "Query cannot start with AND or OR",
          "NOT operator must be followed by a tag", "Empty parentheses",
          "Operator cannot follow an opening parenthesis",
          "Operator cannot precede a closing parenthesis",
          "Missing operator between terms"] ∧
      ((defects tokens).isEmpty = true ↔ problems tokens = []) := by
  refine ⟨?_, rfl, ?_⟩
  · rw [problems, defects]
    congr 1
    refine List.filter_congr fun d _ => ?_
    rw [Bool.eq_iff_iff, decide_eq_true_eq]
    exact present_iff_holds
  · rw [List.isEmpty_iff, problems, List.map_eq_nil_iff]

/-- A parenthesis that closes nothing does not make up for one that is not closed. -/
example : problems [.closing, .opening, .tag "#a"] =
    ["Unmatched opening parenthesis", "Unmatched closing parenthesis",
      "Missing operator between terms"] := by
  decide

end TradeJournal.Query
