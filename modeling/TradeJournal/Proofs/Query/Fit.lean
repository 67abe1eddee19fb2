import TradeJournal.Proofs.Query.Neighbours
import TradeJournal.Proofs.Query.Reading

/-!
# Tokens that fit

Whether a token may come next depends on little: on the token before it, and, for a closing
parenthesis, on whether a group is open. `Fits` says that every token of a sequence may come
where it does and that the sequence may end where it ends. The check for defects and the
parser are both this condition:

* the parser gets through the tokens exactly when they fit what it expects, since a step
  changes what is expected and how many groups are open by the token alone;
* the check finds no defect exactly when the tokens fit the beginning of a query, the
  defects of neighbours being the ways in which a token may not follow another, and the two
  counts of parentheses the ways in which groups may not close.

So a query has no defect exactly when it is parsed.
-/

namespace TradeJournal.Query

/-! ### What may come next -/

/-- What is expected after a token. -/
def Token.next : Token → Expectation
  | .tag _ | .closing => .operator
  | .not => .negatedTag
  | .and | .or | .opening => .operand

/-- Whether a token may come where something is expected, a closing parenthesis being taken to
have a partner. -/
def Expectation.admits : Expectation → Token → Bool
  | .operand, token => beginsTerm token
  | .negatedTag, token => token.isTag
  | .operator, token => token.isBinary || token = .closing

/-- The number of open groups after one more token. -/
def depthAfter (depth : Nat) : Token → Nat
  | .opening => depth + 1
  | .closing => depth - 1
  | _ => depth

/-- **Whether tokens fit** where something is expected and a number of groups is open, and close
all of these. -/
def Fits : Expectation → Nat → List Token → Prop
  | expects, depth, [] => expects = .operator ∧ depth = 0
  | expects, depth, token :: rest =>
    expects.admits token = true ∧ (token = .closing → 0 < depth) ∧
      Fits token.next (depthAfter depth token) rest

/-! ### The parser gets through tokens that fit -/

namespace Reading

/-- A move changes what is expected and how many groups are open by its token alone. -/
theorem Move.shape {r r' : Reading} {token : Token} (h : Move r token r') :
    r'.expects = token.next ∧ r'.outer.length = depthAfter r.outer.length token := by
  cases h <;> exact ⟨rfl, rfl⟩

/-- **A step succeeds exactly when its token may come.** -/
theorem exists_step_iff {r : Reading} {token : Token} :
    (∃ r', r.step token = .ok r') ↔
      r.expects.admits token = true ∧ (token = .closing → 0 < r.outer.length) := by
  simp only [step_eq_ok]
  constructor
  · rintro ⟨r', moved⟩
    cases moved <;> simp [Expectation.admits, beginsTerm, Token.isTag, Token.isBinary]
  · rintro ⟨admitted, partner⟩
    obtain ⟨position, outer, g, expects⟩ := r
    cases expects with
    | operand =>
      cases token <;> simp only [Expectation.admits, beginsTerm, Bool.false_eq_true] at admitted
      · exact ⟨_, .tag ..⟩
      · exact ⟨_, .not ..⟩
      · exact ⟨_, .opening ..⟩
    | negatedTag =>
      cases token <;> simp only [Expectation.admits, Token.isTag, Bool.false_eq_true] at admitted
      exact ⟨_, .negatedTag ..⟩
    | operator =>
      cases token <;> simp [Expectation.admits, Token.isBinary] at admitted
      · exact ⟨_, .and ..⟩
      · exact ⟨_, .or ..⟩
      · cases outer with
        | nil => simp at partner
        | cons around outer => exact ⟨_, .closing ..⟩

/-- A reading may finish after a complete operand outside of all groups. -/
theorem exists_finish_iff {r : Reading} :
    (∃ tree, r.finish = .ok tree) ↔ r.expects = .operator ∧ r.outer.length = 0 := by
  obtain ⟨position, outer, g, expects⟩ := r
  cases expects <;> cases outer <;> simp [finish]

/-- **Readings come to an end exactly on tokens that fit.** -/
theorem exists_run_finish_iff {r : Reading} {tokens : List Token} :
    (∃ r' tree, r.run tokens = .ok r' ∧ r'.finish = .ok tree) ↔
      Fits r.expects r.outer.length tokens := by
  -- A step changes what is expected and how many groups are open exactly as `Fits` goes on.
  induction tokens generalizing r with
  | nil =>
    rw [Fits, ← exists_finish_iff]
    constructor
    · rintro ⟨r', tree, ran, finished⟩
      obtain rfl := Except.ok.inj ran
      exact ⟨tree, finished⟩
    · rintro ⟨tree, finished⟩
      exact ⟨r, tree, rfl, finished⟩
  | cons token rest ih =>
    rw [Fits, ← and_assoc, ← exists_step_iff, run_cons]
    constructor
    · rintro ⟨r', tree, ran, finished⟩
      obtain ⟨middle, moved, ran⟩ := bind_eq_ok.mp ran
      obtain ⟨expects, depth⟩ := (step_eq_ok.mp moved).shape
      refine ⟨⟨middle, moved⟩, ?_⟩
      rw [← expects, ← depth]
      exact ih.mp ⟨r', tree, ran, finished⟩
    · rintro ⟨⟨middle, moved⟩, fits⟩
      obtain ⟨expects, depth⟩ := (step_eq_ok.mp moved).shape
      rw [← expects, ← depth] at fits
      obtain ⟨r', tree, ran, finished⟩ := ih.mpr fits
      exact ⟨r', tree, by rw [moved]; exact ran, finished⟩

end Reading

/-- **Tokens are parsed exactly when they fit the beginning of a query.** -/
theorem exists_parse_iff_fits {tokens : List Token} (some_token : tokens ≠ []) :
    (∃ tree, parse tokens = .ok tree) ↔ Fits .operand 0 tokens := by
  refine Iff.trans ?_ (@Reading.exists_run_finish_iff .start tokens)
  simp only [parse_eq_ok some_token]
  exact exists_comm

/-! ### Parentheses -/

/-- Whether the parentheses among tokens close a number of open groups, and no group that is not
open. -/
def Closes (depth : Nat) (tokens : List Token) : Prop :=
  tokens.foldl Balance.step ⟨depth, false⟩ = ⟨0, false⟩

/-- A stray closing parenthesis is not forgotten. -/
theorem strayClosing_foldl (tokens : List Token) (depth : Nat) :
    (tokens.foldl Balance.step ⟨depth, true⟩).strayClosing = true := by
  induction tokens generalizing depth with
  | nil => rfl
  | cons token rest ih =>
    cases token with
    | closing =>
      by_cases none_open : depth = 0
      · simpa [Balance.step, none_open] using ih 0
      · simpa [Balance.step, none_open] using ih (depth - 1)
    | tag | and | or | not | opening => exact ih _

@[simp] theorem closes_nil {depth : Nat} : Closes depth [] ↔ depth = 0 := by
  simp [Closes]

theorem closes_cons {depth : Nat} {token : Token} {rest : List Token} :
    Closes depth (token :: rest) ↔
      (token = .closing → 0 < depth) ∧ Closes (depthAfter depth token) rest := by
  cases token with
  | closing =>
    cases depth with
    | zero =>
      -- With no group open the parenthesis is stray, and stays so to the end.
      have stray := strayClosing_foldl rest 0
      simp only [Closes, List.foldl_cons, Balance.step, if_true]
      constructor
      · intro closed
        simp [closed] at stray
      · rintro ⟨partner, -⟩
        simp at partner
    | succ depth => simp [Closes, Balance.step, depthAfter]
  | tag | and | or | not | opening => simp [Closes, Balance.step, depthAfter]

/-- The counts of parentheses find nothing exactly when all groups are closed. -/
theorem closes_zero_iff {tokens : List Token} :
    Closes 0 tokens ↔
      Defect.unmatchedOpening.present tokens = false ∧
        Defect.unmatchedClosing.present tokens = false := by
  change balance tokens = ⟨0, false⟩ ↔
    decide (0 < (balance tokens).unclosed) = false ∧ (balance tokens).strayClosing = false
  obtain ⟨unclosed, stray⟩ := balance tokens
  simp

/-- Tokens that close all groups do not end by opening one. -/
theorem Closes.getLast?_ne_opening {depth : Nat} {tokens : List Token} (h : Closes depth tokens) :
    tokens.getLast? ≠ some .opening := by
  induction tokens generalizing depth with
  | nil => simp
  | cons first rest ih =>
    obtain ⟨-, closed⟩ := closes_cons.mp h
    cases rest with
    | nil =>
      rintro last
      obtain rfl : first = .opening := by simpa using last
      simp [depthAfter] at closed
    | cons second rest =>
      rw [List.getLast?_cons_cons]
      exact ih closed

/-! ### The check finds nothing in tokens that fit -/

/-- Neighbours follow one another exactly when no defect of two neighbours is there. -/
theorem admits_next_iff {a b : Token} :
    a.next.admits b = true ↔
      (a.isBinary && b.isBinary) = false ∧ (a = .opening && b = .closing) = false ∧
        (a = .opening && b.isBinary) = false ∧ (a.isBinary && b = .closing) = false ∧
        (endsTerm a && beginsTerm b) = false ∧ (a = .not → b.isTag = true) := by
  cases a <;> cases b <;>
    simp [Token.next, Expectation.admits, Token.isBinary, Token.isTag, endsTerm, beginsTerm]

/-- **Tokens fit exactly when the first one may come, every other one may follow its neighbour, the
last one completes an operand, and the groups close.** -/
theorem fits_cons_iff {expects : Expectation} {depth : Nat} {first : Token} {rest : List Token} :
    Fits expects depth (first :: rest) ↔
      expects.admits first = true ∧
        (∀ a b, Neighbours (first :: rest) a b → a.next.admits b = true) ∧
        (first :: rest).getLast?.map Token.next = some .operator ∧
        Closes depth (first :: rest) := by
  induction rest generalizing expects depth first with
  | nil =>
    simp only [Fits, closes_cons, closes_nil, not_neighbours_singleton, List.getLast?_singleton,
      Option.map_some, Option.some.injEq]
    constructor
    · rintro ⟨admitted, partner, last, closed⟩
      exact ⟨admitted, fun _ _ => False.elim, last, partner, closed⟩
    · rintro ⟨admitted, -, last, partner, closed⟩
      exact ⟨admitted, partner, last, closed⟩
  | cons second rest ih =>
    rw [Fits, ih, @closes_cons depth first, List.getLast?_cons_cons]
    simp only [neighbours_cons_cons]
    constructor
    · rintro ⟨admitted, partner, follows, near, last, closed⟩
      refine ⟨admitted, ?_, last, partner, closed⟩
      rintro a b (⟨rfl, rfl⟩ | beyond)
      · exact follows
      · exact near a b beyond
    · rintro ⟨admitted, near, last, partner, closed⟩
      exact ⟨admitted, partner, near _ _ (Or.inl ⟨rfl, rfl⟩),
        fun a b beyond => near a b (Or.inr beyond), last, closed⟩

/-- A check finds nothing exactly when no defect is present. -/
theorem defects_eq_nil_iff {tokens : List Token} :
    defects tokens = [] ↔ ∀ d : Defect, d.present tokens = false := by
  rw [defects, List.filter_eq_nil_iff]
  constructor
  · intro absent d
    have listed : d ∈ Defect.all := by cases d <;> simp [Defect.all]
    simpa using absent d listed
  · intro absent d _
    simp [absent d]

/-- The last token completes an operand when it is no operator and opens no group. -/
theorem next_eq_operator_iff {token : Token} :
    token.next = .operator ↔ token.isBinary = false ∧ token ≠ .not ∧ token ≠ .opening := by
  cases token <;> simp [Token.next, Token.isBinary]

/-- The first token begins an operand when it is no binary operator and closes no group. -/
theorem beginsTerm_iff {token : Token} :
    beginsTerm token = true ↔ token.isBinary = false ∧ token ≠ .closing := by
  cases token <;> simp [beginsTerm, Token.isBinary]

/-- The defects of two neighbours, other than a dangling negation. -/
def Defect.ofNeighbours : List Defect :=
  [.consecutiveOperators, .emptyParentheses, .operatorAfterOpening, .operatorBeforeClosing,
    .missingOperator]

/-- **All neighbours follow one another exactly when no defect of two neighbours is there** and
every negation has a tag next to it. -/
theorem neighbours_follow_iff {tokens : List Token} :
    (∀ a b, Neighbours tokens a b → a.next.admits b = true) ↔
      (∀ d ∈ Defect.ofNeighbours, d.present tokens = false) ∧
        ∀ b, Neighbours tokens .not b → b.isTag = true := by
  simp only [Defect.ofNeighbours, List.forall_mem_cons, List.not_mem_nil, false_implies,
    implies_true, and_true, Defect.present, hasPair_eq_false]
  constructor
  · intro follows
    have each (a b : Token) (near : Neighbours tokens a b) := admits_next_iff.mp (follows a b near)
    exact ⟨⟨fun a b near => (each a b near).1, fun a b near => (each a b near).2.1,
      fun a b near => (each a b near).2.2.1, fun a b near => (each a b near).2.2.2.1,
      fun a b near => (each a b near).2.2.2.2.1⟩, fun b near => (each .not b near).2.2.2.2.2 rfl⟩
  · rintro ⟨⟨consecutive, empty, opened, closing, missing⟩, tagged⟩ a b near
    refine admits_next_iff.mpr ⟨consecutive a b near, empty a b near, opened a b near,
      closing a b near, missing a b near, ?_⟩
    rintro rfl
    exact tagged b near

/-- **The check finds nothing exactly in tokens that fit the beginning of a query.** -/
theorem defects_eq_nil_iff_fits {tokens : List Token} (some_token : tokens ≠ []) :
    defects tokens = [] ↔ Fits .operand 0 tokens := by
  obtain ⟨first, rest, rfl⟩ := List.exists_cons_of_ne_nil some_token
  obtain ⟨last, ends⟩ : ∃ last, (first :: rest).getLast? = some last :=
    ⟨_, List.getLast?_eq_some_getLast some_token⟩
  rw [defects_eq_nil_iff, fits_cons_iff, neighbours_follow_iff, ends, Option.map_some,
    Option.some.injEq, next_eq_operator_iff]
  constructor
  · intro absent
    have closed := closes_zero_iff.mpr ⟨absent .unmatchedOpening, absent .unmatchedClosing⟩
    obtain ⟨last_not, tagged⟩ := hasDanglingNot_eq_false.mp (absent .danglingNot)
    -- A closing parenthesis at the start and an opening one at the end are seen from the counts.
    have not_closing : first ≠ .closing := by
      rintro rfl
      simpa using (closes_cons.mp closed).1
    have not_opening : last ≠ .opening := by
      rintro rfl
      exact closed.getLast?_ne_opening ends
    refine
      ⟨beginsTerm_iff.mpr ⟨by simpa [Defect.present] using absent .leadingOperator, not_closing⟩,
      ⟨fun d _ => absent d, tagged⟩,
      ⟨by simpa [Defect.present, ends] using absent .trailingOperator, ?_, not_opening⟩, closed⟩
    rintro rfl
    exact last_not ends
  · rintro ⟨admitted, ⟨follows, tagged⟩, ⟨last_binary, last_not, -⟩, closed⟩ d
    obtain ⟨opening, closing⟩ := closes_zero_iff.mp closed
    cases d with
    | unmatchedOpening => exact opening
    | unmatchedClosing => exact closing
    | consecutiveOperators | emptyParentheses | operatorAfterOpening | operatorBeforeClosing
    | missingOperator => exact follows _ (by simp [Defect.ofNeighbours])
    | trailingOperator => simpa [Defect.present, ends] using last_binary
    | leadingOperator => simpa [Defect.present] using (beginsTerm_iff.mp admitted).1
    | danglingNot =>
      refine hasDanglingNot_eq_false.mpr ⟨?_, tagged⟩
      rw [ends]
      simpa using last_not

/-- **A query has no defect exactly when it is parsed.** -/
theorem defects_eq_nil_iff_exists_parse {tokens : List Token} :
    defects tokens = [] ↔ ∃ tree, parse tokens = .ok tree := by
  by_cases none_left : tokens = []
  · subst none_left
    exact iff_of_true rfl ⟨_, rfl⟩
  · rw [defects_eq_nil_iff_fits none_left, exists_parse_iff_fits none_left]

end TradeJournal.Query
