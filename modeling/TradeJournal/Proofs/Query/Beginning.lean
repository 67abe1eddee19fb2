import TradeJournal.Proofs.Query.Fit

/-!
# Beginnings of queries

Tokens are the beginning of a query when something can be put behind them so that the check finds
nothing. What can be put there is decided by two things alone: what is expected next, and how many
groups are open. `Leads` says how tokens get from one such pair to another. Tokens are the beginning
of a query when they lead anywhere at all (`isBeginning_iff`), for from everywhere a query can be
completed: by a tag, if an operand is missing, and by closing the open groups.
-/

namespace TradeJournal.Query

/-- **Whether tokens are the beginning of a query**, the whole of one included. -/
def IsBeginning (tokens : List Token) : Prop := ∃ more, problems (tokens ++ more) = []

/-- **Where tokens lead**: from what is expected and the number of open groups before them to what
is expected and the number of open groups after them, every token coming where it may. -/
def Leads : Expectation → Nat → List Token → Expectation → Nat → Prop
  | expects, depth, [], expects', depth' => expects' = expects ∧ depth' = depth
  | expects, depth, token :: rest, expects', depth' =>
    expects.admits token = true ∧ (token = .closing → 0 < depth) ∧
      Leads token.next (depthAfter depth token) rest expects' depth'

variable {expects expects' : Expectation} {depth depth' : Nat} {tokens : List Token}

@[simp] theorem leads_nil :
    Leads expects depth [] expects' depth' ↔ expects' = expects ∧ depth' = depth := Iff.rfl

theorem leads_cons {token : Token} {rest : List Token} :
    Leads expects depth (token :: rest) expects' depth' ↔
      expects.admits token = true ∧ (token = .closing → 0 < depth) ∧
        Leads token.next (depthAfter depth token) rest expects' depth' := Iff.rfl

/-- **Tokens fit** when they lead behind a complete operand, outside of all groups. -/
theorem fits_iff_leads : Fits expects depth tokens ↔ Leads expects depth tokens .operator 0 := by
  induction tokens generalizing expects depth with
  | nil =>
    rw [Fits, leads_nil]
    exact and_congr eq_comm eq_comm
  | cons token rest ih => rw [Fits, leads_cons, ih]

/-- **Tokens lead where their parts lead**, one after the other. -/
theorem leads_append {second : List Token} :
    Leads expects depth (tokens ++ second) expects' depth' ↔
      ∃ between among, Leads expects depth tokens between among ∧
        Leads between among second expects' depth' := by
  induction tokens generalizing expects depth with
  | nil =>
    constructor
    · exact fun h => ⟨expects, depth, ⟨rfl, rfl⟩, h⟩
    · rintro ⟨_, _, ⟨rfl, rfl⟩, h⟩
      exact h
  | cons token rest ih =>
    simp only [List.cons_append, leads_cons, ih]
    constructor
    · rintro ⟨admitted, partner, between, among, first, second⟩
      exact ⟨between, among, ⟨admitted, partner, first⟩, second⟩
    · rintro ⟨between, among, ⟨admitted, partner, first⟩, second⟩
      exact ⟨admitted, partner, between, among, first, second⟩

/-- What is expected after tokens depends on the last one only. -/
theorem Leads.expects_eq (h : Leads expects depth tokens expects' depth') :
    expects' = (tokens.getLast?.map Token.next).getD expects := by
  induction tokens generalizing expects depth with
  | nil => exact h.1
  | cons token rest ih =>
    rw [ih h.2.2]
    cases rest with
    | nil => rfl
    | cons second rest => rw [List.getLast?_cons_cons, List.getLast?_eq_some_getLast (by simp)]; rfl

/-- **The open groups** are those that were opened and not closed. -/
theorem Leads.depth_add (h : Leads expects depth tokens expects' depth') :
    depth' + tokens.count .closing = depth + tokens.count .opening := by
  induction tokens generalizing expects depth with
  | nil =>
    obtain ⟨-, rfl⟩ := h
    rfl
  | cons token rest ih =>
    obtain ⟨-, partner, rest_leads⟩ := h
    have counted := ih rest_leads
    cases token with
    | closing =>
      have open_group := partner rfl
      simp [depthAfter] at counted ⊢
      omega
    | opening =>
      simp [depthAfter] at counted ⊢
      omega
    | tag | and | or | not => simpa [depthAfter] using counted

/-- Behind a complete operand the open groups may be closed. -/
theorem leads_replicate_closing (depth : Nat) :
    Leads .operator depth (List.replicate depth .closing) .operator 0 := by
  induction depth with
  | zero => exact ⟨rfl, rfl⟩
  | succ depth ih => exact ⟨rfl, fun _ => Nat.succ_pos depth, ih⟩

/-- **A tag that is missing**, and the ends of the open groups, complete a query. -/
theorem leads_completed (missing : expects ≠ .operator) (tag : String) (depth : Nat) :
    Leads expects depth (.tag tag :: List.replicate depth .closing) .operator 0 := by
  refine ⟨?_, ?_, leads_replicate_closing depth⟩
  · cases expects with
    | operator => exact absurd rfl missing
    | operand | negatedTag => rfl
  · intro is_closing
    cases is_closing

/-- Tokens that lead behind a complete operand are a query: the check finds nothing, and they are
parsed. -/
theorem Leads.isQuery (h : Leads .operand 0 tokens .operator 0) :
    problems tokens = [] ∧ ∃ tree, parse tokens = .ok tree := by
  have some_token : tokens ≠ [] := by
    rintro rfl
    cases h.1
  have fits := fits_iff_leads.mpr h
  exact ⟨List.map_eq_nil_iff.mpr ((defects_eq_nil_iff_fits some_token).mpr fits),
    (exists_parse_iff_fits some_token).mpr fits⟩

/-- **The beginnings of queries** are the tokens that lead anywhere. -/
theorem isBeginning_iff : IsBeginning tokens ↔ ∃ expects depth,
    Leads .operand 0 tokens expects depth := by
  constructor
  · rintro ⟨more, none_found⟩
    rw [problems, List.map_eq_nil_iff] at none_found
    by_cases nothing : tokens ++ more = []
    · obtain ⟨rfl, -⟩ := List.append_eq_nil_iff.mp nothing
      exact ⟨_, _, rfl, rfl⟩
    · have whole := fits_iff_leads.mp ((defects_eq_nil_iff_fits nothing).mp none_found)
      obtain ⟨between, among, first, -⟩ := leads_append.mp whole
      exact ⟨between, among, first⟩
  · rintro ⟨expects, depth, leads⟩
    by_cases complete : expects = .operator
    · rw [complete] at leads
      exact ⟨_, (leads_append.mpr ⟨_, _, leads, leads_replicate_closing depth⟩).isQuery.1⟩
    · exact ⟨_, (leads_append.mpr ⟨_, _, leads, leads_completed complete "" depth⟩).isQuery.1⟩

end TradeJournal.Query
