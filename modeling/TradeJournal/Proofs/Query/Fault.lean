import TradeJournal.Proofs.Query.Beginning
import TradeJournal.Proofs.Text.Trimming

/-!
# Where a query goes wrong

The parser gives up at the first token that cannot continue what has been read, or behind the last
token when something is still missing there. Which fault it gives up with is decided by what it
expects and by whether a group is open:

| expected | at a token | behind the last token |
|---|---|---|
| an operand | the token and its position | the end of the query |
| the tag of a negation | a dangling negation | a dangling negation |
| an operator, outside of all groups | the token and its position | none |
| an operator, in a group | a group that is not closed | a group that is not closed |

`parse_eq_error` says this of all tokens. What has been read before the parser gives up leads
somewhere (`Leads`), so it can be completed to a query; with the token that does not fit it leads
nowhere. Hence the position in a message is that of the first token that no query with this
beginning has.
-/

namespace TradeJournal.Query

/-! ### Beginnings of what is parsed -/

/-- **Whether tokens can be continued to a query** that the parser accepts. -/
def IsViable (tokens : List Token) : Prop := ∃ more tree, parse (tokens ++ more) = .ok tree

/-- The parser accepts what the check finds nothing in, so both have the same beginnings. -/
theorem isViable_iff_isBeginning {tokens : List Token} : IsViable tokens ↔ IsBeginning tokens := by
  refine exists_congr fun more => ?_
  rw [problems, List.map_eq_nil_iff, defects_eq_nil_iff_exists_parse]

/-- **Viable tokens** are those that lead anywhere. -/
theorem isViable_iff {tokens : List Token} :
    IsViable tokens ↔ ∃ expects depth, Leads .operand 0 tokens expects depth :=
  isViable_iff_isBeginning.trans isBeginning_iff

/-- Tokens lead to one place only. -/
theorem Leads.unique {expects between between' : Expectation} {depth among among' : Nat}
    {tokens : List Token} (h : Leads expects depth tokens between among)
    (h' : Leads expects depth tokens between' among') : between = between' ∧ among = among' := by
  refine ⟨h.expects_eq.trans h'.expects_eq.symm, ?_⟩
  have counted := h.depth_add
  have counted' := h'.depth_add
  omega

/-! ### Giving up -/

/-- **Whether a reading cannot go on**: the next token may not come, or there is none and the groups
or the last operand are not complete. -/
def Stuck (expects : Expectation) (depth : Nat) : Option Token → Prop
  | some token => ¬(expects.admits token = true ∧ (token = .closing → 0 < depth))
  | none => ¬(expects = .operator ∧ depth = 0)

/-- **The fault of a reading that cannot go on**, by what it expects, the number of open groups, and
the next token with its position. -/
def SyntaxFault.of (expects : Expectation) (depth position : Nat) : Option Token → SyntaxFault
  | some token =>
    match expects, depth with
    | .operand, _ | .operator, 0 => .unexpected token position
    | .negatedTag, _ => .danglingNot
    | .operator, _ + 1 => .unmatchedOpening
  | none =>
    match expects with
    | .operand => .unexpectedEnd
    | .negatedTag => .danglingNot
    | .operator => .unmatchedOpening

namespace Reading

/-- A step goes on by one token. -/
theorem position_of_step {r r' : Reading} {token : Token} (moved : r.step token = .ok r') :
    r'.position = r.position + 1 := by
  cases step_eq_ok.mp moved <;> rfl

/-- The fault of a step is the one that the table has for it. -/
theorem fault_of_step {r : Reading} {token : Token} {f : SyntaxFault}
    (failed : r.step token = .error f) :
    f = .of r.expects r.outer.length r.position (some token) := by
  obtain ⟨position, outer, g, expects⟩ := r
  cases expects <;> cases token <;> cases outer <;>
    simp_all [step, SyntaxFault.of, eq_comm]

/-- **A step fails exactly at a token that may not come.** -/
theorem step_eq_error {r : Reading} {token : Token} {f : SyntaxFault} :
    r.step token = .error f ↔ Stuck r.expects r.outer.length (some token) ∧
      f = .of r.expects r.outer.length r.position (some token) := by
  constructor
  · intro failed
    refine ⟨fun admitted => ?_, fault_of_step failed⟩
    obtain ⟨r', moved⟩ := exists_step_iff.mpr admitted
    rw [failed] at moved
    cases moved
  · rintro ⟨stuck, rfl⟩
    obtain ⟨f', failed⟩ := exists_error_iff.mpr (mt exists_step_iff.mp stuck)
    rw [failed, fault_of_step failed]

/-- **Behind the last token a reading fails exactly where a query does not end.** -/
theorem finish_eq_error {r : Reading} {f : SyntaxFault} :
    r.finish = .error f ↔ Stuck r.expects r.outer.length none ∧
      f = .of r.expects r.outer.length r.position none := by
  obtain ⟨position, outer, g, expects⟩ := r
  cases expects <;> cases outer <;> simp [finish, Stuck, SyntaxFault.of, eq_comm]

/-- **How readings fail**: some of the tokens lead on, and behind them the reading is stuck. -/
theorem run_finish_eq_error {r : Reading} {tokens : List Token} {f : SyntaxFault} :
    r.run tokens >>= finish = .error f ↔
      ∃ before after expects depth, tokens = before ++ after ∧
        Leads r.expects r.outer.length before expects depth ∧ Stuck expects depth after.head? ∧
        f = .of expects depth (r.position + before.length) after.head? := by
  -- A step that succeeds is one token more before the place where the reading is stuck.
  induction tokens generalizing r with
  | nil =>
    have read : (r.run [] >>= finish) = r.finish := rfl
    rw [read, finish_eq_error]
    constructor
    · rintro ⟨stuck, rfl⟩
      exact ⟨[], [], _, _, rfl, ⟨rfl, rfl⟩, stuck, rfl⟩
    · rintro ⟨before, after, expects, depth, cut, leads, stuck, rfl⟩
      obtain ⟨rfl, rfl⟩ := List.append_eq_nil_iff.mp cut.symm
      obtain ⟨rfl, rfl⟩ := leads
      exact ⟨stuck, rfl⟩
  | cons token rest ih =>
    have read : (r.run (token :: rest) >>= finish) = r.step token >>= fun r' =>
        r'.run rest >>= finish := by
      rw [run_cons, bind_assoc]
    rw [read, bind_eq_error, step_eq_error]
    constructor
    · rintro (⟨stuck, rfl⟩ | ⟨r', moved, failed⟩)
      · exact ⟨[], token :: rest, _, _, rfl, ⟨rfl, rfl⟩, stuck, rfl⟩
      · obtain ⟨before, after, expects, depth, rfl, leads, stuck, rfl⟩ := ih.mp failed
        have may := exists_step_iff.mp ⟨r', moved⟩
        obtain ⟨expected, opened⟩ := (step_eq_ok.mp moved).shape
        rw [expected, opened] at leads
        refine ⟨token :: before, after, expects, depth, rfl, ⟨may.1, may.2, leads⟩, stuck, ?_⟩
        rw [position_of_step moved, List.length_cons, Nat.add_assoc, Nat.add_comm 1]
    · rintro ⟨before, after, expects, depth, cut, leads, stuck, rfl⟩
      cases before with
      | nil =>
        obtain ⟨rfl, rfl⟩ := leads
        rw [List.nil_append] at cut
        subst cut
        exact Or.inl ⟨stuck, rfl⟩
      | cons first before =>
        obtain ⟨rfl, rfl⟩ := List.cons.inj cut
        obtain ⟨admitted, partner, leads⟩ := leads
        obtain ⟨r', moved⟩ := exists_step_iff.mpr ⟨admitted, partner⟩
        obtain ⟨expected, opened⟩ := (step_eq_ok.mp moved).shape
        rw [← expected, ← opened] at leads
        refine Or.inr ⟨r', moved, ih.mpr ⟨before, after, expects, depth, rfl, leads, stuck, ?_⟩⟩
        rw [position_of_step moved, List.length_cons, Nat.add_assoc, Nat.add_comm 1]

end Reading

/-- **The faults of tokens.** Tokens that are no query have a part that leads somewhere and behind
which the parser is stuck, and what they fail with is decided there. -/
theorem parse_eq_error {tokens : List Token} {f : SyntaxFault} :
    parse tokens = .error f ↔
      tokens ≠ [] ∧ ∃ before after expects depth, tokens = before ++ after ∧
        Leads .operand 0 before expects depth ∧ Stuck expects depth after.head? ∧
        f = .of expects depth before.length after.head? := by
  by_cases nothing : tokens = []
  · subst nothing
    simp [parse]
  · rw [parse_of_ne_nil nothing, Reading.run_finish_eq_error, and_iff_right nothing]
    simp only [Reading.start, List.length_nil, Nat.zero_add]

/-! ### Positions in messages

A tag may be spelt like the end of a message, so the position that a message names is read off its
last word. -/

namespace SyntaxFault

theorem isDigit_of_mem_number {n : Nat} {c : Char} (member : c ∈ (toString n).toList) :
    c.isDigit = true := by
  rw [Nat.toString_eq_ofList_toDigits, String.toList_ofList] at member
  exact Nat.isDigit_of_mem_toDigits (by omega) (by omega) member

/-- Numbers that are written alike are the same. -/
theorem eq_of_number_eq {m n : Nat} (same : (toString m).toList = (toString n).toList) : m = n := by
  rw [Nat.toString_eq_ofList_toDigits, Nat.toString_eq_ofList_toDigits, String.toList_ofList,
    String.toList_ofList] at same
  have read := congrArg (Nat.ofDigitChars 10 · 0) same
  simpa only [Nat.ofDigitChars_ten_toDigits] using read

/-- **A text that names a position at its end** has the number as its last word. -/
theorem lastWord_position (lead : String) (n : Nat) :
    Text.lastWord (lead ++ " at position " ++ toString n).toList = (toString n).toList := by
  have solid : ∀ c ∈ (toString n).toList, Text.isBlank c = false := by
    intro c member
    have digit := Char.isDigit_iff_toNat.mp (isDigit_of_mem_number member)
    have codes : 48 ≤ c.toNat ∧ c.toNat ≤ 57 := digit
    simp only [Text.isBlank, Bool.or_eq_false_iff, Bool.and_eq_false_iff, decide_eq_false_iff_not,
      beq_eq_false_iff_ne]
    omega
  have apart : ∀ c ∈ (lead ++ " at position ").toList.getLast?, Text.isBlank c = true := by
    intro c last
    rw [String.toList_append, List.getLast?_append] at last
    obtain rfl : ' ' = c := Option.some.inj last
    rfl
  rw [String.toList_append]
  exact Text.lastWord_append solid apart

/-- A message whose last word is a number names the token that cannot stand where it does. -/
theorem eq_unexpected_of_message {f : SyntaxFault} {lead : String} {position : Nat}
    (named : f.message = lead ++ " at position " ++ toString position) :
    ∃ token, f = .unexpected token position := by
  have number : Text.lastWord f.message.toList = (toString position).toList := by
    rw [named, lastWord_position]
  have digits : ∀ c ∈ Text.lastWord f.message.toList, c.isDigit = true := by
    rw [number]
    exact fun c => isDigit_of_mem_number
  cases f with
  | unexpected token position' =>
    have own := lastWord_position ("Unexpected token " ++ token.described) position'
    obtain rfl : position' = position := eq_of_number_eq (own.symm.trans number)
    exact ⟨token, rfl⟩
  -- The last words of the other messages are "query", "tag" and "parenthesis".
  | unexpectedEnd => cases digits 'q' (by decide)
  | danglingNot => cases digits 'g' (by decide)
  | unmatchedOpening => cases digits 'p' (by decide)

/-- The message about the end of a query is that of one fault only. -/
theorem eq_unexpectedEnd_of_message {f : SyntaxFault}
    (named : f.message = "Unexpected end of query") :
    f = .unexpectedEnd := by
  cases f with
  | unexpectedEnd => rfl
  | unexpected token position =>
    have own : Text.lastWord "Unexpected end of query".toList = (toString position).toList := by
      rw [← named]
      exact lastWord_position ("Unexpected token " ++ token.described) position
    have inside : 'q' ∈ (toString position).toList := by
      rw [← own]
      decide
    cases isDigit_of_mem_number inside
  | danglingNot | unmatchedOpening => exact absurd named (by decide)

end SyntaxFault

/-- A token that is named by a fault is where the parser is stuck: the tokens before it lead
somewhere, and with it they lead nowhere. -/
theorem viable_until_unexpected {tokens : List Token} {token : Token} {position : Nat}
    (failed : parse tokens = .error (.unexpected token position)) :
    tokens[position]? = some token ∧ IsViable (tokens.take position) ∧
      ¬IsViable (tokens.take (position + 1)) := by
  obtain ⟨-, before, after, expects, depth, rfl, leads, stuck, fault⟩ := parse_eq_error.mp failed
  cases after with
  | nil => cases expects <;> simp [SyntaxFault.of] at fault
  | cons next after =>
    obtain ⟨rfl, rfl⟩ : token = next ∧ position = before.length := by
      cases expects <;> cases depth <;> simp [SyntaxFault.of] at fault <;> exact fault
    refine ⟨by simp, ?_, ?_⟩
    · rw [List.take_left]
      exact isViable_iff.mpr ⟨expects, depth, leads⟩
    · rw [List.take_append, List.take_of_length_le (by omega), Nat.add_sub_cancel_left,
        List.take_succ_cons,
        List.take_zero, isViable_iff]
      rintro ⟨beyond, among, leads_on⟩
      obtain ⟨between, depth', leads', may, partner, -⟩ := leads_append.mp leads_on
      obtain ⟨rfl, rfl⟩ := leads.unique leads'
      exact stuck ⟨may, partner⟩

/-- Tokens that end where an operand is missing lead to where one is expected. -/
theorem viable_of_unexpectedEnd {tokens : List Token}
    (failed : parse tokens = .error .unexpectedEnd) :
    IsViable tokens := by
  obtain ⟨-, before, after, expects, depth, rfl, leads, stuck, fault⟩ := parse_eq_error.mp failed
  cases after with
  | nil =>
    rw [List.append_nil]
    exact isViable_iff.mpr ⟨expects, depth, leads⟩
  | cons next after => cases expects <;> cases depth <;> simp [SyntaxFault.of] at fault

/-- **The positions of faults are exact.** A message that names a position names that of a token.
The tokens before it are the beginning of a query, and with it they are not. The end of a query is
named only when all the tokens are the beginning of one. -/
theorem fault_positions_exact (tokens : List Token) (fault : SyntaxFault)
    (failed : parse tokens = .error fault) :
    (∀ (lead : String) (position : Nat),
        fault.message = lead ++ " at position " ++ toString position →
        position < tokens.length ∧
          (∃ token, tokens[position]? = some token ∧ fault = .unexpected token position) ∧
          IsViable (tokens.take position) ∧ ¬IsViable (tokens.take (position + 1))) ∧
      (fault.message = "Unexpected end of query" → IsViable tokens) := by
  constructor
  · intro lead position named
    obtain ⟨token, rfl⟩ := SyntaxFault.eq_unexpected_of_message named
    obtain ⟨stands, viable, stuck⟩ := viable_until_unexpected failed
    obtain ⟨inside, -⟩ := List.getElem?_eq_some_iff.mp stands
    exact ⟨inside, ⟨token, stands, rfl⟩, viable, stuck⟩
  · intro named
    obtain rfl := SyntaxFault.eq_unexpectedEnd_of_message named
    exact viable_of_unexpectedEnd failed

/-- A closing parenthesis where an operand is due, in a group; a tag without an operator before it,
whose text ends as if it named a position; and a group that stops after a connective. -/
theorem fault_positions_exact_nested :
    let group : List Token := [.tag "#a", .and, .opening, .not, .tag "#b", .or, .closing]
    let misleading : List Token := [.tag "#a", .tag "b at position 9"]
    let stopped : List Token := [.opening, .tag "#a", .or]
    (parse group = .error (.unexpected .closing 6) ∧
      SyntaxFault.message (.unexpected .closing 6) = "Unexpected token ) at position 6" ∧
      IsViable (group.take 6) ∧ ¬IsViable group) ∧
    (parse misleading = .error (.unexpected (.tag "b at position 9") 1) ∧
      SyntaxFault.message (.unexpected (.tag "b at position 9") 1) =
        "Unexpected token b at position 9 at position 1" ∧
      IsViable (misleading.take 1) ∧ ¬IsViable misleading) ∧
    parse stopped = .error .unexpectedEnd ∧ IsViable stopped := by
  intro group misleading stopped
  have failed : parse group = .error (.unexpected .closing 6) := rfl
  have failed' : parse misleading = .error (.unexpected (.tag "b at position 9") 1) := rfl
  have failed'' : parse stopped = .error .unexpectedEnd := rfl
  obtain ⟨-, -, viable, stuck⟩ :=
    (fault_positions_exact group _ failed).1 "Unexpected token )" 6 (by decide)
  obtain ⟨-, -, viable', stuck'⟩ := (fault_positions_exact misleading _ failed').1
    "Unexpected token b at position 9" 1 (by decide)
  have viable'' := (fault_positions_exact stopped _ failed'').2 rfl
  exact ⟨⟨failed, by decide, viable, stuck⟩, ⟨failed', by decide, viable', stuck'⟩, failed'',
    viable''⟩

end TradeJournal.Query
