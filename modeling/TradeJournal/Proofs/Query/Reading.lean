import TradeJournal.Proofs.Except
import TradeJournal.Proofs.Query.Grammar

/-!
# Reading follows the grammar

The parser reads tokens one at a time with a pushdown of open groups, and the grammar says
what a query is. The main statement is that they agree: reading a sequence of tokens gives a
tree exactly when the grammar derives that tree from them.

* **Every phrase is read to its tree.** Where an operand is due, the tokens of a primary or of
  a negation add one operand to the group, and those of a chain fill the group; the groups
  around it are left alone. This is an induction on the derivation.
* **Whatever has been read is a sequence of phrases.** `Reading.Stands` cuts the tokens read so far
  at the open parentheses and, within each group, at the connectives. One more token keeps it, so it
  holds along every run, and where a reading may finish the cut is a derivation.

A reading is a function of the tokens, so a query has one tree at most.
-/

namespace TradeJournal.Query

/-! ### Runs -/

/-- **Several more tokens.** -/
def Reading.run (r : Reading) (tokens : List Token) : Except SyntaxFault Reading :=
  tokens.foldlM Reading.step r

namespace Reading

@[simp] theorem run_nil (r : Reading) : r.run [] = .ok r := rfl

theorem run_cons (r : Reading) (token : Token) (tokens : List Token) :
    r.run (token :: tokens) = r.step token >>= fun r => r.run tokens := rfl

theorem run_append (r : Reading) (first second : List Token) :
    r.run (first ++ second) = r.run first >>= fun r => r.run second := by
  simp [run, List.foldlM_append]

/-- A run goes on where another one ended. -/
theorem run_append_of_ok {r r' : Reading} {first : List Token} (h : r.run first = .ok r')
    (second : List Token) : r.run (first ++ second) = r'.run second := by
  rw [run_append, h]
  rfl

theorem run_singleton (r : Reading) (token : Token) : r.run [token] = r.step token := by
  rw [run_cons]
  cases r.step token <;> rfl

end Reading

theorem parse_of_ne_nil {tokens : List Token} (h : tokens ≠ []) :
    parse tokens = Reading.start.run tokens >>= Reading.finish := by
  match tokens with
  | _ :: _ => rfl

/-- What a tree was read from was read and then finished. -/
theorem parse_eq_ok {tokens : List Token} {tree : Tree} (h : tokens ≠ []) :
    parse tokens = .ok tree ↔ ∃ r, Reading.start.run tokens = .ok r ∧ r.finish = .ok tree := by
  rw [parse_of_ne_nil h, bind_eq_ok]

/-! ### Moves

A step that succeeds is one of seven moves, by what is expected and which token comes. -/

/-- **What a step can do.** -/
inductive Reading.Move : Reading → Token → Reading → Prop
  | tag (position : Nat) (outer : List Group) (g : Group) (text : String) :
    Move ⟨position, outer, g, .operand⟩ (.tag text)
      ⟨position + 1, outer, g.addOperand (.tag text), .operator⟩
  | not (position : Nat) (outer : List Group) (g : Group) :
    Move ⟨position, outer, g, .operand⟩ .not ⟨position + 1, outer, g, .negatedTag⟩
  | opening (position : Nat) (outer : List Group) (g : Group) :
    Move ⟨position, outer, g, .operand⟩ .opening ⟨position + 1, g :: outer, .start, .operand⟩
  | negatedTag (position : Nat) (outer : List Group) (g : Group) (text : String) :
    Move ⟨position, outer, g, .negatedTag⟩ (.tag text)
      ⟨position + 1, outer, g.addOperand (.not (.tag text)), .operator⟩
  | and (position : Nat) (outer : List Group) (g : Group) :
    Move ⟨position, outer, g, .operator⟩ .and ⟨position + 1, outer, g, .operand⟩
  | or (position : Nat) (outer : List Group) (g : Group) :
    Move ⟨position, outer, g, .operator⟩ .or ⟨position + 1, outer, g.closeAlternative, .operand⟩
  | closing (position : Nat) (outer : List Group) (around g : Group) :
    Move ⟨position, around :: outer, g, .operator⟩ .closing
      ⟨position + 1, outer, around.addOperand g.tree, .operator⟩

/-- **A step succeeds exactly with a move.** -/
theorem Reading.step_eq_ok {r r' : Reading} {token : Token} :
    r.step token = .ok r' ↔ Move r token r' := by
  constructor
  · intro h
    obtain ⟨position, outer, g, expects⟩ := r
    cases expects with
    | operand =>
      cases token <;> simp only [step, Except.ok.injEq, reduceCtorEq] at h
      · exact h ▸ .tag ..
      · exact h ▸ .not ..
      · exact h ▸ .opening ..
    | negatedTag =>
      cases token <;> simp only [step, Except.ok.injEq, reduceCtorEq] at h
      exact h ▸ .negatedTag ..
    | operator =>
      cases outer with
      | nil =>
        cases token <;> simp only [step, Except.ok.injEq, reduceCtorEq] at h
        · exact h ▸ .and ..
        · exact h ▸ .or ..
      | cons around outer =>
        cases token <;> simp [step] at h
        · exact h ▸ .and ..
        · exact h ▸ .or ..
        · exact h ▸ .closing ..
  · intro h
    cases h <;> rfl

/-! ### Phrases are read to their trees -/

/-- **The reading after a phrase**, which leaves the innermost group as given and the groups
around it alone. -/
def Reading.after (r : Reading) (phrase : List Token) (g : Group) : Reading :=
  ⟨r.position + phrase.length, r.outer, g, .operator⟩

/-- **How a phrase is read** where an operand is due, by its level. -/
def IsRead : Level → List Token → Tree → Prop
  | .primary, tokens, tree | .negation, tokens, tree =>
    ∀ r : Reading, r.expects = .operand →
      r.run tokens = .ok (r.after tokens (r.group.addOperand tree))
  | .chain .and, tokens, tree =>
    ∀ r : Reading, r.expects = .operand → r.group.conjuncts = [] →
      ∃ conjuncts, r.run tokens = .ok (r.after tokens { r.group with conjuncts }) ∧
        gathered .and conjuncts.reverse = tree
  | .chain .or, tokens, tree =>
    ∀ r : Reading, r.expects = .operand → r.group = .start →
      ∃ g : Group, r.run tokens = .ok (r.after tokens g) ∧ g.tree = tree

theorem gathered_of_two_le {node : List Tree → Tree} {operands : List Tree}
    (several : 2 ≤ operands.length) : gathered node operands = node operands := by
  match operands with
  | [] | [_] => simp at several
  | _ :: _ :: _ => rfl

/-- Conjuncts and the connectives between them are read one conjunct after the other. -/
theorem run_conjuncts {operands : List (List Token × Tree)} (some_operand : operands ≠ [])
    (each : ∀ operand ∈ operands, IsRead .negation operand.1 operand.2) (r : Reading)
    (due : r.expects = .operand) :
    r.run ([.and].intercalate (operands.map (·.1))) =
      .ok (r.after ([.and].intercalate (operands.map (·.1)))
        { r.group with conjuncts := (operands.map (·.2)).reverse ++ r.group.conjuncts }) := by
  induction operands generalizing r with
  | nil => exact absurd rfl some_operand
  | cons first rest ih =>
    have read := each first (by simp) r due
    by_cases last : rest = []
    · subst last
      simpa [Group.addOperand] using read
    · have more : rest.map (·.1) ≠ [] := by simpa using last
      rw [List.map_cons, List.intercalate_cons_of_ne_nil more, List.append_assoc,
        Reading.run_append_of_ok read, List.singleton_append, Reading.run_cons]
      -- The connective makes an operand due again and keeps the conjuncts.
      have joined : (r.after first.1 (r.group.addOperand first.2)).step .and =
          .ok ⟨r.position + first.1.length + 1, r.outer, r.group.addOperand first.2, .operand⟩ :=
            rfl
      rw [joined]
      refine (ih last (fun operand member => each operand (by simp [member])) _ rfl).trans ?_
      simp [Reading.after, Group.addOperand, Nat.add_assoc, Nat.add_comm 1]

/-- Alternatives and the connectives between them are read one alternative after the other. -/
theorem run_alternatives {operands : List (List Token × Tree)} (some_operand : operands ≠ [])
    (each : ∀ operand ∈ operands, IsRead (.chain .and) operand.1 operand.2) (r : Reading)
    (due : r.expects = .operand) (fresh : r.group.conjuncts = []) :
    ∃ g : Group, r.run ([.or].intercalate (operands.map (·.1))) =
        .ok (r.after ([.or].intercalate (operands.map (·.1))) g) ∧
      g.closeAlternative.alternatives = (operands.map (·.2)).reverse ++ r.group.alternatives := by
  induction operands generalizing r with
  | nil => exact absurd rfl some_operand
  | cons first rest ih =>
    obtain ⟨conjuncts, read, made⟩ := each first (by simp) r due fresh
    by_cases last : rest = []
    · subst last
      refine ⟨{ r.group with conjuncts }, by simpa using read, ?_⟩
      simp [Group.closeAlternative, made]
    · have more : rest.map (·.1) ≠ [] := by simpa using last
      -- The connective turns the conjuncts into an alternative and starts over with none.
      have joined : (r.after first.1 { r.group with conjuncts }).step .or =
          .ok ⟨r.position + first.1.length + 1, r.outer, ⟨first.2 :: r.group.alternatives, []⟩,
            .operand⟩ := by
        rw [← made]
        rfl
      obtain ⟨g, rest_read, rest_made⟩ :=
        ih last (fun operand member => each operand (by simp [member])) ⟨r.position
          + first.1.length + 1, r.outer, ⟨first.2 :: r.group.alternatives, []⟩, .operand⟩ rfl rfl
      refine ⟨g, ?_, by simpa using rest_made⟩
      rw [List.map_cons, List.intercalate_cons_of_ne_nil more, List.append_assoc,
        Reading.run_append_of_ok read, List.singleton_append, Reading.run_cons, joined]
      refine rest_read.trans ?_
      simp [Reading.after, Nat.add_assoc, Nat.add_comm 1]

/-- **A chain is read to the tree that its operands are gathered under.** -/
theorem isRead_chain (c : Connective) {operands : List (List Token × Tree)}
    (some_operand : operands ≠ [])
    (each : ∀ operand ∈ operands, IsRead c.operands operand.1 operand.2) :
    IsRead (.chain c) ([c.token].intercalate (operands.map (·.1)))
      (gathered c.node (operands.map (·.2))) := by
  cases c with
  | and =>
    intro r due fresh
    refine ⟨_, run_conjuncts some_operand each r due, ?_⟩
    simp [fresh, Connective.node]
  | or =>
    intro r due fresh
    obtain ⟨g, read, made⟩ :=
      run_alternatives some_operand each r due (by rw [fresh]; rfl)
    refine ⟨g, read, ?_⟩
    rw [Group.tree, made, fresh]
    simp [Group.start, Connective.node]

/-- **Every phrase is read to its tree.** -/
theorem Derives.isRead {level : Level} {tokens : List Token} {tree : Tree}
    (h : Derives level tokens tree) : IsRead level tokens tree := by
  induction h with
  | tag text =>
    intro r due
    simp [Reading.run_singleton, Reading.step, due, Reading.withOperand, Reading.after]
  | negated text =>
    intro r due
    simp [Reading.run_cons, Reading.step, due, Reading.withOperand, Reading.after, bind,
      Except.bind]
  | plain _ ih => exact ih
  | @group tokens tree _ ih =>
    intro r due
    -- The group inside is read from the start; what has been read so far waits around it.
    have opened : r.step .opening = .ok ⟨r.position + 1, r.group :: r.outer, .start, .operand⟩ := by
      simp [Reading.step, due]
    obtain ⟨g, read, rfl⟩ := ih ⟨r.position + 1, r.group :: r.outer, .start, .operand⟩ rfl rfl
    rw [List.cons_append, Reading.run_cons, opened]
    refine (Reading.run_append_of_ok read _).trans ?_
    rw [Reading.run_singleton]
    simp [Reading.after, Reading.step, Nat.add_assoc, Nat.add_comm 1]
  | @lone c tokens tree _ ih =>
    have read := @isRead_chain c [(tokens, tree)] (by simp) (by simpa using ih)
    simpa [gathered] using read
  | joined c operands several _ ih =>
    have some_operand : operands ≠ [] := by
      rintro rfl
      simp at several
    have read := isRead_chain c some_operand ih
    rwa [gathered_of_two_le (by simpa using several)] at read

/-- **A query that the grammar derives is parsed to its tree.** -/
theorem parse_of_derivation {tokens : List Token} {tree : Tree} (h : Derivation tokens tree) :
    parse tokens = .ok tree := by
  obtain ⟨g, read, made⟩ := h.isRead Reading.start rfl rfl
  refine (parse_eq_ok h.tokens_ne_nil).mpr ⟨_, read, ?_⟩
  rw [← made]
  rfl

/-! ### What has been read is a sequence of phrases -/

/-- **Operands that wait for another one**: the tokens of operands with a connective after
each of them, and their trees, latest first. -/
def Waiting (c : Connective) (tokens : List Token) (trees : List Tree) : Prop :=
  ∃ operands : List (List Token × Tree),
    (∀ operand ∈ operands, Derives c.operands operand.1 operand.2) ∧
      tokens = (operands.flatMap fun operand => operand.1 ++ [c.token]) ∧
      trees.reverse = operands.map (·.2)

namespace Waiting

variable {c : Connective} {tokens own : List Token} {trees : List Tree} {tree : Tree}

theorem nil (c : Connective) : Waiting c [] [] := ⟨[], by simp, rfl, rfl⟩

theorem snoc (h : Waiting c tokens trees) (phrase : Derives c.operands own tree) :
    Waiting c (tokens ++ own ++ [c.token]) (tree :: trees) := by
  obtain ⟨operands, each, rfl, made⟩ := h
  refine ⟨operands ++ [(own, tree)], ?_, by simp, by simp [made]⟩
  exact List.forall_mem_append.mpr ⟨each, by simpa using phrase⟩

/-- The operand that was waited for completes the chain. -/
theorem complete (h : Waiting c tokens trees) (phrase : Derives c.operands own tree) :
    Derives (.chain c) (tokens ++ own) (gathered c.node (tree :: trees).reverse) := by
  obtain ⟨operands, each, rfl, made⟩ := h
  have chain := @Derives.of_operands c (operands ++ [(own, tree)]) (by simp)
    (List.forall_mem_append.mpr ⟨each, by simpa using phrase⟩)
  have tokens_eq := flatMap_append_eq_intercalate c.token operands (·.1) (own, tree)
  rw [List.reverse_cons, made, tokens_eq]
  simpa using chain

end Waiting

namespace Group

/-- The tokens that a group has read when an operand is due: alternatives, then conjuncts, with a
connective after each. -/
def Due (g : Group) (tokens : List Token) : Prop :=
  ∃ before now, tokens = before ++ now ∧ Waiting .or before g.alternatives ∧
    Waiting .and now g.conjuncts

/-- The tokens that a group has read when an operand has just been completed. -/
def Done (g : Group) (tokens : List Token) : Prop :=
  ∃ before now own tree trees, tokens = before ++ now ++ own ∧ g.conjuncts = tree :: trees ∧
    Waiting .or before g.alternatives ∧ Waiting .and now trees ∧ Derives .negation own tree

/-- The tokens that a group has read, by what it expects. -/
def Holds (g : Group) : Expectation → List Token → Prop
  | .operand, tokens => g.Due tokens
  | .negatedTag, tokens => ∃ earlier, tokens = earlier ++ [.not] ∧ g.Due earlier
  | .operator, tokens => g.Done tokens

variable {g : Group} {tokens : List Token}

theorem Due.start : Group.start.Due [] := ⟨[], [], rfl, .nil _, .nil _⟩

theorem Due.addOperand {own : List Token} {tree : Tree} (h : g.Due tokens)
    (phrase : Derives .negation own tree) : (g.addOperand tree).Done (tokens ++ own) := by
  obtain ⟨before, now, rfl, alternatives, conjuncts⟩ := h
  exact ⟨before, now, own, tree, g.conjuncts, rfl, rfl, alternatives, conjuncts, phrase⟩

theorem Done.and (h : g.Done tokens) : g.Due (tokens ++ [.and]) := by
  obtain ⟨before, now, own, tree, trees, rfl, made, alternatives, conjuncts, phrase⟩ := h
  refine ⟨before, now ++ own ++ [.and], by simp, alternatives, ?_⟩
  rw [made]
  exact conjuncts.snoc phrase

theorem Done.closeAlternative (h : g.Done tokens) : g.closeAlternative.Due (tokens ++ [.or]) := by
  obtain ⟨before, now, own, tree, trees, rfl, made, alternatives, conjuncts, phrase⟩ := h
  refine ⟨before ++ (now ++ own) ++ [.or], [], by simp, ?_, .nil _⟩
  have alternative := conjuncts.complete phrase
  rw [← made] at alternative
  exact alternatives.snoc alternative

/-- **A group that may be closed has read a query.** -/
theorem Done.derivation (h : g.Done tokens) : Derivation tokens g.tree := by
  obtain ⟨before, now, own, tree, trees, rfl, made, alternatives, conjuncts, phrase⟩ := h
  have alternative := conjuncts.complete phrase
  rw [← made] at alternative
  rw [List.append_assoc]
  exact alternatives.complete alternative

end Group

/-- The tokens read before the innermost open group, given the groups around it. -/
inductive Around : List Token → List Group → Prop
  | nil : Around [] []
  | cons {earlier own : List Token} {outer : List Group} {g : Group} :
    Around earlier outer → g.Due own → Around (earlier ++ own ++ [.opening]) (g :: outer)

/-- **The tokens that a reading stands after**: those before the innermost group, then those
that this group has read. -/
def Reading.Stands (r : Reading) (tokens : List Token) : Prop :=
  ∃ earlier own, tokens = earlier ++ own ∧ Around earlier r.outer ∧ r.group.Holds r.expects own

namespace Reading

variable {r r' : Reading} {tokens : List Token}

theorem stands_start : start.Stands [] := ⟨[], [], rfl, .nil, .start⟩

/-- **One more token is one more token of the phrases.** -/
theorem Stands.step {token : Token} (h : r.Stands tokens) (moved : r.step token = .ok r') :
    r'.Stands (tokens ++ [token]) := by
  obtain ⟨earlier, own, rfl, around, holds⟩ := h
  cases step_eq_ok.mp moved with
  | tag position outer g text =>
    refine ⟨earlier, own ++ [.tag text], by simp, around, ?_⟩
    exact Group.Due.addOperand holds (.plain (.tag text))
  | not position outer g =>
    exact ⟨earlier, own ++ [.not], by simp, around, own, rfl, holds⟩
  | opening position outer g =>
    exact ⟨earlier ++ own ++ [.opening], [], by simp, .cons around holds, .start⟩
  | negatedTag position outer g text =>
    obtain ⟨before, rfl, due⟩ := holds
    refine ⟨earlier, before ++ [.not, .tag text], by simp, around, ?_⟩
    exact due.addOperand (.negated text)
  | and position outer g =>
    refine ⟨earlier, own ++ [.and], by simp, around, ?_⟩
    exact Group.Done.and holds
  | or position outer g =>
    refine ⟨earlier, own ++ [.or], by simp, around, ?_⟩
    exact Group.Done.closeAlternative holds
  | closing position outer enclosing g =>
    cases around with
    | @cons earlier before outer enclosing around due =>
      -- The innermost group has read a query, and the one around it takes this as an operand.
      refine ⟨earlier, before ++ (.opening :: own ++ [.closing]), by simp, around, ?_⟩
      exact due.addOperand (.plain (.group holds.derivation))

/-- **A run adds its tokens to the phrases.** -/
theorem Stands.run {more : List Token} (h : r.Stands tokens) (ran : r.run more = .ok r') :
    r'.Stands (tokens ++ more) := by
  induction more generalizing r tokens with
  | nil =>
    obtain rfl := Except.ok.inj ran
    simpa using h
  | cons token more ih =>
    obtain ⟨next, moved, ran⟩ := bind_eq_ok.mp ran
    simpa using ih (h.step moved) ran

/-- **Where a reading finishes, its tokens are a query.** -/
theorem Stands.finish {tree : Tree} (h : r.Stands tokens) (finished : r.finish = .ok tree) :
    Derivation tokens tree := by
  obtain ⟨earlier, own, rfl, around, holds⟩ := h
  obtain ⟨position, outer, g, expects⟩ := r
  -- Only where an operator may come, and with no group around, does a reading finish.
  cases expects with
  | operand | negatedTag => simp [Reading.finish] at finished
  | operator =>
    cases around with
    | cons => simp [Reading.finish] at finished
    | nil =>
      obtain rfl : g.tree = tree := by simpa [Reading.finish] using finished
      exact holds.derivation

end Reading

/-! ### The parser and the grammar -/

/-- **What is parsed is derived.** -/
theorem derivation_of_parse {tokens : List Token} {tree : Tree} (some_token : tokens ≠ [])
    (parsed : parse tokens = .ok tree) : Derivation tokens tree := by
  obtain ⟨r, ran, finished⟩ := (parse_eq_ok some_token).mp parsed
  exact (Reading.stands_start.run ran).finish finished

/-- Derived trees are the parsed ones. -/
theorem parse_eq_ok_iff_derivation {tokens : List Token} {tree : Tree} (some_token : tokens ≠ []) :
    parse tokens = .ok tree ↔ Derivation tokens tree :=
  ⟨derivation_of_parse some_token, parse_of_derivation⟩

/-- A query has one tree at most. -/
theorem Derives.tree_unique {tokens : List Token} {first second : Tree}
    (h : Derivation tokens first) (h' : Derivation tokens second) : first = second := by
  have same := (parse_of_derivation h).symm.trans (parse_of_derivation h')
  exact Except.ok.inj same

/-- Tokens are parsed when they are none at all or the grammar derives a tree from them. -/
theorem exists_parse_iff {tokens : List Token} :
    (∃ tree, parse tokens = .ok tree) ↔ tokens = [] ∨ ∃ tree, Derivation tokens tree := by
  by_cases none_left : tokens = []
  · simp [none_left, parse]
  · simp [none_left, parse_eq_ok_iff_derivation none_left]

/-- **The parser implements the grammar.** No tokens ask for nothing; of any others the tree is
the one that the grammar derives, of which there is one at most, and there is a fault
exactly when it derives none. -/
theorem parse_implements_grammar :
    parse [] = .ok (.and []) ∧
      ∀ tokens : List Token, tokens ≠ [] →
        (∀ tree, parse tokens = .ok tree ↔ Derivation tokens tree) ∧
        (∀ first second, Derivation tokens first → Derivation tokens second → first = second) ∧
        ((∃ f, parse tokens = .error f) ↔ ¬∃ tree, Derivation tokens tree) := by
  refine ⟨rfl, fun tokens some_token => ⟨fun tree => parse_eq_ok_iff_derivation some_token,
    fun first second => Derives.tree_unique, ?_⟩⟩
  rw [exists_error_iff, exists_parse_iff]
  simp [some_token]

/-- A conjunction with a group in it: its tokens are parsed, so they are derived, and from no other
tree. -/
theorem parse_implements_grammar_nested :
    Derivation [.tag "#a", .and, .opening, .tag "#b", .or, .not, .tag "#c", .closing]
        (.and [.tag "#a", .or [.tag "#b", .not (.tag "#c")]]) ∧
      ∀ tree,
        Derivation [.tag "#a", .and, .opening, .tag "#b", .or, .not, .tag "#c", .closing] tree →
        tree = .and [.tag "#a", .or [.tag "#b", .not (.tag "#c")]] := by
  obtain ⟨derived, unique, -⟩ := parse_implements_grammar.2
    [.tag "#a", .and, .opening, .tag "#b", .or, .not, .tag "#c", .closing] (List.cons_ne_nil _ _)
  have read : Derivation _ _ := (derived _).mp rfl
  exact ⟨read, fun tree other => unique tree _ other read⟩

end TradeJournal.Query
