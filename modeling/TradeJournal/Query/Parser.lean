import TradeJournal.Query.Token
import TradeJournal.Query.Tree

/-!
# Reading a query

Tokens are read one after the other, with a pushdown of the groups that are still open. AND
binds tighter than OR; operands joined by the same operator are gathered under one node, and
an operand that stands alone is not wrapped. NOT applies to the one tag that follows it.

What may come next is always one of three things: an operand, the tag of a negation, or an operator
or closing parenthesis. The first token that cannot come next is the fault; its position counts from
zero.
-/

namespace TradeJournal.Query

/-- **Why tokens are no query.** -/
inductive SyntaxFault
  /-- A token that cannot stand at its position. -/
  | unexpected (token : Token) (position : Nat)
  /-- The tokens end where an operand is due. -/
  | unexpectedEnd
  /-- A negation without a tag. -/
  | danglingNot
  /-- A group that is not closed where it has to be. -/
  | unmatchedOpening
  deriving DecidableEq, Repr

/-- The wording of a fault. -/
def SyntaxFault.message : SyntaxFault → String
  | .unexpected token position =>
    "Unexpected token " ++ token.described ++ " at position " ++ toString position
  | .unexpectedEnd => "Unexpected end of query"
  | .danglingNot => "NOT operator must be followed by a tag"
  | .unmatchedOpening => "Unmatched opening parenthesis"

/-- Operands under one node; one operand alone stands for itself. -/
def gathered (node : List Tree → Tree) : List Tree → Tree
  | [operand] => operand
  | operands => node operands

/-- **A group that is being read**: the alternatives that are complete and the conjuncts of the
next one, each list latest first. -/
structure Group where
  alternatives : List Tree
  conjuncts : List Tree
  deriving Repr

namespace Group

/-- A group of which nothing has been read. -/
def start : Group := ⟨[], []⟩

/-- One more operand. -/
def addOperand (g : Group) (operand : Tree) : Group :=
  { g with conjuncts := operand :: g.conjuncts }

/-- The conjuncts made into an alternative. -/
def closeAlternative (g : Group) : Group :=
  ⟨gathered .and g.conjuncts.reverse :: g.alternatives, []⟩

/-- The tree of a group that is complete. -/
def tree (g : Group) : Tree := gathered .or g.closeAlternative.alternatives.reverse

end Group

/-- What may come next. -/
inductive Expectation
  | operand
  | negatedTag
  | operator
  deriving DecidableEq, Repr

/-- **A query that is being read**: how many tokens have been read, the groups around the
innermost open one, that group itself, and what may come next. -/
structure Reading where
  position : Nat
  outer : List Group
  group : Group
  expects : Expectation
  deriving Repr

namespace Reading

/-- Before the first token. -/
def start : Reading := ⟨0, [], .start, .operand⟩

/-- The reading after one more operand, of which a token was the last. -/
def withOperand (r : Reading) (operand : Tree) : Reading :=
  { r with position := r.position + 1, group := r.group.addOperand operand, expects := .operator }

/-- **One more token.** -/
def step (r : Reading) (token : Token) : Except SyntaxFault Reading :=
  match r.expects, token with
  | .operand, .tag text => .ok (r.withOperand (.tag text))
  | .operand, .not => .ok { r with position := r.position + 1, expects := .negatedTag }
  | .operand, .opening => .ok ⟨r.position + 1, r.group :: r.outer, .start, .operand⟩
  | .operand, token => .error (.unexpected token r.position)
  | .negatedTag, .tag text => .ok (r.withOperand (.not (.tag text)))
  | .negatedTag, _ => .error .danglingNot
  | .operator, .and => .ok { r with position := r.position + 1, expects := .operand }
  | .operator, .or =>
    .ok { r with position := r.position + 1, group := r.group.closeAlternative, expects :=
      .operand }
  | .operator, token =>
    match r.outer with
    | [] => .error (.unexpected token r.position)
    | around :: outer =>
      if token = .closing then
        .ok ⟨r.position + 1, outer, around.addOperand r.group.tree, .operator⟩
      else .error .unmatchedOpening

/-- The tree, when the tokens end here. -/
def finish (r : Reading) : Except SyntaxFault Tree :=
  match r.expects with
  | .operand => .error .unexpectedEnd
  | .negatedTag => .error .danglingNot
  | .operator => if r.outer.isEmpty then .ok r.group.tree else .error .unmatchedOpening

end Reading

/-- **The tree of a sequence of tokens.** No tokens at all ask for nothing. -/
def parse (tokens : List Token) : Except SyntaxFault Tree :=
  match tokens with
  | [] => .ok .empty
  | tokens => do (← tokens.foldlM Reading.step .start).finish

/-- The tree of a sequence of tokens, or the query that asks for nothing. -/
def parseOrEmpty (tokens : List Token) : Tree :=
  match parse tokens with
  | .ok t => t
  | .error _ => .empty

end TradeJournal.Query
