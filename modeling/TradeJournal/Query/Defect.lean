import TradeJournal.Query.Token

/-!
# Defects of a query

Before a query is read its tokens are checked for ten defects, each of which can be seen
from neighbouring tokens or by counting parentheses. They are reported once each, in a fixed order.
-/

namespace TradeJournal.Query

/-- **A defect**, in the order of reporting. -/
inductive Defect
  | unmatchedOpening
  | unmatchedClosing
  | consecutiveOperators
  | trailingOperator
  | leadingOperator
  | danglingNot
  | emptyParentheses
  | operatorAfterOpening
  | operatorBeforeClosing
  | missingOperator
  deriving DecidableEq, Repr

namespace Defect

/-- All defects, in the order of reporting. -/
def all : List Defect :=
  [unmatchedOpening, unmatchedClosing, consecutiveOperators, trailingOperator, leadingOperator,
    danglingNot, emptyParentheses, operatorAfterOpening, operatorBeforeClosing, missingOperator]

/-- The wording of a defect. -/
def message : Defect → String
  | unmatchedOpening => "Unmatched opening parenthesis"
  | unmatchedClosing => "Unmatched closing parenthesis"
  | consecutiveOperators => "Cannot have consecutive operators"
  | trailingOperator => "Query cannot end with AND or OR"
  | leadingOperator => "Query cannot start with AND or OR"
  | danglingNot => "NOT operator must be followed by a tag"
  | emptyParentheses => "Empty parentheses"
  | operatorAfterOpening => "Operator cannot follow an opening parenthesis"
  | operatorBeforeClosing => "Operator cannot precede a closing parenthesis"
  | missingOperator => "Missing operator between terms"

end Defect

/-- The opening parentheses without a partner, and whether a closing one has none. -/
structure Balance where
  unclosed : Nat
  strayClosing : Bool
  deriving DecidableEq, Repr

/-- The balance after one more token. -/
def Balance.step (b : Balance) : Token → Balance
  | .opening => { b with unclosed := b.unclosed + 1 }
  | .closing => if b.unclosed = 0 then { b with strayClosing := true }
    else { b with unclosed := b.unclosed - 1 }
  | _ => b

/-- The balance of a sequence of tokens. -/
def balance (tokens : List Token) : Balance := tokens.foldl Balance.step ⟨0, false⟩

/-- Whether two neighbours somewhere among the tokens are of the given shape. -/
def hasPair (shape : Token → Token → Bool) (tokens : List Token) : Bool :=
  (tokens.zip tokens.tail).any fun pair => shape pair.1 pair.2

/-- Whether a term ends with this token. -/
def endsTerm : Token → Bool
  | .tag _ | .closing => true
  | _ => false

/-- Whether a term begins with this token. -/
def beginsTerm : Token → Bool
  | .tag _ | .opening | .not => true
  | _ => false

/-- Whether some negation is last or is followed by something other than a tag. -/
def hasDanglingNot : List Token → Bool
  | [] => false
  | .not :: .tag _ :: rest => hasDanglingNot rest
  | .not :: _ => true
  | _ :: rest => hasDanglingNot rest

/-- **Whether a defect is present.** -/
def Defect.present (tokens : List Token) : Defect → Bool
  | .unmatchedOpening => 0 < (balance tokens).unclosed
  | .unmatchedClosing => (balance tokens).strayClosing
  | .consecutiveOperators => hasPair (fun a b => a.isBinary && b.isBinary) tokens
  | .trailingOperator => (tokens.getLast?.map Token.isBinary).getD false
  | .leadingOperator => (tokens.head?.map Token.isBinary).getD false
  | .danglingNot => hasDanglingNot tokens
  | .emptyParentheses => hasPair (fun a b => a = .opening && b = .closing) tokens
  | .operatorAfterOpening => hasPair (fun a b => a = .opening && b.isBinary) tokens
  | .operatorBeforeClosing => hasPair (fun a b => a.isBinary && b = .closing) tokens
  | .missingOperator => hasPair (fun a b => endsTerm a && beginsTerm b) tokens

/-- **The defects of a query**, in the order of reporting. -/
def defects (tokens : List Token) : List Defect := Defect.all.filter (Defect.present tokens)

/-- The defects of a query in words. -/
def problems (tokens : List Token) : List String := (defects tokens).map Defect.message

end TradeJournal.Query
