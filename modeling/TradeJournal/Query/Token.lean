import TradeJournal.Tag

/-!
# Tokens of a query

A query is a sequence of tokens: tags, the three operator words, and parentheses. Blanks and
parentheses end a word. A word that is an operator in upper case is that operator; any other
word is a tag in its canonical spelling, or nothing when no character of it can stay.
-/

namespace TradeJournal.Query

/-- **A token.** The text of a tag is its canonical spelling wherever the token was read
from a query. -/
inductive Token
  | tag (text : String)
  | and
  | or
  | not
  | opening
  | closing
  deriving DecidableEq, Repr

namespace Token

/-- Whether a token is an operator word. -/
def isOperator : Token → Bool
  | and | or | not => true
  | _ => false

/-- Whether a token joins what stands on both sides of it. -/
def isBinary : Token → Bool
  | and | or => true
  | _ => false

/-- Whether a token is a tag. -/
def isTag : Token → Bool
  | tag _ => true
  | _ => false

/-- The word for a kind of token. -/
def kindName : Token → String
  | tag _ => "TAG"
  | and => "AND"
  | or => "OR"
  | not => "NOT"
  | opening => "("
  | closing => ")"

/-- How a message names a token: a tag by its text, if it has one. -/
def described : Token → String
  | tag text => if text = "" then "TAG" else text
  | token => token.kindName

/-- The operator that a word is, if it is one. -/
def operator? (word : List Char) : Option Token :=
  let name := Text.upper word
  if name = ['A', 'N', 'D'] then some and
  else if name = ['O', 'R'] then some or
  else if name = ['N', 'O', 'T'] then some not
  else none

/-- **The token of a word**; none for a word of which no tag remains. -/
def ofWord? (word : List Char) : Option Token :=
  match operator? word with
  | some token => some token
  | none =>
    let text := Tag.ofBody (Tag.body word)
    if text = "" then none else some (tag text)

/-- **The tokens of a text.** The first argument is the word read so far, in reverse. -/
def scanFrom (word : List Char) : List Char → List Token
  | [] => (ofWord? word.reverse).toList
  | c :: rest =>
    if c = '(' then (ofWord? word.reverse).toList ++ opening :: scanFrom [] rest
    else if c = ')' then (ofWord? word.reverse).toList ++ closing :: scanFrom [] rest
    else if Text.isBlank c then (ofWord? word.reverse).toList ++ scanFrom [] rest
    else scanFrom (c :: word) rest

/-- The tokens of a text given by its characters. -/
def scan (text : List Char) : List Token := scanFrom [] text

end Token

/-- **The tokens of a query.** -/
def tokenize (query : String) : List Token := Token.scan query.toList

/-- The tags among the tokens of a query, in order. -/
def tagTexts (tokens : List Token) : List String :=
  tokens.filterMap fun
    | .tag text => some text
    | _ => none

end TradeJournal.Query
