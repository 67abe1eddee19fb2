import TradeJournal.Query.Token
import TradeJournal.Text.Letter

/-!
# Recognizing a query

A search box takes both free text and queries. A text is taken for a query when it has a
marker anywhere or an operator as a word of its own, in any case. Words are stretches of
letters, digits and underscores here, so punctuation ends them too.
-/

namespace TradeJournal.Query

/-- The operator words in lower case. -/
def operatorWords : List (List Char) := [['a', 'n', 'd'], ['o', 'r'], ['n', 'o', 't']]

/-- What follows a word at the start of a text, letters compared in lower case. -/
def afterWord? : List Char → List Char → Option (List Char)
  | [], rest => some rest
  | w :: word, c :: rest => if Text.lowerChar c = [w] then afterWord? word rest else none
  | _ :: _, [] => none

/-- Whether a text begins with an operator word at whose end a word ends. -/
def beginsWithOperator (text : List Char) : Bool :=
  operatorWords.any fun word =>
    match afterWord? word text with
    | some (c :: _) => !Text.isWord c
    | some [] => true
    | none => false

/-- **Whether an operator stands in a text as a word of its own**; the first argument tells
whether the character before the text belongs to a word. -/
def hasOperatorWord (afterWordChar : Bool) : List Char → Bool
  | [] => false
  | c :: rest =>
    (!afterWordChar && beginsWithOperator (c :: rest)) || hasOperatorWord (Text.isWord c) rest

/-- **Whether a text looks like a query.** -/
def looksLikeQuery (text : String) : Bool :=
  Tag.marker ∈ text.toList || hasOperatorWord false text.toList

/-- **Whether a value looks like a query.** One that says nothing does not. A list looks like one if
the marker is an element of it, and a mapping if the marker is a key; neither can be searched for
words. -/
def valueLooksLikeQuery (v : Value) : Except Value.Misuse Bool :=
  match v with
  | .text s => .ok (looksLikeQuery s)
  | v =>
    if !v.isTruthy then .ok false
    else
      match v.elements with
      | .error _ => .error (.notContainer v.kind)
      | .ok items =>
        if items.any (·.same (.text (String.singleton Tag.marker))) then .ok true
        else .error (.notText v.kind)

end TradeJournal.Query
