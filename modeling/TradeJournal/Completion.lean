import TradeJournal.Query.Token
import TradeJournal.TagIndex

/-!
# Completing a query

While a query is being typed, tags are proposed for its end. After an operator or an opening
parenthesis a further tag is appended that is not yet in the query; a word that has been begun is
replaced, tags that begin with it coming before tags in which it occurs; nothing completes a closing
parenthesis. What stands before the last word stays as it is.
-/

namespace TradeJournal.Completion

open Query (Token)

/-- The tags that may be proposed, by use. -/
def candidates (stats : List TagStats) (excluded : List String) : List TagStats :=
  TagIndex.ranked (stats.filter fun s => s.tag ∉ excluded)

/-- **The tags that a begun word fits**: those whose bodies begin with it, then those in whose
bodies it occurs elsewhere. -/
def fitting (stats : List TagStats) (body : List Char) (excluded : List String) : List TagStats :=
  let allowed := stats.filter fun s => s.tag ∉ excluded
  let begins (s : TagStats) : Bool := body.isPrefixOf (Tag.bodyOf s.tag)
  TagIndex.ranked (allowed.filter begins)
    ++ TagIndex.ranked (allowed.filter fun s => !begins s && Text.occursIn body (Tag.bodyOf s.tag))

/-- Whether a tag or a group is due after a token. -/
def awaitsOperand : Token → Bool
  | .and | .or | .not | .opening => true
  | _ => false

/-- **How a typed text goes on**: the text before every proposed tag, and the tags, best first. -/
def continuation (typed : List Char) (stats : List TagStats) (excluded : List String) :
    List Char × List TagStats :=
  if Text.allBlank typed then ([], candidates stats excluded)
  else
    let text := Text.trimEnd typed
    let last := Text.lastWord text
    let tokens := Token.scan last
    if (tokens.getLast?.map awaitsOperand).getD false then
      let excluded := excluded ++ Query.tagTexts (Token.scan typed)
      (text ++ (if text.getLast? = some '(' then [] else [' ']), candidates stats excluded)
    else if last.getLast? = some ')' then ([], [])
    else
      let word := last.dropWhile (· = '(')
      let before := text.take (text.length - word.length)
      let body := Tag.body word
      (before, if body.isEmpty then candidates stats excluded else fitting stats body excluded)

/-- **The completions of a typed text**, best first. -/
def completions (typed : String) (index : TagIndex) (excluded : List String) (limit : Int) :
    List String :=
  let c := continuation typed.toList index.stats excluded
  (TagIndex.limited limit c.2).map fun s => String.ofList (c.1 ++ s.tag.toList)

/-- **The completions of a typed value** while a record is being edited, whose own tags are not
proposed. Without room for an answer, or without tags, nothing else is looked at. -/
def suggest (typed : Value) (index : TagIndex) (current : Option Record) (limit : Int) :
    Except Value.Misuse (List String) :=
  if limit ≤ 0 ∨ index.isEmpty then .ok []
  else do
    let excluded ← match current with
      | some r => r.tags
      | none => .ok []
    let text ← typed.textOr (.noOperation · "strip")
    .ok (completions text index excluded limit)

end TradeJournal.Completion
