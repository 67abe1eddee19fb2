import TradeJournal.Search.Highlight
import TradeJournal.Search.Result

/-!
# Views

What is shown of a search or of completions, worked out before the form of showing is chosen.
-/

namespace TradeJournal

open Search (Highlight)

/-- **What is shown of a trade.** -/
structure TradeView where
  id : String
  date : String
  currencyPair : Option String
  side : Option String
  status : Option String
  tags : List String
  highlighted : List String
  deriving DecidableEq, Repr

/-- **What is shown of a search.** There may have been no query. -/
structure SearchView where
  query : Option String
  isValid : Bool
  problems : List String
  matchingTags : List String
  trades : List TradeView
  deriving DecidableEq, Repr

/-- **What is shown of completions.** Nothing may have been typed. -/
structure SuggestionView where
  typed : Option String
  completions : List String
  deriving DecidableEq, Repr

/-- A value as a text, unless it is null. -/
def Value.display? (v : Value) : Option String := if v.isNull then none else some v.display

/-- **The view of a record** and those of its tags that deserve attention. -/
def TradeView.ofRecord (r : Record) (highlighted : List String) :
    Except Value.Misuse TradeView := do
  .ok
    { id := (r.field "id").display
      date := r.date
      currencyPair := (r.field "currency_pair").display?
      side := (r.field "side").display?
      status := (r.field "status").display?
      tags := ← r.tags
      highlighted }

/-- The views of records with their highlights. -/
def TradeView.ofRecords : List (Record × Highlight) → Except Value.Misuse (List TradeView)
  | [] => .ok []
  | (r, h) :: rest => do
    let first ← TradeView.ofRecord r h.tags
    let others ← TradeView.ofRecords rest
    .ok (first :: others)

/-- **The view of a search**, given the highlights of the records found. -/
def SearchView.ofResult (query : Option String) (result : Search.Result)
    (highlights : List Highlight) :
    Except Value.Misuse SearchView := do
  .ok
    { query
      isValid := result.isValid
      problems := result.problems
      matchingTags := result.matchingTags
      trades := ← TradeView.ofRecords (result.records.zip highlights) }

end TradeJournal
