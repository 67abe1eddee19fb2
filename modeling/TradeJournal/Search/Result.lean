import TradeJournal.Query.Defect
import TradeJournal.Query.Parser
import TradeJournal.Search.Snapshot

/-!
# Results of searches

A search either finds the records that match its query or rejects the query and says why.
-/

namespace TradeJournal.Search

open Query (Tree)

/-- **The outcome of a search**: the problems of a query that was rejected, or the records that
match in the order of the collection, the tags that the query refers to, and the query's tree. -/
inductive Result
  | rejected (problems : List String)
  | matched (records : List Record) (tags : List String) (tree : Tree)
  deriving Repr

namespace Result

/-- Whether the query was accepted. -/
def isValid : Result → Bool
  | rejected _ => false
  | matched .. => true

/-- The records that match; none for a rejected query. -/
def records : Result → List Record
  | rejected _ => []
  | matched records .. => records

/-- The tags that the query refers to; none for a rejected query. -/
def matchingTags : Result → List String
  | rejected _ => []
  | matched _ tags _ => tags

/-- The problems of the query; none for an accepted one. -/
def problems : Result → List String
  | rejected problems => problems
  | matched .. => []

/-- The tree of the query; a rejected one asks for nothing. -/
def tree : Result → Tree
  | rejected _ => .empty
  | matched _ _ tree => tree

end Result

/-- Whether a record with the given tags matches; something that is no query matches nothing. -/
def matchesTags (tree : Tree) (tags : List String) :
    Bool := (tree.evaluate tags).toOption.getD false

/-- **Searching a snapshot.** -/
def run (snapshot : Snapshot) (query : String) : Result :=
  let tokens := Query.tokenize query
  match Query.problems tokens with
  | [] =>
    match Query.parse tokens with
    | .error f => .rejected [f.message]
    | .ok tree =>
      .matched ((snapshot.entries.filter fun entry => matchesTags tree entry.2).map (·.1))
        (tree.referencedTags.toOption.getD []) tree
  | problems => .rejected problems

/-- **Searching records.** -/
def search (records : List Record) (query : String) : Except Value.Misuse Result := do
  .ok (run (← Snapshot.ofRecords records) query)

end TradeJournal.Search
