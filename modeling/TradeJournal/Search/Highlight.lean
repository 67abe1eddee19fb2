import TradeJournal.Record

/-!
# Highlights

For each record found, those of its own tags that the query refers to.
-/

namespace TradeJournal.Search

/-- **The tags of one record that deserve attention**, in the order of the record. -/
structure Highlight where
  recordId : String
  tags : List String
  deriving DecidableEq, Repr

/-- The highlight of a record, given canonical tags. -/
def highlight (wanted : List String) (r : Record) : Except Value.Misuse Highlight := do
  .ok ⟨(r.field "id").display, (← r.tags).filter (· ∈ wanted)⟩

/-- The highlights of several records. -/
def highlightAll (wanted : List String) : List Record → Except Value.Misuse (List Highlight)
  | [] => .ok []
  | r :: rest => do
    let first ← highlight wanted r
    let others ← highlightAll wanted rest
    .ok (first :: others)

/-- **The highlights of records** for tags in any spelling. -/
def highlights (records : List Record) (matching : List String) :
    Except Value.Misuse (List Highlight) :=
  highlightAll (matching.map Tag.normalize) records

/-- Tags given by values; one that says something has to be a text. -/
def tagTexts : List Value → Except Value.Misuse (List String)
  | [] => .ok []
  | v :: rest => do
    let first ← v.textOr (.noOperation · "strip")
    let others ← tagTexts rest
    .ok (first :: others)

end TradeJournal.Search
