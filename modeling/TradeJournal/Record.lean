import TradeJournal.Trade

/-!
# Records

What a search looks at: trades, or mappings of a data format that have not been made into
trades. Anything else counts as a record that has no fields and no tags.
-/

namespace TradeJournal

/-- **A record.** -/
inductive Record
  | mapping (entries : List (Value × Value))
  | trade (t : Trade)
  | blank
  deriving Repr

namespace Record

/-- A value as a record. -/
def ofValue : Value → Record
  | .mapping entries => .mapping entries
  | _ => .blank

/-- The value of a record under a name; null when there is none. -/
def field (r : Record) (name : String) : Value :=
  match r with
  | mapping entries => (Value.field? entries name).getD .null
  | trade t => t.field name
  | blank => .null

/-- Whether a record has a value under a name. The tags of a trade are its own list and equal
to no value. -/
def fieldIs (r : Record) (name : String) (v : Value) : Bool :=
  match r, name with
  | trade _, "tags" => false
  | r, name => (r.field name).same v

/-- **The tags of a record as they were typed.** One text is one tag; of a list the elements
that are not null count, and of a mapping the names. -/
def typedTags (r : Record) : Except Value.Misuse (List String) :=
  match r with
  | trade t => .ok t.tags
  | r =>
    match r.field "tags" with
    | .text s => .ok (if s = "" then [] else [s])
    | v =>
      if v.isTruthy then do
        let elements ← v.elements
        .ok ((elements.filter (!·.isNull)).map Value.display)
      else .ok []

/-- **The tags of a record** in canonical spelling, each at its first occurrence. -/
def tags (r : Record) : Except Value.Misuse (List String) := do
  .ok (Tag.distinct ((← r.typedTags).map Tag.normalize |>.filter (· ≠ "")))

/-- The identifier of a record, if it has one. -/
def id? (r : Record) : Option String :=
  let v := r.field "id"
  if v.isNull then none else some v.display

/-- The date of a record as it was written; empty when it has none. -/
def date (r : Record) : String := Trade.textOf (r.field "date")

end Record

end TradeJournal
