import TradeJournal.Text.Quoted

/-!
# Writing JSON

Reports are JSON texts with an indentation of two, one element to a line. Characters stand
for themselves, save the quote, the backslash and the controls.
-/

namespace TradeJournal.Json

/-- **What a report is made of**: nothing, truth values, texts, lists, and records with named
fields. -/
inductive Report
  | null
  | bool (b : Bool)
  | text (s : String)
  | list (items : List Report)
  | record (fields : List (String × Report))
  deriving Repr, Inhabited

/-- One character of a string. -/
def writtenChar (c : Char) : List Char :=
  if c = '"' then ['\\', '"']
  else if c = '\\' then ['\\', '\\']
  else if c = '\n' then ['\\', 'n']
  else if c = '\r' then ['\\', 'r']
  else if c = '\t' then ['\\', 't']
  else if c.toNat = 8 then ['\\', 'b']
  else if c.toNat = 12 then ['\\', 'f']
  else if c.toNat < 32 then '\\' :: 'u' :: Text.hexDigits 4 c.toNat
  else [c]

/-- A string between quotes. -/
def writtenString (s : String) : List Char := '"' :: s.toList.flatMap writtenChar ++ ['"']

/-- A new line at a given depth. -/
def newLine (depth : Nat) : List Char := '\n' :: List.replicate (2 * depth) ' '

mutual

/-- **The text of a report** at a given depth. -/
def Report.written (depth : Nat) : Report → List Char
  | .null => "null".toList
  | .bool b => (if b then "true" else "false").toList
  | .text s => writtenString s
  | .list [] => ['[', ']']
  | .list (item :: rest) =>
    '[' :: newLine (depth + 1) ++ item.written (depth + 1) ++ writtenRest depth rest
      ++ newLine depth ++ [']']
  | .record [] => [Char.ofNat 0x7B, Char.ofNat 0x7D]
  | .record ((name, item) :: rest) =>
    Char.ofNat 0x7B :: newLine (depth + 1) ++ writtenString name ++ ':' :: ' ' ::
      item.written (depth + 1) ++ writtenFields depth rest ++ newLine depth ++ [Char.ofNat 0x7D]

/-- Further elements of a list, each after a comma. -/
def writtenRest (depth : Nat) : List Report → List Char
  | [] => []
  | item :: rest => ',' :: newLine (depth + 1) ++ item.written (depth + 1) ++ writtenRest depth rest

/-- Further fields of a record, each after a comma. -/
def writtenFields (depth : Nat) : List (String × Report) → List Char
  | [] => []
  | (name, item) :: rest =>
    ',' :: newLine (depth + 1) ++ writtenString name ++ ':' :: ' ' :: item.written (depth + 1)
      ++ writtenFields depth rest

end

end TradeJournal.Json
