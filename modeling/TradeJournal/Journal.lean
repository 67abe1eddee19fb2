import TradeJournal.Json.Reader
import TradeJournal.Text.Lines
import TradeJournal.Text.Utf8
import TradeJournal.Trade

/-!
# Journals

A journal is a file with a JSON text: a list of trades, or a mapping with that list under
one name. The file is known by its path in messages.
-/

namespace TradeJournal.Journal

/-- **Why a file is no journal.** -/
inductive Fault
  | notText (f : Text.Utf8Fault)
  | notJson (path : String) (text : List Char) (f : Json.Fault)
  | noList (path : String)
  | trade (f : TradeFault)
  deriving Repr

/-- The wording of a fault. -/
def Fault.message : Fault → String
  | .notText f => f.message
  | .notJson path text f =>
    match f with
    | .malformed .. => "Invalid journal JSON in " ++ path ++ ": " ++ f.message text
    | .tooManyDigits _ => f.message text
  | .noList path => "Journal " ++ path ++ " must contain a list of trades"
  | .trade f => f.message

/-- The text of a file: its bytes decoded, its line ends unified. -/
def fileText (bytes : List UInt8) : Except Text.Utf8Fault (List Char) :=
  Text.unifyLineEnds <$> Text.decodeUtf8 bytes

/-- The list of trades in a value, if it is where it belongs. -/
def tradeList? : Value → Option (List Value)
  | .list items => some items
  | .mapping entries =>
    match Value.field? entries "trades" with
    | some (.list items) => some items
    | _ => none
  | _ => none

/-- The trades that values describe, from a position of the list on. -/
def tradesFrom (index : Nat) : List Value → Except TradeFault (List Trade)
  | [] => .ok []
  | v :: rest => do
    let t ← Trade.ofValue ("trades[" ++ toString index ++ "]") v
    let others ← tradesFrom (index + 1) rest
    .ok (t :: others)

/-- **The trades of a journal**, given the bytes of its file. -/
def read (path : String) (bytes : List UInt8) : Except Fault (List Trade) :=
  match fileText bytes with
  | .error f => .error (.notText f)
  | .ok text =>
    match Json.parse text with
    | .error f => .error (.notJson path text f)
    | .ok v =>
      match tradeList? v with
      | none => .error (.noList path)
      | some items =>
        match tradesFrom 0 items with
        | .error f => .error (.trade f)
        | .ok trades => .ok trades

end TradeJournal.Journal
