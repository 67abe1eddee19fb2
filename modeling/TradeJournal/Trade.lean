import TradeJournal.Tag
import TradeJournal.Value

/-!
# Trades

A trade of a journal: an identifier, a date as it was written, the tags as they were typed,
and what else the journal knows. Values that only feed displays and suggestions stay as the
journal has them. A trade is made from one mapping; some names have a second spelling, and
entries under other names are kept aside.
-/

namespace TradeJournal

/-- **A trade.** -/
structure Trade where
  id : String
  date : String
  tags : List String
  currencyPair : Value := .null
  session : Value := .null
  side : Value := .null
  strategy : Value := .null
  status : Value := .null
  timeframe : Value := .null
  lotSize : Value := .null
  leverage : Value := .null
  pnl : Value := .null
  extra : List (Value × Value) := []
  deriving Repr

/-- **Why a value is no trade.** The place of the value is known by its name in messages. -/
inductive TradeFault
  | notAMapping (place : String)
  | noId (place : String)
  | tags (m : Value.Misuse)
  deriving DecidableEq, Repr

/-- The wording of a fault. -/
def TradeFault.message : TradeFault → String
  | .notAMapping place => place ++ " must be an object"
  | .noId place => place ++ ".id is required"
  | .tags m => m.message

namespace Trade

/-- The name that a second spelling stands for. -/
def canonicalName : String → String
  | "currencyPair" => "currency_pair"
  | "lotSize" => "lot_size"
  | name => name

/-- The names that trades know. -/
def fieldNames : List String :=
  ["id", "date", "tags", "currency_pair", "session", "side", "strategy", "status", "timeframe",
    "lot_size", "leverage", "pnl"]

/-- Whether an entry is under a name that trades know, in either spelling. -/
def isKnown (entry : Value × Value) : Bool :=
  match entry.1 with
  | .text name => canonicalName name ∈ fieldNames
  | _ => false

/-- The value under a name in any of its spellings; the last one counts. -/
def known (entries : List (Value × Value)) (name : String) : Value :=
  let named := entries.filter fun entry =>
    match entry.1 with
    | .text key => canonicalName key = name
    | _ => false
  (named.getLast?.map (·.2)).getD .null

/-- The text of a value that says something; otherwise the empty text. -/
def textOf (v : Value) : String := if v.isTruthy then v.display else ""

/-- The typed tags that a value lists: one text is one tag, and whatever else has elements
gives the text of each. -/
def typedTags (v : Value) : Except Value.Misuse (List String) :=
  match v with
  | .text s => .ok (if s = "" then [] else [s])
  | v => if v.isTruthy then (·.map Value.display) <$> v.elements else .ok []

/-- **The trade that a value describes.** -/
def ofValue (place : String) (v : Value) : Except TradeFault Trade :=
  match v with
  | .mapping entries =>
    let id := known entries "id"
    if id.isNull ∨ id.same (.text "") then .error (.noId place)
    else
      match typedTags (known entries "tags") with
      | .error m => .error (.tags m)
      | .ok tags => .ok
        { id := id.display
          date := textOf (known entries "date")
          tags
          currencyPair := known entries "currency_pair"
          session := known entries "session"
          side := known entries "side"
          strategy := known entries "strategy"
          status := known entries "status"
          timeframe := known entries "timeframe"
          lotSize := known entries "lot_size"
          leverage := known entries "leverage"
          pnl := known entries "pnl"
          extra := entries.filter fun entry => !isKnown entry }
  | _ => .error (.notAMapping place)

/-- The value of a trade under a name. -/
def field (t : Trade) : String → Value
  | "id" => .text t.id
  | "date" => .text t.date
  | "tags" => .list (t.tags.map .text)
  | "currency_pair" => t.currencyPair
  | "session" => t.session
  | "side" => t.side
  | "strategy" => t.strategy
  | "status" => t.status
  | "timeframe" => t.timeframe
  | "lot_size" => t.lotSize
  | "leverage" => t.leverage
  | "pnl" => t.pnl
  | "extra" => .mapping t.extra
  | _ => .null

end Trade

end TradeJournal
