import TradeJournal.Json.Writer
import TradeJournal.View

/-!
# Reports

A view as lines of text, highlighted tags between brackets, and as a report in JSON.
-/

namespace TradeJournal

/-! ### Text -/

/-- Texts with a separator between them. -/
def joinTexts (separator : String) (texts : List String) : String :=
  String.intercalate separator texts

/-- A text, or a dash in place of an empty one. -/
def orDash (s : String) : String := if s = "" then "-" else s

namespace TradeView

/-- The tags of a trade in one line; highlighted ones stand between brackets. -/
def tagLine (t : TradeView) : String :=
  if t.tags.isEmpty then "-"
  else joinTexts " " (t.tags.map fun tag => if tag ∈ t.highlighted then "[" ++ tag ++ "]" else tag)

/-- What is known of a trade, in one line. -/
def details (t : TradeView) : String :=
  joinTexts " " (([t.currencyPair, t.side, t.status].filterMap fun part => part).filter (· ≠ ""))

/-- **The two lines of a trade** with its number. -/
def lines (number : Nat) (t : TradeView) : List String :=
  let head := toString number ++ ". " ++ t.id ++ "  " ++ orDash t.date ++ "  " ++ t.details
  [String.ofList (Text.trimEnd head.toList), "   Tags: " ++ t.tagLine]

end TradeView

/-- **The lines of a search.** -/
def SearchView.lines (v : SearchView) : List String :=
  ("Query: " ++ v.query.getD Value.null.display) ::
    if v.isValid then
      ("Tags: " ++ orDash (joinTexts ", " v.matchingTags))
        :: ("Matches: " ++ toString v.trades.length)
        :: v.trades.zipIdx.flatMap fun (t, i) => t.lines (i + 1)
    else "Invalid query:" :: v.problems.map fun p => "  - " ++ p

/-- Lines as a text, every line with its end. -/
def endLines (lines : List String) : String := String.join (lines.map (· ++ "\n"))

/-- **The text of a search.** -/
def SearchView.text (v : SearchView) : String := endLines v.lines

/-- **The text of completions**, one to a line. -/
def SuggestionView.text (v : SuggestionView) : String :=
  if v.completions.isEmpty then
    endLines ["No suggestions for " ++ String.ofList (Value.shown ((v.typed.map .text).getD .null))]
  else endLines v.completions

/-! ### JSON -/

open Json (Report)

/-- A list of texts as a report. -/
def Json.Report.texts (l : List String) : Report := .list (l.map .text)

/-- A text that may be missing as a report. -/
def Json.Report.optional : Option String → Report
  | none => .null
  | some s => .text s

/-- **The report on a trade.** -/
def TradeView.report (t : TradeView) : Report :=
  .record
    [("id", .text t.id), ("date", .text t.date), ("currency_pair", .optional t.currencyPair),
      ("side", .optional t.side), ("status", .optional t.status), ("tags", .texts t.tags),
      ("highlighted_tags", .texts t.highlighted)]

/-- **The report on a search.** -/
def SearchView.report (v : SearchView) : Report :=
  .record
    [("query", .optional v.query), ("valid", .bool v.isValid), ("errors", .texts v.problems),
      ("matching_tags", .texts v.matchingTags), ("trades", .list (v.trades.map TradeView.report))]

/-- **The report on completions.** -/
def SuggestionView.report (v : SuggestionView) : Report :=
  .record [("partial_input", .optional v.typed), ("suggestions", .texts v.completions)]

end TradeJournal
