import TradeJournal.Record
import TradeJournal.Number.Reading
import TradeJournal.Text.Within

/-!
# Hints for one trade

Tags are proposed for a trade from what is known of it. Rules look at its fields and propose their
tags with a fixed score; similar trades propose the tags they carry, ten points for each of them. A
tag keeps its best score, the earliest proposal winning a tie, and tags that the trade already has
are left out.
-/

namespace TradeJournal

/-- **A proposed tag**: its score, and what proposed it. -/
structure Hint where
  tag : String
  score : Int
  origin : String
  deriving DecidableEq, Repr

namespace Hint

/-! ### Rules -/

/-- **A condition on a record**: whether it holds, unless it uses a value in a way that the value
does not support. -/
def Condition : Type := Record → Except Value.Misuse Bool

/-- **A rule**: a condition, and the tags that it proposes with a score. -/
structure Rule where
  id : String
  name : String
  condition : Condition
  tags : List String
  priority : Int

/-- A value read as a number; what cannot be read counts as zero. -/
def numberOf (v : Value) : Except Value.Misuse Double :=
  match v with
  | .float x => .ok x
  | .text s => .ok ((Number.double? s.toList).getD (.zero false))
  | v =>
    match v.wholeNumber? with
    | some n =>
      match Double.ofInt n with
      | .infinity _ => .error .beyondFloat
      | x => .ok x
    | none => .ok (.zero false)

namespace Condition

/-- **Whether a condition holds for a record.** -/
def holds (r : Record) (condition : Condition) : Except Value.Misuse Bool := condition r

/-- A condition that does not look at the record. -/
def constant (holds : Bool) : Condition := fun _ => .ok holds

/-- A field has a value. -/
def fieldIs (name : String) (v : Value) : Condition := fun r => .ok (r.fieldIs name v)

/-- A field has one of several texts. -/
def fieldAmong (name : String) (texts : List String) : Condition := fun r =>
  let v := r.field name
  match v.unhashable? with
  | some kind => .error (.unhashable kind)
  | none => .ok (texts.any fun s => v.same (.text s))

/-- A field, read as a number, is above a whole number. -/
def fieldAbove (name : String) (bound : Int) : Condition := fun r =>
  (Double.lt (.ofInt bound) ·) <$> numberOf (r.field name)

/-- A field's text mentions a word, in any case. -/
def fieldMentions (name : String) (word : String) : Condition := fun r =>
  .ok (Text.occursIn word.toList (Text.lower (Trade.textOf (r.field name)).toList))

end Condition

/-- **The rules of the journal.** -/
def defaultRules : List Rule :=
  [⟨"asian_session", "Asian Trading Session", .fieldIs "session" (.text "asian"),
      ["#asian_session", "#low_volatility", "#range_trading"], 70⟩,
    ⟨"us_session", "US Trading Session", .fieldIs "session" (.text "us"),
      ["#us_session", "#high_volatility", "#news_driven"], 70⟩,
    ⟨"european_session", "European Trading Session", .fieldIs "session" (.text "european"),
      ["#european_session", "#trend_following"], 70⟩,
    ⟨"major_pairs", "Major Currency Pairs",
      .fieldAmong "currency_pair"
        ["EUR/USD", "GBP/USD", "USD/JPY", "USD/CHF", "AUD/USD", "USD/CAD", "NZD/USD"],
      ["#major_pair", "#tight_spreads", "#high_liquidity"], 60⟩,
    ⟨"exotic_pairs", "Exotic Currency Pairs",
      .fieldAmong "currency_pair" ["USD/ZAR", "USD/TRY", "USD/MXN", "EUR/TRY", "GBP/ZAR"],
      ["#exotic_pair", "#wide_spreads", "#volatile"], 60⟩,
    ⟨"long_position", "Long Position", .fieldIs "side" (.text "long"),
      ["#bullish", "#long_bias"], 50⟩,
    ⟨"short_position", "Short Position", .fieldIs "side" (.text "short"),
      ["#bearish", "#short_bias"], 50⟩,
    ⟨"high_leverage", "High Leverage Trade", .fieldAbove "leverage" 50,
      ["#high_leverage", "#high_risk", "#scalping"], 80⟩,
    ⟨"large_position", "Large Position Size", .fieldAbove "lot_size" 1,
      ["#large_position", "#swing_trade", "#high_conviction"], 75⟩,
    ⟨"breakout_strategy", "Breakout Strategy", .fieldMentions "strategy" "breakout",
      ["#breakout", "#momentum", "#volatility_expansion"], 85⟩,
    ⟨"scalping_strategy", "Scalping Strategy", .fieldMentions "strategy" "scalp",
      ["#scalping", "#quick_profit", "#tight_stops"], 85⟩,
    ⟨"swing_strategy", "Swing Trading Strategy", .fieldMentions "strategy" "swing",
      ["#swing_trade", "#multi_day", "#trend_following"], 85⟩]

/-! ### Similar trades -/

/-- The fields that make trades similar, with their weights. -/
def weights : List (String × Nat) :=
  [("currency_pair", 3), ("session", 2), ("side", 2), ("strategy", 3), ("timeframe", 2)]

/-- The weight from which on trades are similar. -/
def similarityThreshold : Nat := 4

/-- The weight of the fields that two records have in common. -/
def similarity (current other : Record) : Nat :=
  (weights.map fun (name, weight) =>
    let v := current.field name
    if !v.isNull && (other.field name).same v then weight else 0).foldr (· + ·) 0

/-- Whether two records are the same trade. -/
def isSameTrade (current other : Record) : Bool :=
  let id := current.field "id"
  !id.isNull && (other.field "id").same id

/-- **The records similar to a trade.** -/
def similarRecords (current : Record) (records : List Record) : List Record :=
  records.filter fun r => !isSameTrade current r && similarityThreshold ≤ similarity current r

/-! ### Proposals -/

/-- The word for why tags are proposed. -/
def reason : String := "contextual_match"

/-- What similar trades are called as the origin of a proposal. -/
def similarOrigin : String := "Similar trades"

/-- The proposals of the rules whose conditions hold. -/
def fromRules (current : Record) : List Rule → Except Value.Misuse (List Hint)
  | [] => .ok []
  | rule :: rest => do
    let holds ← rule.condition.holds current
    let others ← fromRules current rest
    .ok ((if holds then rule.tags.map fun tag => ⟨Tag.normalize tag, rule.priority, rule.name⟩
      else []) ++ others)

/-- The tags of several records, one list each. -/
def tagLists : List Record → Except Value.Misuse (List (List String))
  | [] => .ok []
  | r :: rest => do
    let first ← r.tags
    let others ← tagLists rest
    .ok (first :: others)

/-- The proposals of similar trades, given their tags. -/
def fromSimilar (tagLists : List (List String)) : List Hint :=
  (Tag.distinct tagLists.flatten).map fun tag =>
    ⟨tag, 10 * (tagLists.filter (tag ∈ ·)).length, similarOrigin⟩

/-- The better of two proposals; the earlier one when they are equally good. -/
def better (a b : Hint) : Hint := if a.score < b.score then b else a

/-- The best proposal of a tag, if there is one. -/
def bestOf? (proposals : List Hint) (tag : String) : Option Hint :=
  match proposals.filter (·.tag = tag) with
  | [] => none
  | first :: rest => some (rest.foldl better first)

/-- **The order of hints**: the higher score first, then by name. -/
def comesBefore (a b : Hint) : Bool := b.score < a.score || (a.score = b.score && a.tag ≤ b.tag)

/-- The best proposals for tags that are not already there, in order. -/
def selected (proposals : List Hint) (existing : List String) : List Hint :=
  let fresh := proposals.filter fun h => h.tag ≠ "" && h.tag ∉ existing
  ((Tag.distinct (fresh.map (·.tag))).filterMap (bestOf? fresh)).mergeSort comesBefore

/-- **The hints for a trade**, given the other records and the rules. -/
def hints (current : Record) (records : List Record) (limit : Int) (rules : List Rule) :
    Except Value.Misuse (List Hint) :=
  if limit ≤ 0 then .ok []
  else do
    let proposed ← fromRules current rules
    let lists ← tagLists (similarRecords current records)
    let existing ← current.tags
    .ok ((selected (proposed ++ fromSimilar lists) existing).take limit.toNat)

end Hint

end TradeJournal
