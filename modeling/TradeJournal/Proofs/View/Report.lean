import TradeJournal.Output
import TradeJournal.Proofs.Json.Encoding
import TradeJournal.Proofs.Json.RoundTrip
import TradeJournal.Proofs.Value.Object

/-!
# What the report on a view says

A view says what it shows: a mapping from names to the texts that are shown, in which a text that is
missing is nothing. The report on a view is written with the same names, no two of which are the
same, so it says all of that (`View.value_report`). It has bytes exactly when every text in the view
has (`View.noHalves_strings_iff`).
-/

namespace TradeJournal

/-! ### What views say -/

/-- A text that may be missing as a value. -/
def Value.ofText? : Option String → Value
  | none => .null
  | some s => .text s

/-- A list of texts as a value. -/
def Value.ofTexts (texts : List String) : Value := .list (texts.map .text)

/-- **What is said of a trade.** -/
def TradeView.value (t : TradeView) : Value :=
  .mapping
    [(.text "id", .text t.id), (.text "date", .text t.date),
      (.text "currency_pair", .ofText? t.currencyPair),
      (.text "side", .ofText? t.side), (.text "status", .ofText? t.status),
      (.text "tags", .ofTexts t.tags),
      (.text "highlighted_tags", .ofTexts t.highlighted)]

/-- **What is said of a search.** -/
def SearchView.value (v : SearchView) : Value :=
  .mapping
    [(.text "query", .ofText? v.query), (.text "valid", .bool v.isValid),
      (.text "errors", .ofTexts v.problems),
      (.text "matching_tags", .ofTexts v.matchingTags),
        (.text "trades", .list (v.trades.map TradeView.value))]

/-- **What is said of completions.** -/
def SuggestionView.value (v : SuggestionView) : Value :=
  .mapping [(.text "partial_input", .ofText? v.typed),
    (.text "suggestions", .ofTexts v.completions)]

/-- **What a view says.** -/
def View.value : View → Value
  | search v => v.value
  | suggestions v => v.value

namespace Json

theorem valuesOf_eq_map (items : List Report) : valuesOf items = items.map Report.value := by
  induction items with
  | nil => rfl
  | cons item rest ih => rw [valuesOf, ih, List.map_cons]

theorem value_optional (s : Option String) : (Report.optional s).value = .ofText? s := by
  cases s <;> rfl

theorem value_texts (texts : List String) : (Report.texts texts).value = .ofTexts texts := by
  rw [Report.texts, Report.value, valuesOf_eq_map, List.map_map]
  rfl

end Json

open Json in
/-- **The report on a view says what the view says**, under names that are all different. -/
theorem View.value_report (v : View) : v.report.value = v.value := by
  have trade (t : TradeView) : t.report.value = t.value := by
    simp [TradeView.report, TradeView.value, Report.value, entriesOf, Value.ofEntries, Value.insert,
      Value.sameKey_text_iff, value_optional, value_texts]
  cases v with
  | search v =>
    simp [View.report, View.value, SearchView.report, SearchView.value, Report.value, entriesOf,
      Value.ofEntries,
      Value.insert, Value.sameKey_text_iff, value_optional, value_texts, valuesOf_eq_map, trade]
  | suggestions v =>
    simp [View.report, View.value, SuggestionView.report, SuggestionView.value, Report.value,
      entriesOf,
      Value.ofEntries, Value.insert, Value.sameKey_text_iff, value_optional, value_texts]

/-! ### Texts of views -/

/-- The texts in what is shown of a trade. -/
def TradeView.texts (t : TradeView) : List String :=
  t.id :: t.date ::
    (t.currencyPair.toList ++ t.side.toList ++ t.status.toList ++ t.tags ++ t.highlighted)

/-- **The texts in a view.** -/
def View.texts : View → List String
  | search v => v.query.toList ++ v.problems ++ v.matchingTags ++ v.trades.flatMap TradeView.texts
  | suggestions v => v.typed.toList ++ v.completions

section

open Json Text

theorem strings_texts (texts : List String) : (Report.texts texts).strings = texts := by
  rw [Report.texts, Report.strings, stringsIn_eq_flatMap, List.flatMap_map]
  exact List.flatMap_singleton' texts

theorem strings_optional (s : Option String) : (Report.optional s).strings = s.toList := by
  cases s <;> rfl

variable {coding : HalfCoding}

/-- The texts in the report on a trade are those in its view, besides names. -/
theorem TradeView.noHalves_strings_iff (t : TradeView) :
    (∀ s ∈ t.report.strings, NoHalves coding s.toList) ↔ ∀ s ∈ t.texts,
      NoHalves coding s.toList := by
  simp (disch := decide) only [TradeView.report, texts, Report.strings, stringsInFields,
    strings_optional,
    strings_texts, noHalves_of_isPlain, List.forall_mem_cons, List.forall_mem_append,
    List.not_mem_nil,
    false_imp_iff, implies_true, true_and, and_true, and_assoc]

/-- **The report on a view has bytes exactly when the texts in the view have.** -/
theorem View.noHalves_strings_iff (v : View) :
    (∀ s ∈ v.report.strings, NoHalves coding s.toList) ↔ ∀ s ∈ v.texts,
      NoHalves coding s.toList := by
  cases v with
  | search v =>
    have each : (∀ s ∈ stringsIn (v.trades.map TradeView.report), NoHalves coding s.toList) ↔
        ∀ s ∈ v.trades.flatMap TradeView.texts, NoHalves coding s.toList := by
      simp only [stringsIn_eq_flatMap, List.flatMap_map, List.forall_mem_flatMap,
        TradeView.noHalves_strings_iff]
    simp (disch := decide) only [View.report, SearchView.report, texts, Report.strings,
      stringsInFields,
      strings_optional, strings_texts, noHalves_of_isPlain, each, List.forall_mem_cons,
      List.forall_mem_append, List.not_mem_nil, false_imp_iff, implies_true, true_and, and_true,
      and_assoc]
  | suggestions v =>
    simp (disch := decide) only [View.report, SuggestionView.report, texts, Report.strings,
      stringsInFields, strings_optional, strings_texts, noHalves_of_isPlain, List.forall_mem_cons,
      List.forall_mem_append, List.not_mem_nil, false_imp_iff, implies_true, true_and, and_true]

end

end TradeJournal
