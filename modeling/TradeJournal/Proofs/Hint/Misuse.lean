import TradeJournal.Proofs.Hint.Order
import TradeJournal.Proofs.Number.Overflow
import TradeJournal.Proofs.Search.Meaning
import TradeJournal.Proofs.Trade.Loading

/-!
# Hints for trades with odd values

The fields of a trade hold whatever the journal has there. The rules of the journal look at one
field each, and a value of an unexpected kind makes a rule fail to hold: what is no text is none of
the texts of a rule, and what cannot be read as a number counts as zero. Two values are worse than
odd. A currency pair that may not serve as a key cannot be looked up among the pairs of a rule, and
a whole number beyond the floating-point numbers is none that can be compared with a bound. Either
of them leaves a trade without any hints.
-/

namespace TradeJournal

/-! ### What fields hold -/

/-- **Whether a value can be read as a floating-point number.** -/
def Value.IsNumeric : Value → Prop
  | .float _ | .bool _ => True
  | .int n => n.natAbs < Double.overflow
  | .text s => (Number.double? s.toList).isSome = true
  | _ => False

/-- Whether a value is a whole number beyond the floating-point numbers. -/
def Value.IsBeyondFloat (v : Value) : Prop := ∃ n : Int, v = .int n ∧ Double.overflow ≤ n.natAbs

/-- Fields other than the tags are compared as values. -/
theorem Record.fieldIs_eq_same {r : Record} {name : String} (other : name ≠ "tags") (v : Value) :
    r.fieldIs name v = (r.field name).same v := by
  rw [Record.fieldIs]
  rintro t rfl
  exact other

namespace Hint

/-- A whole number is beyond the floating-point numbers when it is rounded to an infinity. -/
theorem isBeyondFloat_int_iff {n : Int} :
    (Value.int n).IsBeyondFloat ↔ ∃ negative, Double.ofInt n = .infinity negative := by
  rw [Double.exists_ofInt_eq_infinity_iff]
  simp [Value.IsBeyondFloat]

/-- **Which values cannot be compared as numbers.** -/
theorem numberOf_eq_error_iff {v : Value} {m : Value.Misuse} :
    numberOf v = .error m ↔ v.IsBeyondFloat ∧ m = .beyondFloat := by
  cases v with
  | int n =>
    rw [isBeyondFloat_int_iff]
    cases rounded : Double.ofInt n <;> simp [numberOf, Value.wholeNumber?, rounded, eq_comm]
  | bool b =>
    obtain ⟨x, read⟩ : ∃ x, numberOf (.bool b) = .ok x := by cases b <;> exact ⟨_, rfl⟩
    simp [read, Value.IsBeyondFloat]
  | null | float | text | list | mapping | date | moment | foreign =>
    simp [numberOf, Value.wholeNumber?, Value.IsBeyondFloat]

/-- **What cannot be read as a number counts as zero.** -/
theorem numberOf_of_not_isNumeric {v : Value} (unreadable : ¬v.IsNumeric)
    (within : ¬v.IsBeyondFloat) :
    numberOf v = .ok (.zero false) := by
  cases v with
  | int n => exact absurd ⟨n, rfl, Nat.not_lt.mp unreadable⟩ within
  | bool | float => exact absurd trivial unreadable
  | text s =>
    have unread : Number.double? s.toList = none := by simpa [Value.IsNumeric] using unreadable
    rw [numberOf, unread]
    rfl
  | null | list | mapping | date | moment | foreign => rfl

/-! ### Conditions that look at one field -/

namespace Condition

variable {r : Record} {name : String} {m : Value.Misuse}

theorem holds_fieldIs (v : Value) : (fieldIs name v).holds r = .ok (r.fieldIs name v) := rfl

theorem holds_fieldAmong (texts : List String) :
    (fieldAmong name texts).holds r =
      match (r.field name).unhashable? with
      | some kind => .error (.unhashable kind)
      | none => .ok (texts.any fun s => (r.field name).same (.text s)) := rfl

theorem holds_fieldAbove (bound : Int) :
    (fieldAbove name bound).holds r = (Double.lt (.ofInt bound) ·) <$> numberOf (r.field name) :=
  rfl

theorem holds_fieldMentions (word : String) :
    (fieldMentions name word).holds r =
      .ok (Text.occursIn word.toList (Text.lower (Trade.textOf (r.field name)).toList)) := rfl

/-- **Whether what a condition says depends on one field alone.** -/
def LooksAt (condition : Condition) (name : String) : Prop :=
  ∀ r r' : Record, r.field name = r'.field name → condition.holds r = condition.holds r'

theorem looksAt_fieldIs (other : name ≠ "tags") (v : Value) : (fieldIs name v).LooksAt name := by
  intro r r' equal
  rw [holds_fieldIs, holds_fieldIs, Record.fieldIs_eq_same other,
    Record.fieldIs_eq_same other, equal]

theorem looksAt_fieldAmong (texts : List String) : (fieldAmong name texts).LooksAt name := by
  intro r r' equal
  rw [holds_fieldAmong, holds_fieldAmong, equal]

theorem looksAt_fieldAbove (bound : Int) : (fieldAbove name bound).LooksAt name := by
  intro r r' equal
  rw [holds_fieldAbove, holds_fieldAbove, equal]

theorem looksAt_fieldMentions (word : String) : (fieldMentions name word).LooksAt name := by
  intro r r' equal
  rw [holds_fieldMentions, holds_fieldMentions, equal]

/-- A field that is to be a text is that text. -/
theorem eq_text_of_fieldIs (other : name ≠ "tags") {s : String}
    (true_of : (fieldIs name (.text s)).holds r = .ok true) : r.field name = .text s := by
  rwa [holds_fieldIs, Record.fieldIs_eq_same other, Except.ok.injEq, Value.same_text_iff] at true_of

/-- A field that is to be among several texts is one of them. -/
theorem eq_text_of_fieldAmong {texts : List String}
    (true_of : (fieldAmong name texts).holds r = .ok true) :
    ∃ s ∈ texts, r.field name = .text s := by
  rw [holds_fieldAmong] at true_of
  split at true_of
  · cases true_of
  · simpa only [Except.ok.injEq, List.any_eq_true, Value.same_text_iff] using true_of

/-- **What cannot be read as a number is compared as zero.** -/
theorem fieldAbove_of_not_isNumeric {bound : Int} (unreadable : ¬(r.field name).IsNumeric)
    (within : ¬(r.field name).IsBeyondFloat) {r' : Record} (zero : r'.field name = .int 0) :
    (fieldAbove name bound).holds r = (fieldAbove name bound).holds r' := by
  rw [holds_fieldAbove, holds_fieldAbove, numberOf_of_not_isNumeric unreadable within, zero]
  rfl

/-! ### Conditions that fail -/

theorem fieldIs_ne_error {v : Value} : (fieldIs name v).holds r ≠ .error m := by
  rw [holds_fieldIs]
  exact nofun

theorem fieldMentions_ne_error {word : String} : (fieldMentions name word).holds r ≠ .error m := by
  rw [holds_fieldMentions]
  exact nofun

/-- A lookup among texts fails for what may not serve as a key. -/
theorem fieldAmong_eq_error_iff {texts : List String} :
    (fieldAmong name texts).holds r = .error m ↔
      ∃ kind, (r.field name).unhashable? = some kind ∧ m = .unhashable kind := by
  rw [holds_fieldAmong]
  split <;> simp [*, eq_comm]

/-- A comparison with a bound fails for a whole number beyond the floating-point numbers. -/
theorem fieldAbove_eq_error_iff {bound : Int} :
    (fieldAbove name bound).holds r = .error m ↔
    (r.field name).IsBeyondFloat ∧ m = .beyondFloat := by
  rw [holds_fieldAbove, map_eq_error, numberOf_eq_error_iff]

end Condition

/-! ### Rules that fail -/

/-- **The rules fail as the first one does that fails.** -/
theorem fromRules_cons_eq_error_iff {current : Record} {rule : Rule} {rest : List Rule}
    {m : Value.Misuse} :
    fromRules current (rule :: rest) = .error m ↔ rule.condition.holds current = .error m ∨
      (¬∃ m', rule.condition.holds current = .error m') ∧ fromRules current rest = .error m := by
  rw [fromRules, bind_eq_error, exists_error_iff, not_not]
  refine or_congr_right ⟨?_, ?_⟩
  · rintro ⟨holds, own, fails⟩
    rcases bind_eq_error.mp fails with behind | ⟨others, -, succeeds⟩
    · exact ⟨⟨holds, own⟩, behind⟩
    · cases succeeds
  · rintro ⟨⟨holds, own⟩, behind⟩
    exact ⟨holds, own, bind_eq_error.mpr (Or.inl behind)⟩

/-- The fields that the rules of the journal compare with texts. -/
def textFields : List String := ["currency_pair", "session", "side"]

/-- The fields that the rules of the journal compare with numbers. -/
def numberFields : List String := ["leverage", "lot_size"]

/-- **What the rules of the journal cannot use.** The currency pair is looked up before any number
is compared; what keeps it from being looked up is a value that may change, itself or one inside
it. -/
inductive Misuses (r : Record) : Value.Misuse → Prop
  | pair {kind : String} (changes : (r.field "currency_pair").unhashable? = some kind) :
    Misuses r (.unhashable kind)
  | number (fixed : (r.field "currency_pair").unhashable? = none) {name : String}
    (compared : name ∈ numberFields) (beyond : (r.field name).IsBeyondFloat) :
    Misuses r .beyondFloat

theorem misuses_iff {r : Record} {m : Value.Misuse} :
    Misuses r m ↔
      (∃ kind, (r.field "currency_pair").unhashable? = some kind ∧ m = .unhashable kind) ∨
        (r.field "currency_pair").unhashable? = none ∧
          ((r.field "leverage").IsBeyondFloat ∨ (r.field "lot_size").IsBeyondFloat) ∧
          m = .beyondFloat := by
  constructor
  · rintro (changes | ⟨fixed, compared, beyond⟩)
    · exact Or.inl ⟨_, changes, rfl⟩
    · simp only [numberFields, List.mem_cons, List.not_mem_nil, or_false] at compared
      rcases compared with rfl | rfl
      · exact Or.inr ⟨fixed, Or.inl beyond, rfl⟩
      · exact Or.inr ⟨fixed, Or.inr beyond, rfl⟩
  · rintro (⟨kind, changes, rfl⟩ | ⟨fixed, beyond | beyond, rfl⟩)
    · exact .pair changes
    · exact .number fixed (by simp [numberFields]) beyond
    · exact .number fixed (by simp [numberFields]) beyond

/-- **How the rules of the journal fail.** -/
theorem fromRules_default_eq_error_iff {current : Record} {m : Value.Misuse} :
    fromRules current defaultRules = .error m ↔ Misuses current m := by
  have no_rules : fromRules current [] ≠ .error m := by rw [fromRules]; exact nofun
  have fixed_iff : (¬∃ (m' : Value.Misuse) (kind : String),
      (current.field "currency_pair").unhashable? = some kind ∧ m' = .unhashable kind) ↔
        (current.field "currency_pair").unhashable? = none := by
    rw [exists_comm, Option.eq_none_iff_forall_ne_some]
    simp
  simp only [misuses_iff, defaultRules, fromRules_cons_eq_error_iff, Condition.fieldIs_ne_error,
    Condition.fieldMentions_ne_error, Condition.fieldAmong_eq_error_iff,
    Condition.fieldAbove_eq_error_iff,
    false_or, or_false, exists_false, not_false_eq_true, true_and, and_false, exists_and_left,
    exists_eq,
    and_true, no_rules, fixed_iff]
  generalize (∃ kind, (current.field "currency_pair").unhashable? = some kind ∧
    m = .unhashable kind) =
    paired
  tauto

/-! ### Rules that look at one field -/

/-- **Whether a condition tolerates what a record has in a field**, the only one that it looks at:
it holds for no value there but a text when it compares texts, and takes what it cannot read for
zero when it compares numbers. -/
structure Condition.Tolerates (condition : Condition) (current : Record) (name : String) :
    Prop where
  looksAt : condition.LooksAt name
  text : name ∈ textFields → condition.holds current = .ok true → ∃ s, current.field name = .text s
  number : name ∈ numberFields → ¬(current.field name).IsNumeric →
    ¬(current.field name).IsBeyondFloat →
    ∀ r : Record, r.field name = .int 0 → condition.holds current = condition.holds r

/-- **The conditions that the rules of the journal have.** -/
inductive Condition.Customary : Condition → Prop
  | text {name s : String} (given : name ∈ ["session", "side"]) :
    Customary (.fieldIs name (.text s))
  | pair {texts : List String} : Customary (.fieldAmong "currency_pair" texts)
  | number {name : String} {bound : Int} (given : name ∈ numberFields) :
    Customary (.fieldAbove name bound)
  | strategy {word : String} : Customary (.fieldMentions "strategy" word)

theorem customary_default : ∀ rule ∈ defaultRules, rule.condition.Customary := by
  simp only [defaultRules, List.forall_mem_cons]
  exact ⟨.text (by simp), .text (by simp), .text (by simp), .pair, .pair, .text (by simp),
    .text (by simp),
    .number (by simp [numberFields]), .number (by simp [numberFields]), .strategy, .strategy,
      .strategy, nofun⟩

theorem Condition.Customary.tolerates {condition : Condition} (customary : condition.Customary)
    (current : Record) :
    ∃ name ∈ textFields ++ numberFields ++ ["strategy"], condition.Tolerates current name := by
  cases customary with
  | @text name s given =>
    obtain rfl | rfl : name = "session" ∨ name = "side" := by simpa using given
    all_goals exact ⟨_, by simp [textFields], looksAt_fieldIs (by simp) _,
      fun _ true_of => ⟨s, eq_text_of_fieldIs (by simp) true_of⟩, by simp [numberFields]⟩
  | @pair texts =>
    refine ⟨_, by simp [textFields], looksAt_fieldAmong texts, fun _ true_of => ?_,
      by simp [numberFields]⟩
    obtain ⟨s, -, is_text⟩ := eq_text_of_fieldAmong true_of
    exact ⟨s, is_text⟩
  | @number name bound given =>
    refine ⟨name, by simp [given], looksAt_fieldAbove bound, fun compared => ?_,
      fun _ unreadable within r zero => fieldAbove_of_not_isNumeric unreadable within zero⟩
    obtain rfl | rfl : name = "leverage" ∨ name = "lot_size" := by simpa [numberFields] using given
    all_goals simp [textFields] at compared
  | @strategy word =>
    exact ⟨_, by simp, looksAt_fieldMentions word, by simp [textFields], by simp [numberFields]⟩

/-- **A trade has hints unless its rules cannot use it.** Over records whose tags are nothing, one
text or a list, with other fields of any kind, there are hints when nothing is asked for or nothing
is misused, and otherwise the misuse is reported in their place. Each rule of the journal tolerates
what the trade has in the one field that the rule looks at. -/
theorem hints_unless_misused (current : Record) (records : List Record) (limit : Int)
    (own : current.HoldsTags)
    (held : ∀ r ∈ records, r.HoldsTags) :
    (limit ≤ 0 ∨ (¬∃ m, Misuses current m) →
      ∃ result, hints current records limit defaultRules = .ok result) ∧
    (∀ m, 0 < limit → Misuses current m → hints current records limit defaultRules = .error m) ∧
    ∀ rule ∈ defaultRules, ∃ name ∈ textFields ++ numberFields ++ ["strategy"],
      rule.condition.Tolerates current name := by
  have readable : ∀ r ∈ records, r.Readable := fun r member => (held r member).readable
  refine ⟨fun spared => ?_, fun m positive misused => ?_, fun rule member =>
    (customary_default rule member).tolerates current⟩
  · rw [hints_eq_hintsFrom readable, hintsFrom]
    split
    · exact ⟨[], rfl⟩
    · next positive =>
      obtain ⟨proposed, by_rules⟩ : ∃ proposed, fromRules current defaultRules = .ok proposed := by
        by_contra none_proposed
        obtain ⟨m, fails⟩ := exists_error_iff.mpr none_proposed
        exact (spared.resolve_left positive) ⟨m, fromRules_default_eq_error_iff.mp fails⟩
      rw [by_rules, own.readable.tags_eq]
      exact ⟨_, rfl⟩
  · rw [hints, if_neg (Int.not_le.mpr positive), fromRules_default_eq_error_iff.mpr misused]
    rfl

/-- A trade with many odd values, for none of which there is a rule, and another trade with some of
them: it is similar, and its tag is proposed. -/
theorem hints_unless_misused_odd :
    let current : Record :=
      .mapping [(.text "currency_pair", .bool true), (.text "session", .list [.null]),
      (.text "side", .int 1), (.text "leverage", .text "much"), (.text "lot_size", .mapping []),
      (.text "tags", .list [.int 7])]
    let other : Record :=
      .mapping [(.text "currency_pair", .int 1), (.text "session", .list [.null]),
      (.text "tags", .text "a")]
    current.HoldsTags ∧ (∀ r ∈ [other], r.HoldsTags) ∧ (¬∃ m, Misuses current m) ∧
      (∃ result, hints current [other] 10 defaultRules = .ok result) ∧
      hints current [other] 10 defaultRules = .ok [⟨"#a", 10, similarOrigin⟩] ∧
      ∀ rule ∈ defaultRules, ∃ name ∈ textFields ++ numberFields ++ ["strategy"],
        rule.condition.Tolerates current name := by
  intro current other
  have own : current.HoldsTags := trivial
  have held : ∀ r ∈ [other], r.HoldsTags := by
    intro r member
    rw [List.mem_singleton.mp member]
    trivial
  have usable : ¬∃ m, Misuses current m := by
    rintro ⟨m, misused⟩
    rcases misuses_iff.mp misused with ⟨kind, changes, -⟩ | ⟨-, ⟨n, given, -⟩ | ⟨n, given, -⟩, -⟩
    · cases (show none = some kind from changes)
    · cases (show Value.text "much" = .int n from given)
    · cases (show Value.mapping [] = .int n from given)
  have by_rules : fromRules current defaultRules = .ok [] := by decide +kernel
  have by_similar : tagLists (similarRecords current [other]) = .ok [["#a"]] := by decide +kernel
  have own_tags : current.tags = .ok ["#7"] := by decide +kernel
  have sorted : [(⟨"#a", 10, similarOrigin⟩ : Hint)].mergeSort comesBefore =
      [⟨"#a", 10, similarOrigin⟩] :=
    List.mergeSort_singleton _
  have returned : hints current [other] 10 defaultRules = .ok [⟨"#a", 10, similarOrigin⟩] := by
    rw [hints, if_neg (by decide), by_rules, by_similar, own_tags]
    exact congrArg (fun ranked => Except.ok (List.take 10 ranked)) sorted
  obtain ⟨exist, -, tolerate⟩ := hints_unless_misused current [other] 10 own held
  exact ⟨own, held, usable, exist (Or.inr usable), returned, tolerate⟩

/-- **Two odd values that leave a trade without hints**: a leverage beyond the floating-point
numbers, and a list of currency pairs. -/
theorem hints_fail_on_odd_values :
    let leveraged : Record := .mapping [(.text "leverage", .int (10 ^ 400))]
    let paired : Record := .mapping [(.text "currency_pair", .list [.text "EUR/USD"])]
    leveraged.HoldsTags ∧ hints leveraged [] 10 defaultRules = .error .beyondFloat ∧
      paired.HoldsTags ∧ hints paired [] 10 defaultRules = .error (.unhashable "list") := by
  exact ⟨trivial, by decide +kernel, trivial, by decide +kernel⟩

end Hint

end TradeJournal
