import TradeJournal.Journal
import TradeJournal.Proofs.Json.Decoded

/-!
# What the reader of journals reports

A file that is no journal is reported by a fault of the reader's own: the bytes are no text, the
text is no JSON, the value has no list, or a value of the list is no trade, in which case the
message begins with the place of the first such value. One fault comes through from below. Tags that
are given by a number or by the true have no elements to go through, and that misuse is handed on as
it is: it is no statement of the reader, and it does not say where (`Journal.read_reports_first`).

| notion | meaning |
|---|---|
| `Journal.Lists` | the bytes hold a list of values where trades belong |
| `Value.IsIdentified` | an object with an identifier |
| `Value.IsLone` | a number that is not zero, or the true |
| `Value.IsTrade` | an identified object whose tags are not given by one of these |
| `Journal.Fault.IsOwn` | a fault that the reader states |
-/

namespace TradeJournal

/-! ### What a trade is made from -/

namespace Value

/-- **Whether a value says something without having elements**; of the decoded ones these are the
numbers other than zero, and the true. -/
def IsLone : Value → Prop
  | bool b => b = true
  | int n => n ≠ 0
  | float x => x.isZero = false
  | _ => False

instance : DecidablePred IsLone
  | bool b => inferInstanceAs (Decidable (b = true))
  | int n => inferInstanceAs (Decidable (n ≠ 0))
  | float x => inferInstanceAs (Decidable (x.isZero = false))
  | null | text _ | list _ | mapping _ | date _ | moment _ | foreign .. =>
    inferInstanceAs (Decidable False)

/-- **Whether a value is an object with an identifier**: it is there, and neither null nor the empty
text. -/
def IsIdentified : Value → Prop
  | mapping entries =>
    (Record.mapping entries).field "id" ≠ .null ∧ (Record.mapping entries).field "id" ≠ .text ""
  | _ => False

/-- What an object gives for its tags, in whatever form. -/
def givenTags : Value → Value
  | mapping entries => (Record.mapping entries).field "tags"
  | _ => .null

/-- **Whether a value describes a trade.** -/
def IsTrade (v : Value) : Prop := v.IsIdentified ∧ ¬v.givenTags.IsLone

/-- Tags are listed unless a number or the true is given for them. -/
theorem IsDecoded.typedTags_eq {v : Value} (decoded : v.IsDecoded) :
    (¬v.IsLone → ∃ tags, Trade.typedTags v = .ok tags) ∧
      (v.IsLone → Trade.typedTags v = .error (.notIterable v.kind)) := by
  cases decoded with
  | null => exact ⟨fun _ => ⟨[], rfl⟩, False.elim⟩
  | bool b => cases b <;> simp [IsLone, Trade.typedTags, isTruthy, elements]
  | int n => by_cases zero : n = 0 <;> simp [IsLone, Trade.typedTags, isTruthy, elements, zero]
  | float x => cases zero : x.isZero <;> simp [IsLone, Trade.typedTags, isTruthy, elements, zero]
  | text s => exact ⟨fun _ => ⟨_, rfl⟩, False.elim⟩
  | @list items _ => cases items <;> simp [IsLone, Trade.typedTags, isTruthy, elements]
  | @mapping entries _ _ => cases entries <;> simp [IsLone, Trade.typedTags, isTruthy, elements]

end Value

namespace Trade

/-- The fault of a value that is no identified object. -/
def unidentified (place : String) : Value → TradeFault
  | .mapping _ => .noId place
  | _ => .notAMapping place

/-- Such a fault names the place and what is missing there. -/
theorem message_unidentified (place : String) {v : Value} (decoded : v.IsDecoded) :
    (unidentified place v).message =
      place ++ if v.kind = "dict" then ".id is required" else " must be an object" := by
  cases decoded <;> rfl

/-- **What becomes of a decoded value**: a trade, a fault that names the place, or the misuse of
what is given for its tags. -/
theorem ofValue_eq (place : String) {v : Value} (decoded : v.IsDecoded) :
    (v.IsTrade → ∃ t, ofValue place v = .ok t) ∧
      (¬v.IsIdentified → ofValue place v = .error (unidentified place v)) ∧
      (v.IsIdentified → v.givenTags.IsLone →
        ofValue place v = .error (.tags (.notIterable v.givenTags.kind))) := by
  cases v with
  | mapping entries =>
    have known_id : known entries "id" = (Record.mapping entries).field "id" :=
      known_eq_field decoded.isObject (by decide)
    have known_tags : known entries "tags" = (Record.mapping entries).field "tags" :=
      known_eq_field decoded.isObject (by decide)
    have refused : (((Record.mapping entries).field "id").isNull = true ∨
        ((Record.mapping entries).field "id").same (.text "") = true) ↔
          ¬(Value.mapping entries).IsIdentified := by
      rw [Value.isNull_iff, Value.same_text_iff, Value.IsIdentified]
      tauto
    obtain ⟨listed, lone⟩ := (decoded.field "tags").typedTags_eq
    rw [ofValue, known_id, known_tags]
    refine ⟨fun trade => ?_, fun nameless => if_pos (refused.mpr nameless), fun named given => ?_⟩
    · obtain ⟨tags, typed⟩ := listed trade.2
      rw [if_neg (refused.not.mpr (not_not.mpr trade.1)), typed]
      exact ⟨_, rfl⟩
    · rw [if_neg (refused.not.mpr (not_not.mpr named)), lone given]
      rfl
  | _ => exact ⟨fun trade => trade.1.elim, fun _ => rfl, False.elim⟩

/-- The decoded values that describe trades are those of which trades are made. -/
theorem exists_ofValue_iff (place : String) {v : Value} (decoded : v.IsDecoded) :
    (∃ t, ofValue place v = .ok t) ↔ v.IsTrade := by
  obtain ⟨made, unnamed, lone⟩ := ofValue_eq place decoded
  refine ⟨fun ⟨t, is_made⟩ => ?_, made⟩
  -- what describes no trade is refused in one of two ways, and is made into none
  by_contra no_trade
  by_cases named : v.IsIdentified
  · rw [lone named (not_not.mp fun listed => no_trade ⟨named, listed⟩)] at is_made
    cases is_made
  · rw [unnamed named] at is_made
    cases is_made

end Trade

/-! ### The list of trades -/

namespace Journal

/-- The place of a value in the list, as messages name it. -/
def place (index : Nat) : String := "trades[" ++ toString index ++ "]"

/-- **Trades are read in order**, each from the value at its place. -/
theorem tradesFrom_eq_ok {index : Nat} {items : List Value} {trades : List Trade} :
    tradesFrom index items = .ok trades ↔
      List.Forall₂ (fun entry t => Trade.ofValue (place entry.2) entry.1 = .ok t)
        (items.zipIdx index) trades := by
  induction items generalizing index trades with
  | nil =>
    rw [List.zipIdx_nil, List.forall₂_nil_left_iff, tradesFrom, Except.ok.injEq, eq_comm]
  | cons first rest ih =>
    rw [List.zipIdx_cons, List.forall₂_cons_left_iff, tradesFrom, bind_eq_ok]
    refine exists_congr fun t => ?_
    constructor
    · rintro ⟨own, others⟩
      obtain ⟨others, later, equal⟩ := bind_eq_ok.mp others
      exact ⟨others, own, ih.mp later, (Except.ok.inj equal).symm⟩
    · rintro ⟨others, own, later, rfl⟩
      exact ⟨own, bind_eq_ok.mpr ⟨others, ih.mpr later, rfl⟩⟩

/-- **The fault is that of the first value** that is refused. -/
theorem tradesFrom_eq_error {index : Nat} {items : List Value} {f : TradeFault}
    (failed : tradesFrom index items = .error f) :
    ∃ i v, items[i]? = some v ∧ Trade.ofValue (place (index + i)) v = .error f ∧
      ∀ j < i, ∀ w, items[j]? = some w → ∃ t, Trade.ofValue (place (index + j)) w = .ok t := by
  induction items generalizing index with
  | nil => cases failed
  | cons first rest ih =>
    -- places are counted from the index that the reading has come to, not from the head of the rest
    have shifted (i : Nat) : index + (i + 1) = index + 1 + i := by omega
    rw [tradesFrom] at failed
    rcases bind_eq_error.mp failed with refused | ⟨t, own, failed⟩
    · exact ⟨0, first, rfl, refused, fun j before => absurd before (Nat.not_lt_zero j)⟩
    rcases bind_eq_error.mp failed with later | ⟨others, -, impossible⟩
    · obtain ⟨i, v, given, refused, earlier⟩ := ih later
      refine ⟨i + 1, v, given, shifted i ▸ refused, fun j before w found => ?_⟩
      cases j with
      | zero =>
        obtain rfl : first = w := Option.some.inj found
        exact ⟨t, own⟩
      | succ j => exact shifted j ▸ earlier j (Nat.lt_of_succ_lt_succ before) w found
    · cases impossible

/-- **The bytes of a file hold a list of values** where the trades of a journal belong. -/
def Lists (bytes : List UInt8) (items : List Value) : Prop :=
  ∃ text v, fileText bytes = .ok text ∧ Json.parse text = .ok v ∧
    (v = .list items ∨ ∃ entries, v = .mapping entries ∧
      Value.field? entries "trades" = some (.list items))

/-- **Whether a fault is the reader's own**, and not a misuse that comes through from below. -/
def Fault.IsOwn : Fault → Prop
  | .trade (.tags _) => False
  | _ => True

instance : DecidablePred Fault.IsOwn
  | .trade (.tags _) => inferInstanceAs (Decidable False)
  | .trade (.notAMapping _) | .trade (.noId _) | .notText _ | .notJson .. | .noList _ =>
    inferInstanceAs (Decidable True)

theorem tradeList?_eq_some_iff {v : Value} {items : List Value} :
    tradeList? v = some items ↔
      v = .list items ∨
        ∃ entries, v = .mapping entries ∧ Value.field? entries "trades" = some (.list items) := by
  cases v with
  | mapping entries =>
    rw [tradeList?]
    cases found : Value.field? entries "trades" with
    | none => simp [found]
    | some w => cases w <;> simp [found]
  | _ => simp [tradeList?]

/-- Bytes that hold a list are read as its trades are. -/
theorem Lists.read_eq {bytes : List UInt8} {items : List Value} (lists : Lists bytes items)
    (path : String) : read path bytes = (tradesFrom 0 items).mapError .trade := by
  obtain ⟨text, v, decoded, parsed, found⟩ := lists
  rw [read, decoded]
  dsimp only
  rw [parsed]
  dsimp only
  rw [tradeList?_eq_some_iff.mpr found]
  dsimp only
  cases tradesFrom 0 items <;> rfl

/-- Bytes that hold no list are refused by a fault of the reader's own. -/
theorem read_of_not_lists {bytes : List UInt8} (no_list : ¬∃ items, Lists bytes items)
    (path : String) :
    ∃ f, read path bytes = .error f ∧ f.IsOwn := by
  rw [read]
  cases decoded : fileText bytes with
  | error f => exact ⟨_, rfl, trivial⟩
  | ok text =>
    dsimp only
    cases parsed : Json.parse text with
    | error f => exact ⟨_, rfl, trivial⟩
    | ok v =>
      dsimp only
      cases found : tradeList? v with
      | none => exact ⟨_, rfl, trivial⟩
      | some items =>
        exact absurd ⟨items, text, v, decoded, parsed, tradeList?_eq_some_iff.mp found⟩ no_list

/-- **A journal is read** just when its bytes hold a list, and as the trades of the values in it. -/
theorem read_eq_ok {path : String} {bytes : List UInt8} {trades : List Trade} :
    read path bytes = .ok trades ↔ ∃ items, Lists bytes items ∧
      List.Forall₂ (fun entry t => Trade.ofValue (place entry.2) entry.1 = .ok t) items.zipIdx
        trades := by
  constructor
  · intro is_read
    by_cases some_list : ∃ items, Lists bytes items
    · obtain ⟨items, lists⟩ := some_list
      rw [lists.read_eq path] at is_read
      cases made : tradesFrom 0 items with
      | error f =>
        rw [made] at is_read
        cases is_read
      | ok trades' =>
        rw [made] at is_read
        cases is_read
        exact ⟨items, lists, tradesFrom_eq_ok.mp made⟩
    · obtain ⟨f, failed, -⟩ := read_of_not_lists some_list path
      rw [failed] at is_read
      cases is_read
  · rintro ⟨items, lists, each⟩
    rw [lists.read_eq path, tradesFrom_eq_ok.mpr each]
    rfl

/-- The values in the list are decoded. -/
theorem Lists.isDecoded {bytes : List UInt8} {items : List Value} (lists : Lists bytes items) :
    ∀ item ∈ items, item.IsDecoded := by
  obtain ⟨text, v, -, parsed, found⟩ := lists
  have whole := Json.isDecoded_of_parse parsed
  have list : (Value.list items).IsDecoded := by
    rcases found with rfl | ⟨entries, rfl, found⟩
    · exact whole
    · exact whole.of_field? found
  cases list with
  | list each => exact each

/-- **The first value of a list that describes no trade.** -/
structure IsFirstRefused (items : List Value) (i : Nat) (v : Value) : Prop where
  given : items[i]? = some v
  refused : ¬v.IsTrade
  earlier : ∀ j < i, ∀ w, items[j]? = some w → w.IsTrade

/-- Where trades are made of all values, every value describes one. -/
theorem isTrade_of_tradesFrom_eq_ok {items : List Value} {trades : List Trade}
    (decoded : ∀ item ∈ items, item.IsDecoded) (made : tradesFrom 0 items = .ok trades) :
    ∀ v ∈ items, v.IsTrade := by
  intro v member
  obtain ⟨i, given⟩ := List.getElem?_of_mem member
  have each : ∀ entry ∈ items.zipIdx, ∃ t, Trade.ofValue (place entry.2) entry.1 = .ok t :=
    ((List.forall₂_and_left ..).mp ((tradesFrom_eq_ok.mp made).imp fun _ t own =>
      ⟨⟨t, own⟩, own⟩)).1
  exact (Trade.exists_ofValue_iff (place i) (decoded v member)).mp
    (each (v, i) (List.mk_mem_zipIdx_iff_getElem?.mpr given))

/-- Where trades are not made of all values, the fault is that of the first one that describes
none. -/
theorem isFirstRefused_of_tradesFrom_eq_error {items : List Value} {f : TradeFault}
    (decoded : ∀ item ∈ items, item.IsDecoded) (failed : tradesFrom 0 items = .error f) :
    ∃ i v, IsFirstRefused items i v ∧ Trade.ofValue (place i) v = .error f := by
  obtain ⟨i, v, given, refused, earlier⟩ := tradesFrom_eq_error failed
  rw [Nat.zero_add] at refused
  have described {j : Nat} {w : Value} (found : items[j]? = some w) (index : Nat) :=
    Trade.exists_ofValue_iff (place index) (decoded w (List.mem_of_getElem? found))
  refine ⟨i, v, ⟨given, fun trade => ?_, fun j before w found => ?_⟩, refused⟩
  · exact exists_error_iff.mp ⟨f, refused⟩ ((described given i).mpr trade)
  · exact (described found (0 + j)).mp (earlier j before w found)

/-- Only the list of trades gives a fault that is not the reader's own. -/
theorem exists_isFirstRefused_of_not_isOwn {path : String} {bytes : List UInt8} {f : Fault}
    (failed : read path bytes = .error f) (foreign : ¬f.IsOwn) :
    ∃ items i v, Lists bytes items ∧ IsFirstRefused items i v := by
  obtain ⟨items, lists⟩ : ∃ items, Lists bytes items := by
    by_contra no_list
    obtain ⟨g, refused, own⟩ := read_of_not_lists no_list path
    exact foreign (Except.error.inj (refused.symm.trans failed) ▸ own)
  rw [lists.read_eq] at failed
  cases made : tradesFrom 0 items with
  | ok trades =>
    rw [made] at failed
    cases failed
  | error g =>
    obtain ⟨i, v, first, -⟩ := isFirstRefused_of_tradesFrom_eq_error lists.isDecoded made
    exact ⟨items, i, v, lists, first⟩

/-- A fault about a missing object or identifier is the reader's own. -/
theorem isOwn_unidentified (at_place : String) (v : Value) :
    (Fault.trade (Trade.unidentified at_place v)).IsOwn := by
  cases v <;> trivial

/-- **What the reader reports.** Trades are read just when the bytes hold a list of values of which
they are made, one by one. Bytes that hold no list are refused by a fault of the reader's own. Where
there is a list, every value describes a trade and the journal is read, or the fault is about the
first one that does not: if it is no object or has no identifier, it is a fault of the reader's own
that names the place, and otherwise it is the misuse of what is given for the tags. -/
theorem read_reports_first (path : String) (bytes : List UInt8) :
    (∀ trades, read path bytes = .ok trades ↔
      ∃ items, Lists bytes items ∧
        List.Forall₂ (fun entry t => Trade.ofValue (place entry.2) entry.1 = .ok t) items.zipIdx
          trades) ∧
      ((¬∃ items, Lists bytes items) → ∃ f, read path bytes = .error f ∧ f.IsOwn) ∧
      ∀ items, Lists bytes items →
        ((∀ v ∈ items, v.IsTrade) ∧ ∃ trades, read path bytes = .ok trades) ∨
        ∃ i v f, IsFirstRefused items i v ∧ read path bytes = .error f ∧
          (¬v.IsIdentified → f.IsOwn ∧
            f.message = place i ++ if v.kind = "dict" then ".id is required"
              else " must be an object") ∧
          (v.IsIdentified → ¬f.IsOwn ∧ v.givenTags.IsLone ∧
            f.message = "'" ++ v.givenTags.kind ++ "' object is not iterable") := by
  refine ⟨fun _ => read_eq_ok, fun no_list => read_of_not_lists no_list path, fun items lists => ?_⟩
  rw [lists.read_eq]
  -- the reading of the list settles which of the two it is, and the first refused value the fault
  cases made : tradesFrom 0 items with
  | ok trades => exact Or.inl ⟨isTrade_of_tradesFrom_eq_ok lists.isDecoded made, trades, rfl⟩
  | error f =>
    obtain ⟨i, v, first, failed⟩ := isFirstRefused_of_tradesFrom_eq_error lists.isDecoded made
    have decoded := lists.isDecoded v (List.mem_of_getElem? first.given)
    obtain ⟨-, unnamed, lone⟩ := Trade.ofValue_eq (place i) decoded
    refine Or.inr ⟨i, v, .trade f, first, rfl, fun nameless => ?_, fun named => ?_⟩
    · obtain rfl : Trade.unidentified (place i) v = f :=
        Except.error.inj ((unnamed nameless).symm.trans failed)
      exact ⟨isOwn_unidentified (place i) v, Trade.message_unidentified (place i) decoded⟩
    · have given : v.givenTags.IsLone := not_not.mp fun listed => first.refused ⟨named, listed⟩
      obtain rfl : .tags (.notIterable v.givenTags.kind) = f :=
        Except.error.inj ((lone named given).symm.trans failed)
      exact ⟨not_false, given, rfl⟩

/-- Two objects under "trades", one of them with a text for its tags: both describe trades. -/
theorem read_reports_first_none :
    let bytes :=
      "\x7b\"trades\": [\x7b\"id\":1\x7d, \x7b\"id\":\"b\", \"tags\":\"x\"\x7d]\x7d".toList.map
        (·.toNat.toUInt8)
    ∃ trades items, read "journal.json" bytes = .ok trades ∧ trades.map (·.id) = ["1", "b"] ∧
      Lists bytes items ∧
      List.Forall₂ (fun entry t => Trade.ofValue (place entry.2) entry.1 = .ok t)
        items.zipIdx trades ∧
      ∀ v ∈ items, v.IsTrade := by
  intro bytes
  have outcome : (read "journal.json" bytes).toOption.map (·.map (·.id)) = some ["1", "b"] := by
    decide +kernel
  obtain ⟨reads, -, reports⟩ := read_reports_first "journal.json" bytes
  cases is_read : read "journal.json" bytes with
  | error f =>
    rw [is_read] at outcome
    cases outcome
  | ok trades =>
    rw [is_read] at outcome
    obtain ⟨items, lists, each⟩ := (reads trades).mp is_read
    rcases reports items lists with ⟨all, -⟩ | ⟨i, v, f, -, failed, -⟩
    · exact ⟨trades, items, rfl, Option.some.inj outcome, lists, each, all⟩
    · rw [is_read] at failed
      cases failed

/-- The message is about the second value, whose identifier is the empty text, and not about the
third. -/
example :
    let bytes := "[\x7b\"id\":1\x7d, \x7b\"id\":\"\"\x7d, 5]".toList.map (·.toNat.toUInt8)
    (match read "journal.json" bytes with | .error f => f.message | .ok _ => "") =
      "trades[1].id is required" := by
  decide +kernel

/-- **The misuse of tags comes through**: an object with a number for its tags is refused by no
fault of the reader's own, and the message names no place at all. -/
theorem read_hands_on_misuse :
    let bytes := "[\x7b\"id\": 1, \"tags\": 5\x7d]".toList.map (·.toNat.toUInt8)
    (∃ items i v, Lists bytes items ∧ IsFirstRefused items i v) ∧
      ∃ f, read "journal.json" bytes = .error f ∧ ¬f.IsOwn ∧
        f.message = "'int' object is not iterable" ∧ ∀ i,
          ¬(place i).toList <:+: f.message.toList := by
  intro bytes
  have outcome : (match read "journal.json" bytes with
      | .error f => (decide f.IsOwn, f.message)
      | .ok _ => (true, "")) = (false, "'int' object is not iterable") := by
    decide +kernel
  cases failed : read "journal.json" bytes with
  | ok trades =>
    rw [failed] at outcome
    cases outcome
  | error f =>
    rw [failed] at outcome
    obtain ⟨not_own, message⟩ := Prod.mk.inj outcome
    have foreign : ¬f.IsOwn := of_decide_eq_false not_own
    refine ⟨exists_isFirstRefused_of_not_isOwn failed foreign, f, rfl, foreign, message,
      fun j inside => ?_⟩
    -- a place has a bracket, and the message has none
    have bracket : '[' ∈ (place j).toList := by simp [place]
    exact absurd (inside.subset bracket) (message ▸ by decide)

end Journal

end TradeJournal
