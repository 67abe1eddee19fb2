import TradeJournal.Proofs.TagIndex.Agreement
import TradeJournal.Proofs.Value.Object

/-!
# Trades and the objects they are made from

A journal holds objects, and searches look at objects as well as at the trades that are made from
them. A trade has the identifier and the date of its object, so for searches and statistics the
two differ in their tags if in anything. The tags are listed twice, once by the reader of journals
(`Trade.typedTags`) and once by the reader of records (`Record.typedTags`), and the two lists differ
in one thing: a null in a list of tags is left out of the object's tags and is spelled out in the
trade's, as the tag "#none".

| notion | meaning |
|---|---|
| `Value.listed` | the elements in which tags are given |
| `Record.SameFace` | what searches and statistics look at is equal |
-/

namespace TradeJournal

open Value (IsObject)

/-! ### What a trade takes over -/

namespace Trade

/-- The names that have a second spelling, and those spellings. -/
def respelled : List String := ["currencyPair", "currency_pair", "lotSize", "lot_size"]

/-- Any other name stands for itself alone. -/
theorem canonicalName_eq_iff {name : String} (plain : name ∉ respelled) (key : String) :
    canonicalName key = name ↔ key = name := by
  simp only [respelled, List.mem_cons, List.not_mem_nil, or_false, not_or] at plain
  unfold canonicalName
  split <;> grind

/-- **The value of an object under a name** with one spelling is what a trade is given. -/
theorem known_eq_field {entries : List (Value × Value)} (object : IsObject entries) {name : String}
    (plain : name ∉ respelled) : known entries name = (Record.mapping entries).field name := by
  rw [known, Record.field, Value.field?, Value.lookup?, ← object.getLast?_filter]
  refine congrArg (fun named : List (Value × Value) => (named.getLast?.map (·.2)).getD .null)
    (List.filter_congr fun entry _ => ?_)
  rw [Bool.eq_iff_iff, Value.same_text_iff]
  split
  · next key is_key =>
    rw [is_key, decide_eq_true_iff, canonicalName_eq_iff plain, Value.text.injEq]
  · next other =>
    constructor
    · intro impossible
      cases impossible
    · intro is_name
      exact absurd is_name (other name)

/-- **What is known of a trade** that is made from an object. -/
structure MadeFrom (entries : List (Value × Value)) (t : Trade) : Prop where
  id : (Record.mapping entries).id? = some t.id
  date : (Record.mapping entries).date = t.date
  tags : typedTags ((Record.mapping entries).field "tags") = .ok t.tags

theorem madeFrom_of_ofValue {place : String} {entries : List (Value × Value)} {t : Trade}
    (object : IsObject entries) (made : ofValue place (.mapping entries) = .ok t) :
    MadeFrom entries t := by
  rw [ofValue] at made
  have taken {name : String} (plain : name ∉ respelled) := known_eq_field object plain
  rw [taken (by decide : "id" ∉ respelled), taken (by decide : "date" ∉ respelled),
    taken (by decide : "tags" ∉ respelled)] at made
  split at made
  · cases made
  · next identified =>
    rw [not_or, Bool.not_eq_true] at identified
    split at made
    · cases made
    · next tags listed =>
      obtain rfl := Except.ok.inj made
      refine ⟨?_, rfl, listed⟩
      rw [Record.id?]
      simp [identified.1]

end Trade

/-! ### The two lists of tags -/

theorem Value.isNull_iff {v : Value} : v.isNull = true ↔ v = .null := by
  cases v <;> simp [Value.isNull]

/-- **The elements in which a value gives tags**: one text is one element, and what says nothing has
none. -/
def Value.listed (v : Value) : Except Value.Misuse (List Value) :=
  match v with
  | .text s => .ok (if s = "" then [] else [.text s])
  | v => if v.isTruthy then v.elements else .ok []

/-- Whether a null is among them. -/
def Value.ListsNull (v : Value) : Prop := ∃ items, v.listed = .ok items ∧ .null ∈ items

theorem Value.listed_of_not_text {v : Value} (other : ∀ s, v ≠ .text s) :
    v.listed = if v.isTruthy then v.elements else .ok [] := by
  cases v with
  | text s => exact absurd rfl (other s)
  | _ => rfl

/-- A trade is given the texts of these elements. -/
theorem Trade.typedTags_eq (v : Value) : typedTags v = (·.map Value.display) <$> v.listed := by
  unfold typedTags
  split
  · rw [Value.listed]
    split <;> rfl
  · next other =>
    rw [Value.listed_of_not_text other]
    split <;> rfl

/-- **An object leaves out the nulls.** -/
theorem Record.typedTags_mapping (entries : List (Value × Value)) :
    (mapping entries).typedTags =
      (fun items => (items.filter (!·.isNull)).map Value.display) <$>
        ((mapping entries).field "tags").listed := by
  rw [typedTags]
  · split
    · next s given =>
      rw [given, Value.listed]
      split <;> rfl
    · next other =>
      rw [Value.listed_of_not_text other]
      split
      · cases Value.elements _ <;> rfl
      · rfl
  · simp

/-- The tags that elements give. -/
def Tag.ofItems (items : List Value) : List String :=
  distinct (((items.map Value.display).map normalize).filter (· ≠ ""))

theorem Tag.mem_ofItems {items : List Value} {tag : String} :
    tag ∈ ofItems items ↔ (∃ item ∈ items, normalize item.display = tag) ∧ tag ≠ "" := by
  rw [ofItems, mem_distinct, List.mem_filter, List.map_map, List.mem_map, decide_eq_true_iff]
  rfl

/-- **The tags of an object and of its trade.** A null in the list is one more tag of the trade, and
where none is listed the two are equal. -/
theorem Trade.MadeFrom.tags_agree {entries : List (Value × Value)} {t : Trade}
    (made : MadeFrom entries t) :
    ∃ own its, (Record.mapping entries).tags = .ok own ∧ (Record.trade t).tags = .ok its ∧
      (∀ tag, tag ∈ its ↔
        tag ∈ own ∨ tag = "#none" ∧ ((Record.mapping entries).field "tags").ListsNull) ∧
      (¬((Record.mapping entries).field "tags").ListsNull → its = own) := by
  have listed := made.tags
  rw [typedTags_eq] at listed
  cases given : ((Record.mapping entries).field "tags").listed with
  | error m =>
    rw [given] at listed
    cases listed
  | ok items =>
    rw [given] at listed
    have texts : items.map Value.display = t.tags := Except.ok.inj listed
    have null_listed : ((Record.mapping entries).field "tags").ListsNull ↔ .null ∈ items := by
      rw [Value.ListsNull, given]
      simp
    refine ⟨Tag.ofItems (items.filter (!·.isNull)), Tag.ofItems items, ?_, ?_, fun tag =>
      ?_, fun no_null => ?_⟩
    · rw [Record.tags, Record.typedTags_mapping, given]
      rfl
    · rw [Tag.ofItems, texts]
      rfl
    · rw [Tag.mem_ofItems, Tag.mem_ofItems, null_listed]
      constructor
      · rintro ⟨⟨item, member, rfl⟩, some_tag⟩
        cases null : item.isNull with
        | false =>
          exact Or.inl ⟨⟨item, List.mem_filter.mpr ⟨member, by simp [null]⟩, rfl⟩, some_tag⟩
        | true =>
          obtain rfl := Value.isNull_iff.mp null
          exact Or.inr ⟨rfl, member⟩
      · rintro (⟨⟨item, member, rfl⟩, some_tag⟩ | ⟨rfl, member⟩)
        · exact ⟨⟨item, (List.mem_filter.mp member).1, rfl⟩, some_tag⟩
        · exact ⟨⟨.null, member, rfl⟩, by decide⟩
    · rw [null_listed] at no_null
      have all_kept : items.filter (!·.isNull) = items := by
        refine List.filter_eq_self.mpr fun item member => ?_
        rw [Bool.not_eq_true', ← Bool.not_eq_true, Value.isNull_iff]
        rintro rfl
        exact no_null member
      rw [all_kept]

/-! ### Records that look the same -/

/-- **Two records that searches and statistics do not tell apart.** -/
structure Record.SameFace (r r' : Record) : Prop where
  tags : r.tags = r'.tags
  date : r.date = r'.date
  id : r.id? = r'.id?

theorem Record.SameFace.tagSet {r r' : Record} (h : r.SameFace r') : r.tagSet = r'.tagSet := by
  rw [Record.tagSet, Record.tagSet, h.tags]

theorem Record.readable_of_sameFace {records records' : List Record}
    (alike : List.Forall₂ SameFace records records') (readable : ∀ r ∈ records, r.Readable) :
    ∀ r ∈ records', r.Readable := by
  induction alike with
  | nil => simp
  | @cons r r' _ _ same _ ih =>
    obtain ⟨⟨tags, worked_out⟩, others⟩ := List.forall_mem_cons.mp readable
    exact List.forall_mem_cons.mpr ⟨⟨tags, same.tags ▸ worked_out⟩, ih others⟩

namespace Search

theorem Snapshot.tagged_eq_error_sameFace {records records' : List Record}
    (alike : List.Forall₂ Record.SameFace records records') {m : Value.Misuse} :
    tagged records = .error m ↔ tagged records' = .error m := by
  induction alike with
  | nil => rfl
  | cons same _ ih =>
    simp only [tagged, bind_eq_error, same.tags, ih, reduceCtorEq, and_false, exists_false]

/-- **A search fails in the same way** among records that look the same. -/
theorem search_eq_error_sameFace {records records' : List Record}
    (alike : List.Forall₂ Record.SameFace records records') (query : String) {m : Value.Misuse} :
    search records query = .error m ↔ search records' query = .error m := by
  simp only [search, Snapshot.ofRecords, bind_eq_error, Snapshot.tagged_eq_error_sameFace alike,
    reduceCtorEq, and_false, exists_false]

/-- **A search finds the same positions** among records that look the same, one by one. -/
theorem search_sameFace {records records' : List Record}
    (alike : List.Forall₂ Record.SameFace records records') (query : String)
    {found : Result} (searched : search records query = .ok found) :
    ∃ found' keep, search records' query = .ok found' ∧
      found.records = records.filter keep ∧ found'.records = records'.filter keep ∧
      List.Forall₂ (fun r r' => keep r = keep r') records records' ∧
      found'.isValid = found.isValid ∧ found'.problems = found.problems ∧
      found'.matchingTags = found.matchingTags ∧ found'.tree = found.tree := by
  obtain ⟨readable, rfl⟩ := search_eq_ok.mp searched
  have readable' := Record.readable_of_sameFace alike readable
  by_cases parsed : ∃ tree, Query.parse (Query.tokenize query) = .ok tree
  · obtain ⟨tree, parsed⟩ := parsed
    have own : run (.full records) query = _ := run_of_parse parsed
    have its : run (.full records') query = _ := run_of_parse parsed
    refine ⟨_, fun r => matchesTags tree r.tagSet, search_eq_ok.mpr ⟨readable', rfl⟩, ?_⟩
    rw [own, its]
    refine ⟨Snapshot.filter_full records _, Snapshot.filter_full records' _, ?_, rfl, rfl, rfl, rfl⟩
    exact alike.imp fun r r' same => congrArg (matchesTags tree) same.tagSet
  · rw [← Query.defects_eq_nil_iff_exists_parse] at parsed
    have own : run (.full records) query = _ := run_of_defects parsed
    have its : run (.full records') query = _ := run_of_defects parsed
    refine ⟨_, fun _ => false, search_eq_ok.mpr ⟨readable', rfl⟩, ?_⟩
    rw [own, its]
    exact ⟨by simp [Result.records], by simp [Result.records], alike.imp fun _ _ _ => rfl, rfl, rfl,
      rfl, rfl⟩

end Search

namespace TagIndex

open Search (Snapshot)

variable (dates : DateReader)

/-- The use of tags that a record is, before other uses. -/
def usesCons (r : Record) (tags : List String) (others : Except Calendar.Fault (List TagUse)) :
    Except Calendar.Fault (List TagUse) :=
  if tags.isEmpty then others
  else do
    let stamp ← Calendar.dateSortValue dates r.date
    let others ← others
    .ok (⟨tags, r.date, stamp, r.id?⟩ :: others)

theorem uses_tagged_cons (r : Record) (rest : List Record) :
    uses dates <$> Snapshot.tagged (r :: rest) =
      r.tags >>= fun tags => usesCons dates r tags <$> uses dates <$> Snapshot.tagged rest := by
  rw [Snapshot.tagged]
  cases r.tags with
  | error m => rfl
  | ok tags => cases Snapshot.tagged rest <;> rfl

/-- Records that look the same are the same uses of tags, or fail to be in the same way. -/
theorem uses_tagged_sameFace {records records' : List Record}
    (alike : List.Forall₂ Record.SameFace records records') :
    uses dates <$> Snapshot.tagged records = uses dates <$> Snapshot.tagged records' := by
  induction alike with
  | nil => rfl
  | @cons r r' _ _ same _ ih =>
    have own : usesCons dates r = usesCons dates r' := by
      funext tags others
      rw [usesCons, usesCons, same.date, same.id]
    rw [uses_tagged_cons, uses_tagged_cons, same.tags, own, ih]

/-- The statistics of uses, if the tags of the records and the dates of the uses can be worked
out. -/
def ofUses : Except Value.Misuse (Except Calendar.Fault (List TagUse)) → Except Fault TagIndex
  | .error m => .error (.tags m)
  | .ok (.error f) => .error (.date f)
  | .ok (.ok all) => .ok ⟨(Tag.distinct (all.flatMap (·.tags))).filterMap (statsOf? all)⟩

theorem ofRecords_eq_ofUses (records : List Record) :
    ofRecords dates records = ofUses (uses dates <$> Snapshot.tagged records) := by
  rw [ofRecords, Snapshot.ofRecords]
  cases Snapshot.tagged records with
  | error m => rfl
  | ok entries =>
    change _ = ofUses (.ok (uses dates entries))
    cases used : uses dates entries <;> simp [ofSnapshot, used, ofUses, bind, Except.bind]

/-- **Records that look the same have the same statistics**, or none for the same reason. -/
theorem ofRecords_sameFace {records records' : List Record}
    (alike : List.Forall₂ Record.SameFace records records') :
    ofRecords dates records = ofRecords dates records' := by
  rw [ofRecords_eq_ofUses, ofRecords_eq_ofUses, uses_tagged_sameFace dates alike]

end TagIndex

/-! ### Loading -/

namespace Trade

/-- Whether a trade is one that a journal gives for an object. -/
def LoadedFrom (entries : List (Value × Value)) (t : Trade) : Prop :=
  IsObject entries ∧ ∃ place, ofValue place (.mapping entries) = .ok t

theorem LoadedFrom.madeFrom {entries : List (Value × Value)} {t : Trade}
    (loaded : LoadedFrom entries t) : MadeFrom entries t := by
  obtain ⟨object, place, made⟩ := loaded
  exact madeFrom_of_ofValue object made

/-- **An object without a null among its tags looks like its trade.** -/
theorem MadeFrom.sameFace {entries : List (Value × Value)} {t : Trade} (made : MadeFrom entries t)
    (no_null : ¬((Record.mapping entries).field "tags").ListsNull) :
    (Record.mapping entries).SameFace (.trade t) := by
  obtain ⟨own, its, tags, tags', -, equal⟩ := made.tags_agree
  refine ⟨by rw [tags, tags', equal no_null], ?_, made.id⟩
  rw [made.date]
  change _ = textOf (.text t.date)
  rw [textOf]
  cases said : (Value.text t.date).isTruthy with
  | true => rfl
  | false => simpa [Value.isTruthy] using said

/-- **Trades and the objects they are loaded from.** A trade has the tags of its object, and "#none"
besides where the object lists a null among its tags. Where no object does, each trade has the tags
of its object, every query finds the same positions among the trades as among the objects, and the
statistics of the two are equal, however dates are read. -/
theorem loading_keeps_tags (objects : List (List (Value × Value))) (trades : List Trade)
    (loaded : List.Forall₂ LoadedFrom objects trades) :
    List.Forall₂ (fun entries t => ∃ own its,
        (Record.mapping entries).tags = .ok own ∧ (Record.trade t).tags = .ok its ∧
        ∀ tag, tag ∈ its ↔
          tag ∈ own ∨ tag = "#none" ∧ ((Record.mapping entries).field "tags").ListsNull)
      objects trades ∧
    ((∀ entries ∈ objects, ¬((Record.mapping entries).field "tags").ListsNull) →
      List.Forall₂ (fun entries t => (Record.trade t).tags = (Record.mapping entries).tags)
        objects trades ∧
      (∀ query, ∃ found found' keep,
        Search.search (objects.map .mapping) query = .ok found ∧
        Search.search (trades.map .trade) query = .ok found' ∧
        found.records = (objects.map .mapping).filter keep ∧
        found'.records = (trades.map .trade).filter keep ∧
        List.Forall₂ (fun entries t => keep (.mapping entries) = keep (.trade t)) objects trades ∧
        found'.isValid = found.isValid ∧ found'.problems = found.problems ∧
        found'.matchingTags = found.matchingTags ∧ found'.tree = found.tree) ∧
      ∀ dates, TagIndex.ofRecords dates (objects.map .mapping) =
        TagIndex.ofRecords dates (trades.map .trade)) := by
  refine ⟨loaded.imp fun entries t one => ?_, fun no_null => ?_⟩
  · obtain ⟨own, its, tags, tags', members, -⟩ := one.madeFrom.tags_agree
    exact ⟨own, its, tags, tags', members⟩
  · have faces : List.Forall₂ (fun entries t => (Record.mapping entries).SameFace (.trade t))
        objects trades :=
      ((List.forall₂_and_left ..).mpr ⟨no_null, loaded⟩).imp fun entries t one =>
        one.2.madeFrom.sameFace one.1
    have alike : List.Forall₂ Record.SameFace (objects.map .mapping) (trades.map .trade) :=
      List.forall₂_map_left_iff.mpr (List.forall₂_map_right_iff.mpr faces)
    have readable : ∀ r ∈ objects.map Record.mapping, r.Readable := by
      have paired : List.Forall₂
          (fun entries t => (Record.mapping entries).Readable ∧ LoadedFrom entries t)
          objects trades := by
        refine loaded.imp fun entries t one => ?_
        obtain ⟨own, -, tags, -⟩ := one.madeFrom.tags_agree
        exact ⟨⟨own, tags⟩, one⟩
      exact List.forall_mem_map.mpr ((List.forall₂_and_left ..).mp paired).1
    refine ⟨faces.imp fun entries t same => same.tags.symm, fun query => ?_,
      fun dates => TagIndex.ofRecords_sameFace dates alike⟩
    have searched : Search.search (objects.map .mapping) query =
        .ok (Search.run (.full (objects.map .mapping)) query) :=
      Search.search_eq_ok.mpr ⟨readable, rfl⟩
    obtain ⟨found', keep, searched', kept, kept', agree, rest⟩ :=
      Search.search_sameFace alike query searched
    rw [List.forall₂_map_left_iff, List.forall₂_map_right_iff] at agree
    exact ⟨_, found', keep, searched, searched', kept, kept', agree, rest⟩

/-- Tags given as a text, as a list with a number in it, and as a mapping. -/
theorem loading_keeps_tags_mixed :
    let object (id : Nat) (tags : Value) : List (Value × Value) :=
      [(.text "id", .int id), (.text "tags", tags)]
    let objects := [object 1 (.text "A"), object 2 (.list [.text "a", .int 7]),
      object 3 (.mapping [(.text "b", .null)])]
    ∃ trades, List.Forall₂ LoadedFrom objects trades ∧
      (∀ entries ∈ objects, ¬((Record.mapping entries).field "tags").ListsNull) ∧
      TagIndex.ofRecords Calendar.standardDates (objects.map .mapping) =
        TagIndex.ofRecords Calendar.standardDates (trades.map .trade) := by
  intro object objects
  have an_object (id : Nat) (tags : Value) : IsObject (object id tags) :=
    (Value.isObject_nil.insert "id" _).insert "tags" _
  have loaded : List.Forall₂ LoadedFrom objects _ :=
    .cons ⟨an_object _ _, "trade", rfl⟩
      (.cons ⟨an_object _ _, "trade", rfl⟩ (.cons ⟨an_object _ _, "trade", rfl⟩ .nil))
  have no_null : ∀ entries ∈ objects, ¬((Record.mapping entries).field "tags").ListsNull := by
    have without {v : Value} {items : List Value} (listed : v.listed = .ok items)
        (no_null : ∀ item ∈ items, item.isNull = false) : ¬v.ListsNull := by
      rintro ⟨items', listed', member⟩
      obtain rfl := Except.ok.inj (listed.symm.trans listed')
      cases no_null _ member
    simp only [objects, List.forall_mem_cons]
    exact ⟨without rfl (by decide), without rfl (by decide), without rfl (by decide), by simp⟩
  exact ⟨_, loaded, no_null, ((loading_keeps_tags objects _ loaded).2 no_null).2.2 _⟩

/-- **A null among the tags of an object becomes a tag of its trade**, so that a search finds the
trade and not the object. -/
theorem loading_adds_none :
    let entries : List (Value × Value) := [(.text "id", .text "1"), (.text "tags", .list [.null])]
    ∃ t, LoadedFrom entries t ∧ (Record.mapping entries).tags = .ok [] ∧
      (Record.trade t).tags = .ok ["#none"] ∧
      (∃ found, Search.search [.mapping entries] "none" = .ok found ∧ found.records.length = 0) ∧
      (∃ found, Search.search [.trade t] "none" = .ok found ∧ found.records.length = 1) ∧
      TagIndex.ofRecords Calendar.standardDates [.mapping entries] ≠
        TagIndex.ofRecords Calendar.standardDates [.trade t] := by
  intro entries
  have object : IsObject entries := (Value.isObject_nil.insert "id" _).insert "tags" _
  refine ⟨_, ⟨object, "trade", rfl⟩, rfl, rfl, ⟨_, rfl, rfl⟩, ⟨_, rfl, rfl⟩, fun equal => ?_⟩
  have emptied := congrArg (fun made => made.toOption.map (·.stats.length)) equal
  revert emptied
  decide

end Trade

end TradeJournal
