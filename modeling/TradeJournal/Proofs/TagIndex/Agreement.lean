import TradeJournal.Calendar.Standard
import TradeJournal.Proofs.Number.Order
import TradeJournal.Proofs.Search.Outcome
import TradeJournal.Proofs.Tag.Distinct
import TradeJournal.TagIndex

/-!
# The statistics of a tag are those of a search for it

Statistics and searches go through the records on their own: the one collects what uses each tag,
the other evaluates a query on each record. They agree. A tag has statistics exactly when a search
for it finds records, and these are the records that are counted, in order.

The date of the last use is the one point that takes more than following both: the latest use is
kept while the uses are gone through, and only a later one takes its place, so that of several uses
at the latest time the first one stays.
-/

namespace TradeJournal

namespace Calendar

/-- **A sort value is a number.** -/
theorem isNumber_of_dateSortValue {dates : DateReader} {text : String} {x : Double}
    (h : dateSortValue dates text = .ok x) : x.IsNumber := by
  rw [dateSortValue] at h
  cases parsed : parseDate dates text with
  | error f =>
    rw [parsed] at h
    cases h
  | ok moment =>
    rw [parsed] at h
    obtain rfl : sortValue moment = x := Except.ok.inj h
    cases moment with
    | none => exact Double.isNumber_infinity true
    | some m => exact Double.isNumber_ofRatio _ _ _

end Calendar

variable (dates : DateReader)

/-- Whether the date of a record has a sort value. -/
def Record.Dated (r : Record) : Prop := ∃ x, Calendar.dateSortValue dates r.date = .ok x

/-- The sort value of a record's date. -/
def Record.stamp (r : Record) : Double := (Calendar.dateSortValue dates r.date).toOption.getD .nan

variable {dates} in
theorem Record.Dated.dateSortValue_eq {r : Record} (h : r.Dated dates) :
    Calendar.dateSortValue dates r.date = .ok (r.stamp dates) := by
  obtain ⟨x, found⟩ := h
  rw [stamp, found]
  rfl

namespace TagIndex

open Search (Snapshot Result)

/-! ### Uses -/

/-- The use of tags that a record is. -/
def useOf (r : Record) : TagUse := ⟨r.tagSet, r.date, r.stamp dates, r.id?⟩

/-- The uses that records are. -/
def usesOf (records : List Record) : List TagUse :=
  (records.filter fun r => r.tagSet ≠ []).map (useOf dates)

variable {dates}

/-- The records that carry a tag. -/
def carrying (tag : String) (records : List Record) : List Record :=
  records.filter fun r => tag ∈ r.tagSet

/-- **The uses in a collection are its records with tags**, and these have dates that sort. -/
theorem uses_eq_ok {records : List Record} {all : List TagUse}
    (collected : uses dates (records.map fun r => (r, r.tagSet)) = .ok all) :
    (∀ r ∈ records, r.tagSet ≠ [] → r.Dated dates) ∧ all = usesOf dates records := by
  induction records generalizing all with
  | nil =>
    obtain rfl := Except.ok.inj collected
    exact ⟨by simp, rfl⟩
  | cons r rest ih =>
    rw [List.map_cons, uses] at collected
    cases untagged : r.tagSet.isEmpty with
    | true =>
      rw [untagged, if_pos rfl] at collected
      rw [List.isEmpty_iff] at untagged
      obtain ⟨dated, rfl⟩ := ih collected
      refine ⟨List.forall_mem_cons.mpr ⟨fun tagged => absurd untagged tagged, dated⟩, ?_⟩
      rw [usesOf, usesOf, List.filter_cons_of_neg (by simpa using untagged)]
    | false =>
      rw [untagged, if_neg (by simp)] at collected
      rw [List.isEmpty_eq_false_iff] at untagged
      obtain ⟨stamp, sorted, collected⟩ := bind_eq_ok.mp collected
      obtain ⟨others, collected', whole⟩ := bind_eq_ok.mp collected
      obtain ⟨dated, rfl⟩ := ih collected'
      have own : r.Dated dates := ⟨stamp, sorted⟩
      obtain rfl : r.stamp dates = stamp := Except.ok.inj (own.dateSortValue_eq.symm.trans sorted)
      refine ⟨List.forall_mem_cons.mpr ⟨fun _ => own, dated⟩, ?_⟩
      rw [usesOf, List.filter_cons_of_pos (by simpa using untagged), List.map_cons]
      exact (Except.ok.inj whole).symm

/-- The uses of a tag are the records that carry it. -/
theorem filter_uses (records : List Record) (tag : String) :
    (usesOf dates records).filter (tag ∈ ·.tags) = (carrying tag records).map (useOf dates) := by
  rw [usesOf, carrying, List.filter_map, List.filter_filter]
  congr 1
  refine List.filter_congr fun r _ => ?_
  have tagged : tag ∈ r.tagSet → r.tagSet ≠ [] := List.ne_nil_of_mem
  change (decide (tag ∈ r.tagSet) && decide (r.tagSet ≠ [])) = decide (tag ∈ r.tagSet)
  rw [← Bool.decide_and]
  exact decide_eq_decide.mpr ⟨And.left, fun carries => ⟨carries, tagged carries⟩⟩

/-! ### The last use -/

/-- **Whether a use is the first at the latest time**: those before it are earlier, and none after
it is later. -/
def IsLast (all : List TagUse) (last : TagUse) : Prop :=
  ∃ before after, all = before ++ last :: after ∧
    (∀ u ∈ before, u.stamp.lt last.stamp = true) ∧ ∀ u ∈ after, u.stamp.AtMost last.stamp

/-- One use more: a later one takes the place of the last use, and any other one does not. -/
theorem IsLast.step {all : List TagUse} {last u : TagUse} (h : IsLast all last)
    (number : last.stamp.IsNumber) (number' : u.stamp.IsNumber) :
    IsLast (all ++ [u]) (later last u) := by
  obtain ⟨before, after, rfl, earlier, not_later⟩ := h
  rw [later]
  cases less : last.stamp.lt u.stamp with
  | true =>
    refine ⟨before ++ last :: after, [], rfl, fun v member => ?_, by simp⟩
    rcases List.mem_append.mp member with first | rest
    · exact Double.lt_trans (earlier v first) less
    · rcases List.mem_cons.mp rest with rfl | second
      · exact less
      · exact (not_later v second).trans_lt less
  | false =>
    refine ⟨before, after ++ [u], by simp, earlier, fun v member => ?_⟩
    rcases List.mem_append.mp member with second | is_u
    · exact not_later v second
    · obtain rfl := List.mem_singleton.mp is_u
      exact number.atMost_of_not_lt number' less

theorem IsLast.mem {all : List TagUse} {last : TagUse} (h : IsLast all last) : last ∈ all := by
  obtain ⟨before, after, rfl, -⟩ := h
  simp

/-- **The use that is kept while the uses are gone through is the last one.** -/
theorem isLast_foldl {first : TagUse} {rest : List TagUse}
    (numbers : ∀ u ∈ first :: rest, u.stamp.IsNumber) :
    IsLast (first :: rest) (rest.foldl later first) := by
  induction rest using List.reverseRecOn with
  | nil => exact ⟨[], [], rfl, by simp, by simp⟩
  | append_singleton rest u ih =>
    rw [← List.cons_append] at numbers ⊢
    obtain ⟨others, number⟩ := List.forall_mem_append.mp numbers
    have h := ih others
    rw [List.foldl_append]
    exact h.step (others _ h.mem) (number u (by simp))

/-! ### Statistics -/

/-- The statistics of a tag bear its name. -/
theorem tag_of_statsOf? {all : List TagUse} {tag : String} {s : TagStats}
    (h : statsOf? all tag = some s) : s.tag = tag := by
  rw [statsOf?] at h
  split at h
  · cases h
  · obtain rfl := Option.some.inj h
    rfl

/-- **A collection with statistics** is one of readable records, and those with tags have dates that
sort. -/
theorem ofRecords_eq_ok {records : List Record} {index : TagIndex}
    (built : ofRecords dates records = .ok index) :
    (∀ r ∈ records, r.Readable) ∧ (∀ r ∈ records, r.tagSet ≠ [] → r.Dated dates) ∧
      index.stats = (Tag.distinct ((usesOf dates records).flatMap (·.tags))).filterMap
        (statsOf? (usesOf dates records)) := by
  rw [ofRecords] at built
  split at built
  · cases built
  · next snapshot made =>
    obtain ⟨readable, rfl⟩ := Search.Snapshot.ofRecords_eq_ok.mp made
    split at built
    · cases built
    · next index' collected =>
      obtain rfl := Except.ok.inj built
      obtain ⟨all, collected', whole⟩ := bind_eq_ok.mp collected
      obtain ⟨dated, rfl⟩ := uses_eq_ok collected'
      obtain rfl := Except.ok.inj whole
      exact ⟨readable, dated, rfl⟩

section Entries

variable {all : List TagUse} {index : TagIndex}
  (entries : index.stats = (Tag.distinct (all.flatMap (·.tags))).filterMap (statsOf? all))
include entries

/-- **The entries are the statistics of the tags that are used.** -/
theorem mem_stats_iff {s : TagStats} : s ∈ index.stats ↔ statsOf? all s.tag = some s := by
  rw [entries, List.mem_filterMap]
  constructor
  · rintro ⟨tag, -, found⟩
    rw [tag_of_statsOf? found]
    exact found
  · intro found
    refine ⟨s.tag, Tag.mem_distinct.mpr (List.mem_flatMap.mpr ?_), found⟩
    cases using_it : all.filter (s.tag ∈ ·.tags) with
    | nil =>
      rw [statsOf?, using_it] at found
      cases found
    | cons u rest =>
      have member : u ∈ all.filter (s.tag ∈ ·.tags) := using_it ▸ List.mem_cons_self
      obtain ⟨used, carries⟩ := List.mem_filter.mp member
      exact ⟨u, used, of_decide_eq_true carries⟩

/-- No tag has two entries. -/
theorem nodup_tags : (index.stats.map (·.tag)).Nodup := by
  have nodup : index.stats.Nodup := by
    rw [entries]
    refine (Tag.nodup_distinct _).filterMap fun tag tag' s found found' => ?_
    rw [← tag_of_statsOf? found, ← tag_of_statsOf? found']
  refine nodup.map_on fun s member s' member' same => ?_
  have found := (mem_stats_iff entries).mp member
  rw [same, (mem_stats_iff entries).mp member'] at found
  exact (Option.some.inj found).symm

end Entries

/-- **The statistics of a tag** that some record carries. -/
theorem statsOf?_of_carrying {records : List Record} {tag : String} {first : Record}
    {rest : List Record} (carriers : carrying tag records = first :: rest) :
    statsOf? (usesOf dates records) tag =
      some (statsOf tag (useOf dates first) (rest.map (useOf dates))) := by
  rw [statsOf?, filter_uses, carriers]
  rfl

theorem statsOf?_of_carrying_nil {records : List Record} {tag : String}
    (carriers : carrying tag records = []) : statsOf? (usesOf dates records) tag = none := by
  rw [statsOf?, filter_uses, carriers]
  rfl

/-- **The last use in the statistics of a tag**: no record that carries it has a later date, and of
those with that date the first one gives the text. -/
theorem lastUse_of_statsOf (tag : String) {first : Record} {rest : List Record}
    (dated : ∀ r ∈ first :: rest, r.Dated dates) :
    let s := statsOf tag (useOf dates first) (rest.map (useOf dates))
    (∀ r ∈ first :: rest, ∃ x, Calendar.dateSortValue dates r.date = .ok x ∧
        x.AtMost s.lastUsedAt) ∧
      ∃ before r after, first :: rest = before ++ r :: after ∧ s.lastUsed = r.date ∧
        Calendar.dateSortValue dates r.date = .ok s.lastUsedAt ∧
        ∀ earlier ∈ before, ∃ x, Calendar.dateSortValue dates earlier.date = .ok x ∧
          x.lt s.lastUsedAt = true := by
  intro s
  have numbers : ∀ u ∈ useOf dates first :: rest.map (useOf dates), u.stamp.IsNumber := by
    rw [← List.map_cons, List.forall_mem_map]
    exact fun r member => Calendar.isNumber_of_dateSortValue (dated r member).dateSortValue_eq
  obtain ⟨before, after, whole, earlier, not_later⟩ := isLast_foldl numbers
  rw [← List.map_cons, List.map_eq_append_iff] at whole
  -- The uses are made from the records one by one, so the records are cut where the uses are.
  obtain ⟨before', rest', whole', rfl, cut⟩ := whole
  obtain ⟨r, after', rfl, last, rfl⟩ := List.map_eq_cons_iff.mp cut
  rw [List.forall_mem_map, ← last] at earlier not_later
  have stamp : s.lastUsedAt = r.stamp dates := congrArg TagUse.stamp last.symm
  have own : (r.stamp dates).IsNumber :=
    numbers (useOf dates r) (by rw [← List.map_cons, whole']; simp)
  have dated' : ∀ q ∈ before' ++ r :: after', q.Dated dates := whole' ▸ dated
  rw [whole', stamp]
  refine ⟨fun q member => ⟨q.stamp dates, (dated' q member).dateSortValue_eq, ?_⟩,
    before', r, after', rfl, congrArg TagUse.date last.symm,
    (dated' r (by simp)).dateSortValue_eq, fun q member =>
      ⟨q.stamp dates, (dated' q (List.mem_append_left _ member)).dateSortValue_eq,
        earlier q member⟩⟩
  rcases List.mem_append.mp member with first | second
  · exact Or.inl (earlier q first)
  · rcases List.mem_cons.mp second with rfl | second
    · exact own.atMost_self
    · exact not_later q second

/-! ### Searching for a tag -/

/-- **A search for a tag** finds the records that carry it. -/
theorem search_tag {records : List Record} (readable : ∀ r ∈ records, r.Readable) {tag : String}
    (canonical : Tag.IsCanonical tag) :
    ∃ found, Search.search records tag = .ok found ∧ found.isValid = true ∧
      found.records = carrying tag records := by
  have scanned : Query.tokenize tag = [.tag tag] := Query.Token.scan_canonical canonical
  have parsed : Query.parse (Query.tokenize tag) = .ok (.tag tag) := by
    rw [scanned]
    rfl
  refine ⟨_, Search.search_eq_ok.mpr ⟨readable, rfl⟩, ?_⟩
  rw [Search.run_of_parse parsed]
  exact ⟨rfl, Search.Snapshot.filter_full records _⟩

/-- **Statistics and searches agree.** When a collection has statistics, a tag has an entry, and
only one, exactly when a search for it finds records. Its entry counts these records, has their
identifiers in order, and the date of the first one at the latest time. -/
theorem stats_agree_with_search (dates : DateReader) (records : List Record) (index : TagIndex)
    (built : ofRecords dates records = .ok index) (tag : String) (canonical : Tag.IsCanonical tag) :
    (index.stats.map (·.tag)).Nodup ∧
      ∃ found, Search.search records tag = .ok found ∧ found.isValid = true ∧
        ((∃ s ∈ index.stats, s.tag = tag) ↔ found.records ≠ []) ∧
        ∀ s ∈ index.stats, s.tag = tag →
          s.count = found.records.length ∧ s.ids = found.records.filterMap Record.id? ∧
          (∀ r ∈ found.records, ∃ x, Calendar.dateSortValue dates r.date = .ok x ∧
            x.AtMost s.lastUsedAt) ∧
          ∃ before r after, found.records = before ++ r :: after ∧ s.lastUsed = r.date ∧
            Calendar.dateSortValue dates r.date = .ok s.lastUsedAt ∧
            ∀ earlier ∈ before, ∃ x, Calendar.dateSortValue dates earlier.date = .ok x ∧
              x.lt s.lastUsedAt = true := by
  obtain ⟨readable, dated, entries⟩ := ofRecords_eq_ok built
  obtain ⟨found, searched, valid, carriers⟩ := search_tag readable canonical
  refine ⟨nodup_tags entries, found, searched, valid, ?_⟩
  rw [carriers]
  have dated' : ∀ r ∈ carrying tag records, r.Dated dates := by
    intro r member
    obtain ⟨inside, carries⟩ := List.mem_filter.mp member
    exact dated r inside (List.ne_nil_of_mem (of_decide_eq_true carries))
  cases carried : carrying tag records with
  | nil =>
    have no_entry : ∀ s ∈ index.stats, s.tag ≠ tag := by
      rintro s member rfl
      have own := (mem_stats_iff entries).mp member
      rw [statsOf?_of_carrying_nil carried] at own
      cases own
    refine ⟨?_, fun s member named => absurd named (no_entry s member)⟩
    constructor
    · rintro ⟨s, member, named⟩
      exact absurd named (no_entry s member)
    · intro some_record
      exact absurd rfl some_record
  | cons first rest =>
    have own : statsOf? (usesOf dates records) tag = _ := statsOf?_of_carrying carried
    rw [carried] at dated'
    refine ⟨⟨fun _ => List.cons_ne_nil _ _, fun _ =>
      ⟨statsOf tag (useOf dates first) (rest.map (useOf dates)),
        (mem_stats_iff entries).mpr own, rfl⟩⟩, fun s member named => ?_⟩
    have its_own := (mem_stats_iff entries).mp member
    rw [named, own] at its_own
    obtain rfl := Option.some.inj its_own
    have counted : (statsOf tag (useOf dates first) (rest.map (useOf dates))).count =
        (first :: rest).length := by
      simp [statsOf]
    have identified : (statsOf tag (useOf dates first) (rest.map (useOf dates))).ids
        = (first :: rest).filterMap Record.id? := by
      change ((first :: rest).map (useOf dates)).filterMap (·.id) = _
      rw [List.filterMap_map]
      rfl
    exact ⟨counted, identified, lastUse_of_statsOf tag dated'⟩

/-- Records without dates and with different spellings of one tag, the last of which carries it
twice: each counts once. -/
theorem stats_agree_with_search_undated :
    let record (id : String) (tags : Value) : Record :=
      .mapping [(.text "id", .text id), (.text "tags", tags)]
    let records := [record "1" (.text "#a"), record "2" (.text "b"),
      record "3" (.list [.text "A", .text "a!"])]
    ∃ index, ofRecords Calendar.standardDates records = .ok index ∧ Tag.IsCanonical "#a" ∧
      ∃ s ∈ index.stats, s.tag = "#a" ∧ s.count = 2 ∧ s.ids = ["1", "3"] := by
  intro record records
  have canonical : Tag.IsCanonical "#a" := ⟨['a'], by decide, by decide, rfl⟩
  obtain ⟨index, built⟩ : ∃ index, ofRecords Calendar.standardDates records = .ok index := ⟨_, rfl⟩
  have searched : Search.search records "#a" = .ok (.matched
      [record "1" (.text "#a"), record "3" (.list [.text "A", .text "a!"])] ["#a"] (.tag "#a")) :=
        rfl
  obtain ⟨-, found, searched', -, entry, described⟩ :=
    stats_agree_with_search Calendar.standardDates records index built "#a" canonical
  rw [searched] at searched'
  obtain rfl := Except.ok.inj searched'
  obtain ⟨s, member, named⟩ := entry.mpr (List.cons_ne_nil _ _)
  obtain ⟨counted, identified, -⟩ := described s member named
  exact ⟨index, built, canonical, s, member, named, counted, identified⟩

end TagIndex

end TradeJournal
