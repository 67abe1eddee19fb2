import Mathlib.Data.List.Forall2
import TradeJournal.Proofs.Search.Composition
import TradeJournal.Report

/-!
# Views show what was found

What a search finds is gone through four times on its way to the reader: for the highlights, for the
views, and once for each form of showing. The views are put together from two lists side by side, so
it matters that the passes keep step: one view for each record found, in order, with the record's
own tags and with those of them highlighted that the query names.

A line of tags has one word for each tag. As no canonical tag holds a blank or a bracket, the words
can be told apart again, and the bracketed ones are the highlighted tags (`mem_words_tagLine`).
-/

namespace TradeJournal

open Json (Report)
open Search (Highlight Result highlight highlightAll highlights search)

/-! ### The tags of a record -/

/-- **The tags of a readable record**: canonical spellings of the typed ones, without duplicates. -/
theorem Record.Readable.exists_typedTags {r : Record} (h : r.Readable) :
    ∃ typed, r.typedTags = .ok typed ∧
      r.tagSet = ((typed.map Tag.normalize).filter (· ≠ "")).eraseDups := by
  obtain ⟨typed, found, whole⟩ := bind_eq_ok.mp h.tags_eq
  exact ⟨typed, found, (Except.ok.inj whole).symm.trans (Tag.distinct_eq_eraseDups _)⟩

/-- The tags of a record are canonical. -/
theorem Record.Readable.isCanonical {r : Record} (h : r.Readable) {tag : String}
    (member : tag ∈ r.tagSet) : Tag.IsCanonical tag := by
  obtain ⟨typed, -, whole⟩ := h.exists_typedTags
  rw [whole, List.mem_eraseDups, List.mem_filter, List.mem_map] at member
  obtain ⟨⟨raw, -, rfl⟩, some_tag⟩ := member
  exact Tag.isCanonical_ofBody (of_decide_eq_true some_tag)

/-- No tag of a record is listed twice. -/
theorem Record.Readable.nodup_tagSet {r : Record} (h : r.Readable) : r.tagSet.Nodup := by
  obtain ⟨typed, -, whole⟩ := h.exists_typedTags
  rw [whole, ← Tag.distinct_eq_eraseDups]
  exact Tag.nodup_distinct _

/-! ### From records to views -/

/-- The view of a readable record, with some of its tags highlighted. -/
def Record.view (r : Record) (highlighted : List String) : TradeView where
  id := (r.field "id").display
  date := r.date
  currencyPair := (r.field "currency_pair").display?
  side := (r.field "side").display?
  status := (r.field "status").display?
  tags := r.tagSet
  highlighted := highlighted

/-- The tags of a record that are wanted. -/
def Record.wantedTags (wanted : List String) (r : Record) : List String :=
  r.tagSet.filter (· ∈ wanted)

theorem Record.mem_wantedTags {wanted : List String} {r : Record} {tag : String} :
    tag ∈ r.wantedTags wanted ↔ tag ∈ r.tagSet ∧ tag ∈ wanted := by
  rw [wantedTags, List.mem_filter, decide_eq_true_eq]

/-- The highlight of a readable record. -/
def Record.mark (wanted : List String) (r : Record) : Highlight :=
  ⟨(r.field "id").display, r.wantedTags wanted⟩

/-- Readable records have highlights, one each. -/
theorem highlightAll_of_readable (wanted : List String) {records : List Record}
    (readable : ∀ r ∈ records, r.Readable) :
    highlightAll wanted records = .ok (records.map (Record.mark wanted)) := by
  induction records with
  | nil => rfl
  | cons r rest ih =>
    obtain ⟨own, others⟩ := List.forall_mem_cons.mp readable
    rw [highlightAll, highlight, own.tags_eq, ih others]
    rfl

/-- Readable records with their highlights have views, one each. -/
theorem ofRecords_of_readable (wanted : List String) {records : List Record}
    (readable : ∀ r ∈ records, r.Readable) :
    TradeView.ofRecords (records.zip (records.map (Record.mark wanted))) =
      .ok (records.map fun r => r.view (r.wantedTags wanted)) := by
  induction records with
  | nil => rfl
  | cons r rest ih =>
    obtain ⟨own, others⟩ := List.forall_mem_cons.mp readable
    rw [List.map_cons, List.zip_cons_cons, TradeView.ofRecords, TradeView.ofRecord, own.tags_eq,
      ih others]
    rfl

/-- The tags that a result names are canonical, so that their spelling stays. -/
theorem map_normalize_matchingTags {records : List Record} {query : String} {result : Result}
    (searched : search records query = .ok result) :
    result.matchingTags.map Tag.normalize = result.matchingTags := by
  refine (List.map_congr_left fun tag member => ?_).trans (List.map_id _)
  rcases Search.search_cases searched with ⟨problems, rfl⟩ | ⟨tree, -, rfl⟩
  · cases member
  · obtain ⟨token, listed, named⟩ := List.mem_filterMap.mp (Tag.mem_distinct.mp member)
    cases token with
    | tag text =>
      obtain rfl : text = tag := Option.some.inj named
      exact (Query.Token.isCanonical_of_mem_tokenize listed).normalize_eq
    | and | or | not | opening | closing => cases named

/-- The records that a result holds are readable. -/
theorem readable_of_mem_result {records : List Record} {query : String} {result : Result}
    (searched : search records query = .ok result) : ∀ r ∈ result.records, r.Readable := by
  intro r member
  rcases Search.search_cases searched with ⟨problems, rfl⟩ | ⟨tree, -, rfl⟩
  · cases member
  · exact (Search.search_eq_ok.mp searched).1 r (List.mem_filter.mp member).1

/-- **What a search finds has highlights**, one for each record in order. -/
theorem highlights_of_search {records : List Record} {query : String} {result : Result}
    (searched : search records query = .ok result) :
    highlights result.records result.matchingTags =
      .ok (result.records.map (Record.mark result.matchingTags)) := by
  rw [highlights, map_normalize_matchingTags searched,
    highlightAll_of_readable _ (readable_of_mem_result searched)]

/-! ### Lines of tags -/

/-- A tag between brackets. -/
def bracketed (tag : String) : List Char := '[' :: tag.toList ++ [']']

namespace TradeView

/-- The words of the line of tags. -/
def tagWords (t : TradeView) : List (List Char) := t.tagLine.toList.splitOn ' '

/-- **The line of tags has a word for each tag**, in brackets if the tag is highlighted. -/
theorem tagWords_eq {t : TradeView} (canonical : ∀ tag ∈ t.tags, Tag.IsCanonical tag)
    (some_tag : t.tags ≠ []) :
    t.tagWords = t.tags.map fun tag => if tag ∈ t.highlighted then bracketed tag
      else tag.toList := by
  have written : t.tagLine.toList = [' '].intercalate
      (t.tags.map fun tag => if tag ∈ t.highlighted then bracketed tag else tag.toList) := by
    rw [tagLine, if_neg (by simpa using some_tag), joinTexts, String.toList_intercalate,
      List.map_map]
    refine congrArg (List.intercalate [' ']) (List.map_congr_left fun tag _ => ?_)
    rw [Function.comp_apply, apply_ite String.toList]
    simp [bracketed]
  rw [tagWords, written]
  refine List.splitOn_intercalate ' ' (List.forall_mem_map.mpr fun tag member => ?_)
    (by simpa using some_tag)
  -- a blank inside a tag would cut its word in two
  have solid : ' ' ∉ tag.toList := fun inside => by
    have := ((canonical tag member).spelling ' ' inside).not_blank
    simp [Text.isBlank] at this
  split
  · simp [bracketed, solid]
  · exact solid

/-- **The bracketed words are the highlighted tags.** -/
theorem mem_words_tagLine {t : TradeView} (canonical : ∀ tag ∈ t.tags, Tag.IsCanonical tag)
    (tag : String) : bracketed tag ∈ t.tagWords ↔ tag ∈ t.tags ∧ tag ∈ t.highlighted := by
  by_cases none_listed : t.tags = []
  · have line : t.tagWords = [['-']] := by
      rw [tagWords, tagLine, if_pos (by simpa using none_listed)]
      rfl
    simp [line, none_listed, bracketed]
  · rw [tagWords_eq canonical none_listed, List.mem_map]
    constructor
    · rintro ⟨other, member, word⟩
      split at word
      · next marked =>
        obtain rfl : other = tag := by simpa [bracketed, String.toList_inj] using word
        exact ⟨member, marked⟩
      · -- a tag begins with its marker, so that no tag is the bracketed word of another one
        obtain ⟨own, -, -, rfl⟩ := canonical other member
        simp [bracketed, Tag.marker] at word
    · rintro ⟨member, marked⟩
      exact ⟨tag, member, if_pos marked⟩

end TradeView

/-! ### Where an entry is shown -/

/-- Of pairs put together in a list, the second halves stand at the odd places. -/
theorem getElem?_flatMap_pair {α β : Type} (first second : α → β) (l : List α) (i : Nat) :
    (l.flatMap fun a => [first a, second a])[2 * i + 1]? = l[i]?.map second := by
  induction l generalizing i with
  | nil => rfl
  | cons a rest ih =>
    cases i with
    | zero => rfl
    | succ i => simpa [Nat.mul_succ] using ih i

/-- The tags of an entry are in the second of its two lines, which come after three other lines. -/
theorem SearchView.getElem?_lines {v : SearchView} (valid : v.isValid = true) (i : Nat) :
    v.lines[2 * i + 4]? = v.trades[i]?.map fun t => "   Tags: " ++ t.tagLine := by
  rw [lines, if_pos valid]
  change (v.trades.zipIdx.flatMap fun entry => entry.1.lines (entry.2 + 1))[2 * i + 1]? = _
  simp only [TradeView.lines]
  rw [getElem?_flatMap_pair, List.getElem?_zipIdx, Option.map_map]
  rfl

/-- The part of a report under a name. -/
def Json.Report.field? (name : String) : Report → Option Report
  | .record fields => (fields.find? (·.1 = name)).map (·.2)
  | _ => none

/-! ### What is shown of a search -/

/-- **Whether a view shows a record** for the tags that a search names: under its identifier, with
its tags and with those of them highlighted that are named. -/
structure TradeView.Shows (matching : List String) (r : Record) (t : TradeView) : Prop where
  id : t.id = (r.field "id").display
  tags : ∃ typed, r.typedTags = .ok typed ∧
    t.tags = ((typed.map Tag.normalize).filter (· ≠ "")).eraseDups
  own : ∃ own, r.tags = .ok own ∧ ∀ tag, tag ∈ t.tags ↔ tag ∈ own
  nodup : t.tags.Nodup
  canonical : ∀ tag ∈ t.tags, Tag.IsCanonical tag
  highlighted : t.highlighted = t.tags.filter (· ∈ matching)

theorem Record.Readable.shows {r : Record} (h : r.Readable) (matching : List String) :
    TradeView.Shows matching r (r.view (r.wantedTags matching)) where
  id := rfl
  tags := h.exists_typedTags
  own := ⟨r.tagSet, h.tags_eq, fun _ => Iff.rfl⟩
  nodup := h.nodup_tagSet
  canonical := fun _ => h.isCanonical
  highlighted := rfl

/-- **Views show what was found.** A search has a result just when the records are readable. Then
the result has highlights, and the two have a view. It has one entry for each record found, in
order, which shows the record. In the text, the line of an entry's tags has a word for each tag, and
the bracketed words are the highlighted tags; the report lists the same entries with the same tags
and highlighted tags. -/
theorem views_show_results (records : List Record) (query : String) :
    ((∃ result, search records query = .ok result) ↔ ∀ r ∈ records, r.Readable) ∧
      ∀ result, search records query = .ok result →
        ∃ marks view, highlights result.records result.matchingTags = .ok marks ∧
          SearchView.ofResult (some query) result marks = .ok view ∧
          List.Forall₂ (TradeView.Shows result.matchingTags) result.records view.trades ∧
          (view.text = endLines view.lines ∧
            ∀ i t, view.trades[i]? = some t →
              view.lines[2 * i + 4]? = some ("   Tags: " ++ t.tagLine) ∧
              (t.tags ≠ [] → t.tagWords =
                t.tags.map fun tag => if tag ∈ t.highlighted then bracketed tag else tag.toList) ∧
              ∀ tag, bracketed tag ∈ t.tagWords ↔ tag ∈ t.highlighted) ∧
          ∃ entries, view.report.field? "trades" = some (.list entries) ∧
            List.Forall₂ (fun t entry => entry.field? "id" = some (.text t.id) ∧
                entry.field? "tags" = some (.texts t.tags) ∧
                entry.field? "highlighted_tags" = some (.texts t.highlighted))
              view.trades entries := by
  refine ⟨⟨fun ⟨_, searched⟩ => (Search.search_eq_ok.mp searched).1,
    fun readable => ⟨_, Search.search_eq_ok.mpr ⟨readable, rfl⟩⟩⟩, fun result searched => ?_⟩
  have found := readable_of_mem_result searched
  -- highlights and views are both one for each record found, so the two lists are zipped in step
  have marked := highlights_of_search searched
  obtain ⟨view, viewed, entries, same_validity⟩ : ∃ view,
      SearchView.ofResult (some query) result
        (result.records.map (Record.mark result.matchingTags)) =
        .ok view ∧
      view.trades = result.records.map (fun r => r.view (r.wantedTags result.matchingTags)) ∧
      view.isValid = result.isValid := by
    rw [SearchView.ofResult, ofRecords_of_readable _ found]
    exact ⟨_, rfl, rfl, rfl⟩
  refine ⟨_, view, marked, viewed, ?_, ⟨rfl, fun i t entry => ?_⟩, _, rfl, ?_⟩
  · rw [entries, List.forall₂_map_right_iff, List.forall₂_same]
    exact fun r member => (found r member).shows result.matchingTags
  · have listed := List.mem_of_getElem? entry
    rw [entries] at listed
    obtain ⟨r, member, rfl⟩ := List.mem_map.mp listed
    have own := (found r member).shows result.matchingTags
    have valid : result.isValid = true := by
      cases result with
      | rejected => cases member
      | matched => rfl
    refine ⟨?_, TradeView.tagWords_eq own.canonical, fun tag => ?_⟩
    · rw [SearchView.getElem?_lines (same_validity.trans valid), entry]
      rfl
    · rw [TradeView.mem_words_tagLine own.canonical]
      exact and_iff_right_of_imp fun wanted => (List.mem_filter.mp wanted).1
  · rw [List.forall₂_map_right_iff, List.forall₂_same]
    exact fun t _ => ⟨rfl, rfl, rfl⟩

/-- Two records, one with a tag in two spellings: the tag that the query names is bracketed in its
line, the other one is not, and the record without tags has an entry as well. -/
theorem views_show_results_spellings :
    let records : List Record :=
      [.mapping [(.text "id", .int 1),
        (.text "tags", .list [.text "X", .null, .text "Swing!", .text "SWING"])],
        .mapping [(.text "id", .text "b")]]
    let found : Result := .matched records ["#swing", "#y"] (.or [.tag "#swing", .not (.tag "#y")])
    search records "#swing or not y" = .ok found ∧
      ∃ marks view, highlights found.records found.matchingTags = .ok marks ∧
        SearchView.ofResult (some "#swing or not y") found marks = .ok view ∧
        view.trades.map (·.tags) = [["#x", "#swing"], []] ∧
        view.trades.map (·.highlighted) = [["#swing"], []] ∧
        ∃ t, view.trades[0]? = some t ∧ view.lines[4]? = some ("   Tags: " ++ t.tagLine) ∧
          bracketed "#swing" ∈ t.tagWords ∧ bracketed "#x" ∉ t.tagWords := by
  intro records found
  have searched : search records "#swing or not y" = .ok found := rfl
  obtain ⟨marks, view, marked, viewed, -, ⟨-, lines⟩, -⟩ :=
    (views_show_results records "#swing or not y").2 found searched
  obtain rfl : marks = [⟨"1", ["#swing"]⟩, ⟨"b", []⟩] := (Except.ok.inj marked).symm
  have shown : view.trades.map (·.tags) = [["#x", "#swing"], []] ∧
      view.trades.map (·.highlighted) = [["#swing"], []] := by
    cases viewed
    exact ⟨rfl, rfl⟩
  refine ⟨searched, _, view, marked, viewed, shown.1, shown.2, ?_⟩
  obtain ⟨t, entry, highlighted⟩ : ∃ t, view.trades[0]? = some t ∧ t.highlighted = ["#swing"] := by
    cases viewed
    exact ⟨_, rfl, rfl⟩
  obtain ⟨line, -, brackets⟩ := lines 0 t entry
  exact ⟨t, entry, line, by simp [brackets, highlighted], by simp [brackets, highlighted]⟩

end TradeJournal
