import TradeJournal.Calendar.Standard
import TradeJournal.Proofs.Calendar.Range
import TradeJournal.Proofs.Search.Meaning
import TradeJournal.Proofs.TagIndex.Agreement

/-!
# Rankings and dates outside the calendar

Tags are ranked by their last uses, so the dates of all records with tags have to be worked out
first. How dates are read is up to a reader, of which it is assumed that it rejects what it does not
read and never breaks off. A text that is no date then does no harm: it sorts below all others. A
date whose moment lies outside the calendar does. It has no sort value, and there are neither
statistics nor completions as soon as one record with tags has such a date, whatever the other
records are (`rankings_unless_dates_stray`).
-/

namespace TradeJournal

/-! ### Uses of tags -/

variable {dates : DateReader}

namespace TagIndex

/-- **Entries whose dates have sort values** are uses of tags; without tags the date does not
matter. -/
theorem exists_uses {entries : List (Record × List String)}
    (dated : ∀ entry ∈ entries, entry.2 ≠ [] → entry.1.Dated dates) :
    ∃ all, uses dates entries = .ok all := by
  induction entries with
  | nil => exact ⟨[], rfl⟩
  | cons entry rest ih =>
    obtain ⟨r, tags⟩ := entry
    obtain ⟨own, others⟩ := List.forall_mem_cons.mp dated
    obtain ⟨all, collected⟩ := ih others
    rw [uses, collected]
    split
    · exact ⟨all, rfl⟩
    · next tagged =>
      rw [(own fun untagged => tagged (List.isEmpty_iff.mpr untagged)).dateSortValue_eq]
      exact ⟨_, rfl⟩

/-- **The first date without a sort value** is why there are no uses. -/
theorem uses_eq_error {before after : List (Record × List String)} {r : Record} {tags : List String}
    {f : Calendar.Fault} (dated : ∀ entry ∈ before, entry.2 ≠ [] → entry.1.Dated dates)
    (tagged : tags ≠ []) (fails : Calendar.dateSortValue dates r.date = .error f) :
    uses dates (before ++ (r, tags) :: after) = .error f := by
  induction before with
  | nil =>
    rw [List.nil_append, uses, if_neg (List.isEmpty_iff.not.mpr tagged), fails]
    rfl
  | cons entry rest ih =>
    obtain ⟨r', tags'⟩ := entry
    obtain ⟨own, others⟩ := List.forall_mem_cons.mp dated
    rw [List.cons_append, uses, ih others]
    split
    · rfl
    · next tagged' =>
      rw [(own fun untagged => tagged' (List.isEmpty_iff.mpr untagged)).dateSortValue_eq]
      rfl

section

variable {records : List Record} {s : Search.Snapshot}
  (made : Search.Snapshot.ofRecords records = .ok s)
include made

/-- The statistics of records are those of their snapshot. -/
theorem ofRecords_of_ok {index : TagIndex} (collected : ofSnapshot dates s = .ok index) :
    ofRecords dates records = .ok index := by
  rw [ofRecords, made]
  dsimp only
  rw [collected]

theorem ofRecords_of_error {f : Calendar.Fault} (fails : ofSnapshot dates s = .error f) :
    ofRecords dates records = .error (.date f) := by
  rw [ofRecords, made]
  dsimp only
  rw [fails]

end

end TagIndex

namespace Search

open Calendar (clockReading? parseDate dateSortValue Moment OnlyRejects Sorts ShowsStraying)

/-! ### Statistics and completions -/

/-- The entries of a snapshot, where the dates of the records with tags have sort values. -/
theorem dated_of_sorts {records : List Record}
    (sorts : ∀ r ∈ records, r.tagSet ≠ [] → Sorts dates r.date) :
    ∀ entry ∈ records.map (fun r => (r, r.tagSet)), entry.2 ≠ [] → entry.1.Dated dates :=
  List.forall_mem_map.mpr fun r member tagged => Calendar.sorts_iff.mp (sorts r member tagged)

/-- A typed text is completed from every index, as long as no record is being edited. -/
theorem exists_suggest (typed : String) (index : TagIndex) (limit : Int) :
    ∃ completions, Completion.suggest (.text typed) index none limit = .ok completions := by
  rw [Completion.suggest]
  split
  · exact ⟨_, rfl⟩
  · exact ⟨_, rfl⟩

section

variable {ν : Type} [Versions ν] (service : Service ν)

omit [Versions ν] in
/-- With statistics there are completions. -/
theorem Service.exists_suggest {s : Snapshot} {index : TagIndex}
    (collected : TagIndex.ofSnapshot dates s = .ok index) (typed : String) (limit : Option Int) :
    ∃ completions, service.suggest dates s (.text typed) limit = .ok completions := by
  obtain ⟨completions, completed⟩ :=
    Search.exists_suggest typed index (limit.getD service.defaultLimit)
  exact ⟨completions, by rw [suggest, collected]; dsimp only; rw [completed]⟩

omit [Versions ν] in
/-- Without statistics the date is reported. -/
theorem Service.suggest_eq_error {s : Snapshot} {f : Calendar.Fault}
    (fails : TagIndex.ofSnapshot dates s = .error f) (typed : Value) (limit : Option Int) :
    service.suggest dates s typed limit = .error (.date f) := by
  rw [suggest, fails]

end

/-- **Rankings exist unless a date strays.** With a reader of dates that never breaks off, every
text shows something or nothing. A text that shows nothing has no date and sorts below all others,
one that shows a reading that does not stray has its moment and sorts by it, and working out any
other date fails; a clock less than a day away shows such a reading on the first and the last day
only. Over records whose tags are nothing, one text or a list, with dates of any kind, there are
statistics, and completions of any typed text, when no record with tags has a date that shows a
straying reading; and otherwise the first such date is reported in place of the statistics and of
any completions. -/
theorem rankings_unless_dates_stray (dates : DateReader) (rejects : OnlyRejects dates)
    (text : String)
    (records : List Record) (held : ∀ r ∈ records, r.HoldsTags) :
    ((∃ reading, clockReading? dates text = .ok reading) ∧
      (clockReading? dates text = .ok none →
        parseDate dates text = .ok none ∧ dateSortValue dates text = .ok (.infinity true)) ∧
      (∀ r, clockReading? dates text = .ok (some r) → ¬r.Strays →
        parseDate dates text = .ok (some r.moment) ∧
          dateSortValue dates text = .ok r.moment.seconds) ∧
      ∀ r, clockReading? dates text = .ok (some r) → r.Strays →
        (∃ f, parseDate dates text = .error (.moment f) ∧
          dateSortValue dates text = .error (.moment f)) ∧
        ((r.ahead.getD 0).natAbs < 86400 →
          r.day.number = 0 ∨ r.day.number = Moment.calendarDays - 1)) ∧
    ∃ s, Snapshot.ofRecords records = .ok s ∧
      ((∀ r ∈ records, r.tagSet ≠ [] → ¬ShowsStraying dates r.date) →
        (∃ index, TagIndex.ofRecords dates records = .ok index) ∧
        ∀ (ν : Type) (service : Service ν) (typed : String) (limit : Option Int),
          ∃ completions, service.suggest dates s (.text typed) limit = .ok completions) ∧
      ∀ before r after, records = before ++ r :: after →
        (∀ q ∈ before, q.tagSet ≠ [] → ¬ShowsStraying dates q.date) → r.tagSet ≠ [] →
        ShowsStraying dates r.date →
        ∃ f, dateSortValue dates r.date = .error (.moment f) ∧
          TagIndex.ofRecords dates records = .error (.date (.moment f)) ∧
          ∀ (ν : Type) (service : Service ν) (typed : String) (limit : Option Int),
            service.suggest dates s (.text typed) limit = .error (.date (.moment f)) := by
  refine ⟨⟨rejects.exists_shown text, fun shows_none => ?_, fun r shows_it inside => ?_,
    fun r shows_it strays => ⟨Calendar.parseDate_of_strays shows_it strays, strays.first_or_last⟩⟩,
      ?_⟩
  · have none_parsed := Calendar.parseDate_of_shows shows_none (by simp)
    exact ⟨none_parsed, by rw [dateSortValue, none_parsed]; rfl⟩
  · have parsed := Calendar.parseDate_of_shows shows_it (by simpa using inside)
    exact ⟨parsed, by rw [dateSortValue, parsed]; rfl⟩
  have readable : ∀ r ∈ records, r.Readable := fun r member => (held r member).readable
  have made : Snapshot.ofRecords records = .ok (.full records) :=
    Snapshot.ofRecords_eq_ok.mpr ⟨readable, rfl⟩
  refine ⟨_, made, fun stay => ?_, fun before r after whole stay tagged strays => ?_⟩
  · have sorts : ∀ r ∈ records, r.tagSet ≠ [] → Sorts dates r.date := fun r member tagged =>
      rejects.sorts_iff_not_showsStraying.mpr (stay r member tagged)
    obtain ⟨all, collected⟩ := TagIndex.exists_uses (dated_of_sorts sorts)
    have indexed : TagIndex.ofSnapshot dates (.full records) = .ok _ :=
      bind_eq_ok.mpr ⟨all, collected, rfl⟩
    exact ⟨⟨_, TagIndex.ofRecords_of_ok made indexed⟩, fun ν service =>
      service.exists_suggest indexed⟩
  · obtain ⟨reading, shown, strays⟩ := strays
    obtain ⟨f, -, fails⟩ := Calendar.parseDate_of_strays shown strays
    have sorts : ∀ q ∈ before, q.tagSet ≠ [] → Sorts dates q.date := fun q member tagged' =>
      rejects.sorts_iff_not_showsStraying.mpr (stay q member tagged')
    have missing : TagIndex.ofSnapshot dates (.full records) = .error (.moment f) := by
      refine bind_eq_error.mpr (Or.inl ?_)
      rw [Snapshot.full, whole, List.map_append, List.map_cons]
      exact TagIndex.uses_eq_error (dated_of_sorts sorts) tagged fails
    exact ⟨f, fails, TagIndex.ofRecords_of_error made missing, fun ν service typed =>
      service.suggest_eq_error missing (.text typed)⟩

/-- The reader of dates that reads numeric dates only, and rejects any other text. -/
def numericDates : DateReader where
  numeric := Calendar.standardDates.numeric
  written _ := .error .rejected

theorem onlyRejects_numericDates : OnlyRejects numericDates where
  numeric text f rejected := by
    cases found : Calendar.Iso.read? text.toList with
    | some reading =>
      simp only [numericDates, Calendar.standardDates, found, reduceCtorEq] at rejected
    | none =>
      simp only [numericDates, Calendar.standardDates, found] at rejected
      exact (Except.error.inj rejected).symm
  written _ _ rejected := (Except.error.inj rejected).symm

/-- A text that is no date, a record without tags, whose date does not matter, and a date that does
not stray; and then a date an hour ahead of the first moment. -/
theorem rankings_unless_dates_stray_untagged :
    let record (date : String) (tags : Value) : Record :=
      .mapping [(.text "date", .text date), (.text "tags", tags)]
    let records := [record "unknown" (.text "a"), record "0001-01-01T00:00:00+01:00" .null,
      record "9999-12-31T23:00:00+01:00" (.list [.text "b"])]
    let stray := record "0001-01-01T00:00:00+01:00" (.text "c")
    OnlyRejects numericDates ∧ (∀ r ∈ records ++ [stray], r.HoldsTags) ∧
      (∀ r ∈ records, r.tagSet ≠ [] → ¬ShowsStraying numericDates r.date) ∧
      ShowsStraying numericDates stray.date ∧
      dateSortValue numericDates "unknown" = .ok (.infinity true) ∧
      (∃ index, TagIndex.ofRecords numericDates records = .ok index) ∧
      ∃ f, TagIndex.ofRecords numericDates (records ++ [stray]) = .error (.date (.moment f)) := by
  intro record records stray
  have held : ∀ r ∈ records ++ [stray], r.HoldsTags := by
    simp only [records, List.cons_append, List.nil_append, List.forall_mem_cons]
    exact ⟨trivial, trivial, trivial, trivial, by simp⟩
  have first_moment : ShowsStraying numericDates "0001-01-01T00:00:00+01:00" :=
    ⟨⟨⟨1, 1, 1, by decide, by decide, by decide⟩, ⟨0, 0, 0, 0, by decide⟩, some 3600⟩,
      by decide +kernel, by decide⟩
  have sorts : ∀ r ∈ records, r.tagSet ≠ [] → Sorts numericDates r.date := by
    simp only [records, List.forall_mem_cons]
    refine ⟨fun _ => ⟨none, by decide +kernel, by simp⟩, fun tagged => absurd rfl tagged,
      fun _ => ?_,
      by simp⟩
    exact
      ⟨some ⟨⟨9999, 12, 31, by decide, by decide, by decide⟩, ⟨23, 0, 0, 0, by decide⟩, some 3600⟩,
      by decide +kernel, by decide⟩
  have stay : ∀ r ∈ records, r.tagSet ≠ [] → ¬ShowsStraying numericDates r.date :=
    fun r member tagged =>
      onlyRejects_numericDates.sorts_iff_not_showsStraying.mp (sorts r member tagged)
  obtain ⟨⟨-, no_date, -⟩, s, -, indexed, -⟩ := rankings_unless_dates_stray numericDates
    onlyRejects_numericDates "unknown" records fun r member =>
      held r (List.mem_append_left _ member)
  obtain ⟨-, s', -, -, reported⟩ := rankings_unless_dates_stray numericDates
    onlyRejects_numericDates "" (records ++ [stray]) held
  obtain ⟨f, -, reported, -⟩ := reported records stray [] rfl stay (by decide +kernel) first_moment
  exact ⟨onlyRejects_numericDates, held, stay, first_moment, (no_date (by decide +kernel)).2,
    (indexed stay).1, f, reported⟩

/-- **One date an hour ahead of the first moment** leaves a journal without statistics and
completions. -/
theorem rankings_fail_on_first_day :
    let r := Record.mapping
      [(.text "date", .text "0001-01-01T00:00:00+01:00"), (.text "tags", .list [.text "a"])]
    OnlyRejects numericDates ∧ r.HoldsTags ∧ r.date = "0001-01-01T00:00:00+01:00" ∧
      parseDate numericDates r.date = .error (.moment .outsideCalendar) ∧
      dateSortValue numericDates r.date = .error (.moment .outsideCalendar) ∧
      TagIndex.ofRecords numericDates [r] = .error (.date (.moment .outsideCalendar)) ∧
      ∃ s, Snapshot.ofRecords [r] = .ok s ∧
        ({} : Service Value).suggest numericDates s (.text "") none =
          .error (.date (.moment .outsideCalendar)) := by
  intro r
  have parsed : parseDate numericDates r.date = .error (.moment .outsideCalendar) := by
    decide +kernel
  have sorted : dateSortValue numericDates r.date = .error (.moment .outsideCalendar) := by
    rw [dateSortValue, parsed]
    rfl
  have made : Snapshot.ofRecords [r] = .ok ⟨[(r, ["#a"])]⟩ := rfl
  have missing :
      TagIndex.uses numericDates ([] ++ (r, ["#a"]) :: []) = .error (.moment .outsideCalendar) :=
    TagIndex.uses_eq_error (by simp) (by simp) sorted
  have fails : TagIndex.ofSnapshot numericDates ⟨[(r, ["#a"])]⟩ =
      .error (.moment .outsideCalendar) :=
    bind_eq_error.mpr (Or.inl missing)
  exact ⟨onlyRejects_numericDates, trivial, rfl, parsed, sorted,
    TagIndex.ofRecords_of_error made fails, _, made, Service.suggest_eq_error _ fails _ _⟩

end Search

end TradeJournal
