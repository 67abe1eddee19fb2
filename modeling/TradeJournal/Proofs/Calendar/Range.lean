import Mathlib.Tactic.IntervalCases
import TradeJournal.Calendar.Reading

/-!
# Dates whose moments lie outside the calendar

A clock that is ahead of universal time or behind it can show a day of the calendar at a moment that
is not in it: an hour ahead, the first day begins while the moment still lies in the year before.
Such a reading strays, and so does any of a clock that is a day or more away. Readings that stray
name no moment, and all others do (`Moment.ofReading_of_not_strays`). As long as the clock is less
than a day away, only readings on the first and the last day can stray
(`ClockReading.Strays.first_or_last`).

Whatever the reader of dates is, a text has a sort value when it shows nothing, and is then below
all others, or a reading that does not stray. With a reader that never breaks off, working out a
date fails for readings that stray only.
-/

namespace TradeJournal.Calendar

/-! ### The days of the calendar -/

/-- The months of a year fit into it. -/
theorem daysBeforeMonth_add_le (year : Nat) {month : Nat} (some_month : 1 ≤ month ∧ month ≤ 12) :
    daysBeforeMonth year month + daysInMonth year month ≤ 365 + if isLeap year then 1 else 0 := by
  obtain ⟨first, last⟩ := some_month
  cases leap : isLeap year <;> interval_cases month <;>
    simp [daysBeforeMonth, daysInMonth, leap]

/-- **Days are numbered within the calendar.** -/
theorem Day.number_lt (d : Day) : d.number < Moment.calendarDays := by
  have in_year := daysBeforeMonth_add_le d.year d.month_mem
  have in_month := d.day_mem
  have years := d.year_mem
  have leap : isLeap d.year = true → d.year % 4 = 0 := by
    simp only [isLeap, Bool.decide_and, Bool.and_eq_true, decide_eq_true_eq]
    exact And.left
  rw [maxYear] at years
  rw [number, daysBeforeYear, Moment.calendarDays]
  -- The bound has no room for a leap day in the last year, which has none.
  split at in_year
  · have fourth := leap ‹_›
    omega
  · omega

/-- A time of day is before the end of the day. -/
theorem ClockTime.micros_lt (t : ClockTime) : t.micros < microsPerDay := by
  have in_range := t.in_range
  rw [micros, microsPerDay]
  omega

/-! ### Readings that stray -/

/-- Whether a moment lies in the calendar. -/
def Moment.InCalendar (m : Moment) : Prop := 0 ≤ m.micros ∧ m.micros < calendarDays * microsPerDay

instance (m : Moment) : Decidable m.InCalendar := inferInstanceAs (Decidable (_ ∧ _))

namespace ClockReading

/-- **The moment at which a clock shows a reading**, in the calendar or not. -/
def moment (r : ClockReading) : Moment :=
  ⟨(Moment.ofClock r.day r.time).micros - r.ahead.getD 0 * 1_000_000⟩

/-- **Readings that stray**: the clock is a day or more away from universal time, or its moment is
not in the calendar. -/
def Strays (r : ClockReading) : Prop := 86400 ≤ (r.ahead.getD 0).natAbs ∨ ¬r.moment.InCalendar

instance (r : ClockReading) : Decidable r.Strays := inferInstanceAs (Decidable (_ ∨ _))

/-- What a clock shows lies in the calendar, whatever the moment. -/
theorem shown_inCalendar (r : ClockReading) : (Moment.ofClock r.day r.time).InCalendar := by
  have day := r.day.number_lt
  have time := r.time.micros_lt
  simp only [Moment.InCalendar, Moment.ofClock, microsPerDay, Moment.calendarDays] at day time ⊢
  omega

/-- A clock on universal time never strays. -/
theorem not_strays_of_ahead_eq_zero {r : ClockReading} (universal : r.ahead.getD 0 = 0) :
    ¬r.Strays := by
  have shown := r.shown_inCalendar
  rw [Strays, moment, universal]
  simpa using shown

/-- **A clock less than a day away strays on the first and the last day only.** -/
theorem Strays.first_or_last {r : ClockReading} (strays : r.Strays)
    (near : (r.ahead.getD 0).natAbs < 86400) :
    r.day.number = 0 ∨ r.day.number = Moment.calendarDays - 1 := by
  have day := r.day.number_lt
  have time := r.time.micros_lt
  have outside := strays.resolve_left (Nat.not_le.mpr near)
  simp only [moment, Moment.InCalendar, Moment.ofClock, microsPerDay, Moment.calendarDays]
    at day time outside ⊢
  omega

end ClockReading

/-- **A reading that does not stray names its moment.** -/
theorem Moment.ofReading_of_not_strays {r : ClockReading} (inside : ¬r.Strays) :
    ofReading r = .ok r.moment := by
  obtain ⟨near, in_calendar⟩ := not_or.mp inside
  rw [ClockReading.moment, InCalendar] at in_calendar
  cases ahead : r.ahead with
  | none => simp [ofReading, ClockReading.moment, ahead]
  | some a =>
    rw [ahead, Option.getD_some] at near in_calendar
    rw [ofReading, ahead]
    dsimp only
    rw [if_neg (by omega), if_pos (not_not.mp in_calendar), ClockReading.moment, ahead,
      Option.getD_some]

/-- **A reading that strays names none.** -/
theorem Moment.ofReading_of_strays {r : ClockReading} (strays : r.Strays) :
    ∃ f, ofReading r = .error f := by
  cases ahead : r.ahead with
  | none => exact absurd strays (ClockReading.not_strays_of_ahead_eq_zero (by rw [ahead]; rfl))
  | some a =>
    rw [ClockReading.Strays, ClockReading.moment, InCalendar, ahead, Option.getD_some] at strays
    rw [ofReading, ahead]
    dsimp only
    by_cases far : a ≤ -86400 ∨ 86400 ≤ a
    · exact ⟨_, if_pos far⟩
    · rw [if_neg far, if_neg (strays.resolve_left (by omega))]
      exact ⟨_, rfl⟩

/-! ### Texts with a sort value -/

section Texts

variable (dates : DateReader)

/-- **Texts with a sort value**: those that show nothing, and those that show a reading that does
not stray. -/
def Sorts (text : String) : Prop :=
  ∃ reading, clockReading? dates text = .ok reading ∧ ∀ r ∈ reading, ¬r.Strays

/-- Whether a text shows a reading that strays. -/
def ShowsStraying (text : String) : Prop :=
  ∃ r, clockReading? dates text = .ok (some r) ∧ r.Strays

variable {dates} {text : String}

/-- **Where nothing strays, a text has the moment of what it shows.** -/
theorem parseDate_of_shows {reading : Option ClockReading}
    (shows_it : clockReading? dates text = .ok reading) (inside : ∀ r ∈ reading, ¬r.Strays) :
    parseDate dates text = .ok (reading.map (·.moment)) := by
  rw [parseDate, shows_it]
  cases reading with
  | none => rfl
  | some r =>
    dsimp only
    rw [Moment.ofReading_of_not_strays (inside r rfl)]
    rfl

/-- **A text that shows a reading that strays has no date**: working it out fails. -/
theorem parseDate_of_strays {r : ClockReading} (shows_it : clockReading? dates text = .ok (some r))
    (strays : r.Strays) :
    ∃ f, parseDate dates text = .error (.moment f) ∧
      dateSortValue dates text = .error (.moment f) := by
  obtain ⟨f, fails⟩ := Moment.ofReading_of_strays strays
  have unparsed : parseDate dates text = .error (.moment f) := by
    rw [parseDate, shows_it]
    dsimp only
    rw [fails]
  exact ⟨f, unparsed, by rw [dateSortValue, unparsed]; rfl⟩

/-- A text has a sort value exactly when working it out succeeds. -/
theorem sorts_iff : Sorts dates text ↔ ∃ x, dateSortValue dates text = .ok x := by
  constructor
  · rintro ⟨reading, shows_it, inside⟩
    exact ⟨_, by rw [dateSortValue, parseDate_of_shows shows_it inside]; rfl⟩
  · rintro ⟨x, sorted⟩
    cases shown : clockReading? dates text with
    | error f =>
      rw [dateSortValue, parseDate, shown] at sorted
      cases sorted
    | ok reading =>
      refine ⟨reading, shown, fun r own strays => ?_⟩
      obtain ⟨f, -, fails⟩ := parseDate_of_strays (own ▸ shown) strays
      cases sorted.symm.trans fails

end Texts

/-! ### Readers that never break off -/

/-- **Readers that never break off**: a text that they do not read they reject. -/
structure OnlyRejects (dates : DateReader) : Prop where
  numeric : ∀ text f, dates.numeric text = .error f → f = .rejected
  written : ∀ text f, dates.written text = .error f → f = .rejected

/-- With such a reader every text shows something or nothing. -/
theorem OnlyRejects.exists_shown {dates : DateReader} (rejects : OnlyRejects dates)
    (text : String) :
    ∃ reading, clockReading? dates text = .ok reading := by
  rw [clockReading?]
  split
  · exact ⟨none, rfl⟩
  cases numeric : dates.numeric text with
  | ok reading => exact ⟨some reading, rfl⟩
  | error f =>
    obtain rfl := rejects.numeric text f numeric
    cases written : dates.written text with
    | ok reading => exact ⟨some reading, rfl⟩
    | error f =>
      obtain rfl := rejects.written text f written
      exact ⟨none, rfl⟩

/-- **With such a reader only what strays has no sort value.** -/
theorem OnlyRejects.sorts_iff_not_showsStraying {dates : DateReader} (rejects : OnlyRejects dates)
    {text : String} : Sorts dates text ↔ ¬ShowsStraying dates text := by
  constructor
  · rintro ⟨reading, shown, inside⟩ ⟨r, shown', strays⟩
    obtain rfl := Except.ok.inj (shown.symm.trans shown')
    exact inside r rfl strays
  · intro stays
    obtain ⟨reading, shown⟩ := rejects.exists_shown text
    exact ⟨reading, shown, fun r own strays => stays ⟨r, own ▸ shown, strays⟩⟩

end TradeJournal.Calendar
