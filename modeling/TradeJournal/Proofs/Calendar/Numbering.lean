import TradeJournal.Proofs.Calendar.Range

/-!
# The numbering of days

Days are numbered through the calendar, month by month and year by year. Numbers are in the order of
the calendar (`Day.number_lt_iff`), so no two days have the same one; and every number below the
number of days is that of a day, which `Day.ofNumber?` finds (`Day.exists_ofNumber?`).
-/

namespace TradeJournal.Calendar

/-! ### Years -/

/-- The number of days in a year. -/
def daysInYear (year : Nat) : Nat := 365 + if isLeap year then 1 else 0

theorem isLeap_iff {year : Nat} : isLeap year = true ↔ 4 ∣ year ∧ (¬100 ∣ year ∨ 400 ∣ year) := by
  simp [isLeap, Nat.dvd_iff_mod_eq_zero]

theorem daysBeforeYear_succ {year : Nat} (first : 1 ≤ year) :
    daysBeforeYear (year + 1) = daysBeforeYear year + daysInYear year := by
  obtain ⟨n, rfl⟩ := Nat.exists_eq_add_of_le' first
  have century : n / 100 ≤ n := Nat.div_le_self n 100
  have four : 100 ∣ n + 1 → 4 ∣ n + 1 := (by decide : 4 ∣ 100).trans
  have hundred : 400 ∣ n + 1 → 100 ∣ n + 1 := (by decide : 100 ∣ 400).trans
  rw [daysBeforeYear, daysBeforeYear, daysInYear]
  simp only [isLeap_iff, Nat.add_sub_cancel, Nat.succ_div]
  by_cases by_four : 4 ∣ n + 1 <;> by_cases by_hundred : 100 ∣ n + 1 <;>
    by_cases by_four_hundred : 400 ∣ n + 1 <;>
    simp_all <;> omega

theorem daysBeforeYear_le {year later : Nat} (first : 1 ≤ year) (le : year ≤ later) :
    daysBeforeYear year ≤ daysBeforeYear later := by
  induction later, le using Nat.le_induction with
  | base => exact le_rfl
  | succ later le ih =>
    rw [daysBeforeYear_succ (Nat.le_trans first le)]
    omega

/-- In four hundred years there are `146097` days, and a year is never far from its share of
them. -/
theorem daysBeforeYear_near (year : Nat) :
    146097 * year ≤ 400 * daysBeforeYear (year + 1) + 699 ∧
      400 * daysBeforeYear (year + 1) ≤ 146097 * year + 396 := by
  rw [daysBeforeYear, Nat.add_sub_cancel]
  omega

/-- **A day's number lies in its year.** -/
theorem yearOfNumber_spec (n : Nat) :
    let year := Day.yearOfNumber n
    1 ≤ year ∧ daysBeforeYear year ≤ n ∧ n < daysBeforeYear (year + 1) := by
  intro year
  obtain ⟨share, is_share⟩ : ∃ share, share = n * 400 / 146097 := ⟨_, rfl⟩
  have lower : 146097 * share ≤ 400 * n := by omega
  have upper : 400 * n < 146097 * (share + 1) := by omega
  have is_year : year = if n < daysBeforeYear (share + 1) then share
      else if daysBeforeYear (share + 1 + 1) ≤ n then share + 1 + 1 else share + 1 := by
    rw [is_share]
    rfl
  rw [is_year]
  split
  · next before =>
    -- The share is not zero, since no day is before the first year.
    obtain ⟨earlier, rfl⟩ : ∃ earlier, share = earlier + 1 := by
      refine Nat.exists_eq_succ_of_ne_zero ?_
      rintro rfl
      exact absurd before (Nat.not_lt_zero n)
    have near := daysBeforeYear_near earlier
    exact ⟨by omega, by omega, before⟩
  · next from_guess =>
    split
    · next after =>
      have near := daysBeforeYear_near (share + 1 + 1)
      exact ⟨by omega, after, by omega⟩
    · next until_next => exact ⟨by omega, by omega, by omega⟩

/-! ### Months -/

theorem daysBeforeMonth_succ (year : Nat) {month : Nat} (first : 1 ≤ month) :
    daysBeforeMonth year (month + 1) = daysBeforeMonth year month + daysInMonth year month := by
  cases month with
  | zero => omega
  | succ month => rfl

theorem daysBeforeMonth_le (year : Nat) {month later : Nat} (first : 1 ≤ month)
    (le : month ≤ later) :
    daysBeforeMonth year month ≤ daysBeforeMonth year later := by
  induction later, le using Nat.le_induction with
  | base => exact le_rfl
  | succ later le ih =>
    rw [daysBeforeMonth_succ year (Nat.le_trans first le)]
    omega

theorem daysBeforeMonth_thirteen (year : Nat) : daysBeforeMonth year 13 = daysInYear year := by
  rw [daysInYear]
  cases leap : isLeap year <;> simp [daysBeforeMonth, daysInMonth, leap]

/-- **A day of the year lies in its month**, if there are months left in which it can. -/
theorem monthOfRest_spec (year : Nat) {fuel month rest : Nat} (first : 1 ≤ month)
    (inside : daysBeforeMonth year month + rest < daysBeforeMonth year (month + fuel + 1)) :
    let found := Day.monthOfRest year fuel month rest
    month ≤ found.1 ∧ found.1 ≤ month + fuel ∧ found.2 < daysInMonth year found.1 ∧
      daysBeforeMonth year found.1 + found.2 = daysBeforeMonth year month + rest := by
  induction fuel generalizing month rest with
  | zero =>
    rw [Nat.add_zero, daysBeforeMonth_succ year first] at inside
    refine ⟨le_rfl, le_rfl, ?_, rfl⟩
    change rest < daysInMonth year month
    omega
  | succ fuel ih =>
    intro found
    by_cases here : rest < daysInMonth year month
    · have stays : found = (month, rest) := by simp only [found, Day.monthOfRest, if_pos here]
      rw [stays]
      exact ⟨le_rfl, Nat.le_add_right _ _, here, rfl⟩
    · have goes_on : found =
          Day.monthOfRest year fuel (month + 1) (rest - daysInMonth year month) := by
        simp only [found, Day.monthOfRest, if_neg here]
      have next := daysBeforeMonth_succ year first
      have last : month + (fuel + 1) + 1 = month + 1 + fuel + 1 := by omega
      have still_inside : daysBeforeMonth year (month + 1) + (rest - daysInMonth year month) <
          daysBeforeMonth year (month + 1 + fuel + 1) := by
        rw [← last]
        omega
      obtain ⟨after, before, within, counted⟩ := ih (Nat.le_add_left 1 month) still_inside
      rw [goes_on]
      refine ⟨by omega, by omega, within, by omega⟩

/-! ### Days -/

namespace Day

/-- **Whether a day comes before another** in the calendar: by year, by month of the year and by day
of the month. -/
def Before (d e : Day) : Prop :=
  d.year < e.year ∨ d.year = e.year ∧ (d.month < e.month ∨ d.month = e.month ∧ d.day < e.day)

/-- Two days that do not come before each other are the same. -/
theorem eq_of_not_before {d e : Day} (not_before : ¬d.Before e) (not_after : ¬e.Before d) :
    d = e := by
  obtain ⟨year, month, day, _, _, _⟩ := d
  obtain ⟨year', month', day', _, _, _⟩ := e
  simp only [Before] at not_before not_after
  simp only [Day.mk.injEq]
  omega

/-- A later day has a higher number. -/
theorem Before.number_lt {d e : Day} (before : d.Before e) : d.number < e.number := by
  have in_month := d.day_mem
  have first := e.day_mem.1
  rw [number, number]
  rcases before with years | ⟨year, months | ⟨month, days⟩⟩
  · have in_year := daysBeforeMonth_add_le d.year d.month_mem
    have whole_year := daysBeforeYear_succ d.year_mem.1
    have next := daysBeforeYear_le (Nat.le_add_left 1 d.year) years
    rw [daysInYear] at whole_year
    omega
  · have next := daysBeforeMonth_le d.year (Nat.le_add_left 1 d.month) months
    rw [daysBeforeMonth_succ d.year d.month_mem.1] at next
    rw [← year]
    omega
  · rw [← year, ← month]
    omega

/-- **Days are numbered in the order of the calendar.** -/
theorem number_lt_iff {d e : Day} : d.number < e.number ↔ d.Before e := by
  refine ⟨fun less => ?_, Before.number_lt⟩
  by_contra not_before
  have not_after : ¬e.Before d := fun after => Nat.lt_asymm less after.number_lt
  obtain rfl := eq_of_not_before not_before not_after
  exact Nat.lt_irrefl _ less

/-- **No two days have one number.** -/
theorem eq_of_number_eq {d e : Day} (equal : d.number = e.number) : d = e :=
  eq_of_not_before (mt number_lt_iff.mpr (Nat.not_lt.mpr (Nat.le_of_eq equal.symm)))
    (mt number_lt_iff.mpr (Nat.not_lt.mpr (Nat.le_of_eq equal)))

/-- A day is the one with its year, month and day of the month. -/
theorem ofFields_fields (d : Day) : ofFields d.year d.month d.day = .ok d := by
  simp [ofFields, d.year_mem, d.month_mem, d.day_mem]

/-- **Every number below the number of days is that of a day.** -/
theorem exists_ofNumber? {n : Nat} (inside : n < Moment.calendarDays) :
    ∃ d, ofNumber? n = some d ∧ d.number = n := by
  obtain ⟨first, from_year, in_year⟩ := yearOfNumber_spec n
  have last : yearOfNumber n ≤ maxYear := by
    by_contra beyond
    have after := daysBeforeYear_le (by decide) (Nat.not_le.mp beyond)
    rw [show daysBeforeYear (maxYear + 1) = Moment.calendarDays by decide] at after
    omega
  have within : daysBeforeMonth (yearOfNumber n) 1 + (n - daysBeforeYear (yearOfNumber n)) <
      daysBeforeMonth (yearOfNumber n) (1 + 11 + 1) := by
    rw [daysBeforeMonth_thirteen]
    rw [daysBeforeYear_succ first] at in_year
    change 0 + _ < _
    omega
  obtain ⟨from_month, to_month, in_month, counted⟩ :=
    monthOfRest_spec (yearOfNumber n) (le_refl 1) within
  generalize found : monthOfRest (yearOfNumber n) 11 1 (n - daysBeforeYear (yearOfNumber n)) =
    place at *
  obtain ⟨month, rest⟩ := place
  let d : Day := ⟨yearOfNumber n, month, rest + 1, ⟨first, last⟩, ⟨from_month, to_month⟩,
    ⟨Nat.le_add_left 1 rest, in_month⟩⟩
  refine ⟨d, ?_, ?_⟩
  · rw [ofNumber?, if_neg (by omega), Int.toNat_natCast]
    dsimp only
    rw [found]
    exact congrArg Except.toOption (ofFields_fields d)
  · rw [number]
    dsimp only [d] at counted ⊢
    rw [daysBeforeMonth] at counted
    omega

end Day

end TradeJournal.Calendar
