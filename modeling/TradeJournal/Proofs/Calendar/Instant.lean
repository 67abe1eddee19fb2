import TradeJournal.Proofs.Calendar.Numbering
import TradeJournal.Proofs.Number.Exact

/-!
# Moments and their sort values

A moment of the calendar is what a clock on universal time shows on one day at one time, which
`Moment.day?` and `Moment.time` find (`Moment.ofClock_day?_time`). Its sort value counts the seconds
since 1970. In all the calendar there are fewer than `2 ^ 53` seconds, so whole seconds are not
rounded, and sort values compare as the moments do (`Moment.seconds_lt_iff`,
`Moment.seconds_same_iff`).
-/

namespace TradeJournal.Calendar.Moment

/-! ### What a clock on universal time shows -/

/-- The fields of the time at a moment add up to what has passed of the day. -/
theorem micros_time (m : Moment) : m.time.micros = m.sinceMidnight := by
  rw [ClockTime.micros, time]
  dsimp only
  omega

/-- **Every moment of the calendar is shown by a clock on universal time**, on its day and at its
time. -/
theorem ofClock_day?_time {m : Moment} (inside : m.InCalendar) :
    ∃ d, m.day? = some d ∧ ofClock d m.time = m := by
  obtain ⟨micros⟩ := m
  obtain ⟨from_start, before_end⟩ := inside
  obtain ⟨n, rfl⟩ := Int.eq_ofNat_of_zero_le from_start
  have in_calendar : n / microsPerDay < calendarDays := by
    dsimp only at before_end
    exact Nat.div_lt_of_lt_mul (by rw [Nat.mul_comm]; exact_mod_cast before_end)
  obtain ⟨d, found, counted⟩ := Day.exists_ofNumber? in_calendar
  refine ⟨d, by rw [day?]; exact_mod_cast found, ?_⟩
  rw [ofClock, counted, micros_time, sinceMidnight]
  have parts := Nat.div_add_mod' n microsPerDay
  have remainder : ((n : Int) % microsPerDay).toNat = n % microsPerDay := by
    rw [← Int.natCast_emod, Int.toNat_natCast]
  rw [remainder, parts]

/-- **The order of moments is that of the calendar**, and of the time on one day. -/
theorem ofClock_lt_iff {d e : Day} {t u : ClockTime} : (ofClock d t).micros < (ofClock e u).micros ↔
    d.Before e ∨ d = e ∧ t.micros < u.micros := by
  have first := t.micros_lt
  have second := u.micros_lt
  rw [ofClock, ofClock, Nat.cast_lt, ← Day.number_lt_iff]
  constructor
  · intro less
    by_cases same : d.number = e.number
    · rw [same] at less
      exact Or.inr ⟨Day.eq_of_number_eq same, by omega⟩
    · refine Or.inl ?_
      rw [microsPerDay] at less first second
      omega
  · rintro (before | ⟨rfl, earlier⟩)
    · rw [microsPerDay] at first second ⊢
      omega
    · omega

/-- **A moment is shown at one time of one day.** -/
theorem ofClock_inj {d e : Day} {t u : ClockTime} : ofClock d t = ofClock e u ↔ d = e ∧ t = u := by
  constructor
  · intro equal
    have first := t.micros_lt
    have second := u.micros_lt
    rw [ofClock, ofClock, mk.injEq, Nat.cast_inj] at equal
    have days : d.number = e.number := by
      rw [microsPerDay] at equal first second
      omega
    have times : t.micros = u.micros := by
      rw [days] at equal
      omega
    refine ⟨Day.eq_of_number_eq days, ?_⟩
    obtain ⟨hour, minute, second, micro, in_range⟩ := t
    obtain ⟨hour', minute', second', micro', in_range'⟩ := u
    rw [ClockTime.micros, ClockTime.micros] at times
    simp only [ClockTime.mk.injEq]
    dsimp only at times
    omega
  · rintro ⟨rfl, rfl⟩
    rfl

/-! ### Sort values -/

/-- Whether a moment is on a whole second. -/
def OnSecond (m : Moment) : Prop := ∃ s : Int, m.micros = s * 1_000_000

section

variable {m n : Moment} (m_inside : m.InCalendar) (m_whole : m.OnSecond)
include m_inside m_whole

/-- **Whole seconds are not rounded.** -/
theorem place?_seconds : ∃ s : Int, m.micros = s * 1_000_000 ∧
    m.seconds.place? = some (Double.placeOfInt (s - 719162 * 86400)) := by
  obtain ⟨s, whole⟩ := m_whole
  refine ⟨s, whole, ?_⟩
  rw [InCalendar, microsPerDay, calendarDays] at m_inside
  obtain ⟨since, is_since⟩ : ∃ since : Int, since = s - 719162 * 86400 := ⟨_, rfl⟩
  have counted : m.micros - epoch.micros = since * 1_000_000 := by
    rw [epoch, microsPerDay]
    dsimp only
    omega
  -- All of the calendar is less than `2 ^ 53` seconds away from 1970.
  have near : since.natAbs < Number.twoTo 53 := by
    change since.natAbs < 2 ^ 53
    omega
  have sign : Double.signed (decide (since * 1_000_000 < 0)) since.natAbs = since := by
    rw [Double.signed]
    simp only [decide_eq_true_eq]
    split <;> omega
  have placed := @Double.place?_ofRatio_mul since.natAbs 1_000_000 (by decide)
    (since * 1_000_000 < 0) near
  rw [sign] at placed
  rw [seconds, counted, Int.natAbs_mul, ← is_since]
  exact placed

variable (n_inside : n.InCalendar) (n_whole : n.OnSecond)
include n_inside n_whole

/-- **Sort values are ordered as their moments are.** -/
theorem seconds_lt_iff : m.seconds.lt n.seconds = true ↔ m.micros < n.micros := by
  obtain ⟨s, m_micros, m_place⟩ := place?_seconds m_inside m_whole
  obtain ⟨s', n_micros, n_place⟩ := place?_seconds n_inside n_whole
  rw [Double.lt_iff, m_place, n_place]
  simp [Double.placeOfInt]
  omega

/-- **Sort values are equal where the moments are the same.** -/
theorem seconds_same_iff : m.seconds.same n.seconds = true ↔ m = n := by
  obtain ⟨s, m_micros, m_place⟩ := place?_seconds m_inside m_whole
  obtain ⟨s', n_micros, n_place⟩ := place?_seconds n_inside n_whole
  have by_micros : m = n ↔ m.micros = n.micros := by
    cases m
    cases n
    rw [mk.injEq]
  rw [Double.same_iff, m_place, n_place, by_micros, m_micros, n_micros]
  simp [Double.placeOfInt_inj]
  omega

end

end TradeJournal.Calendar.Moment
