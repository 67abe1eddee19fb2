import TradeJournal.Calendar.Standard
import TradeJournal.Proofs.Calendar.Instant
import TradeJournal.Proofs.Number.Digits

/-!
# Spellings of an instant

A numeric date gives a day and a time, and, if it wants to, how far its clock is from universal
time: by a letter, or in hours and minutes. One instant has as many spellings as there are clocks. A
reader of dates that reads every one of them as it was written (`ReadsSpellings`) brings a date to
universal time whatever clock it was taken from, and dates sort by their instants and not by their
spellings (`Spelling.sort_by_instant`). The standard reader is such a one
(`Spelling.readsSpellings_standardDates`).
-/

namespace TradeJournal.Calendar

open Number (lastDigits int? int?_lastDigits length_lastDigits isDecimal_of_mem_lastDigits)

/-! ### Distances -/

/-- **How a date says what its clock is**: not at all, as one on universal time, or as so many hours
and minutes ahead of it or behind it, with or without a colon. -/
inductive Zone
  | silent
  | universal
  | apart (behind colon : Bool) (hours minutes : Nat) (in_range : hours < 24 ∧ minutes < 60)
  deriving DecidableEq, Repr

namespace Zone

/-- The text of a distance. -/
def text : Zone → List Char
  | silent => []
  | universal => ['Z']
  | apart behind colon hours minutes _ =>
    (if behind then '-' else '+') :: lastDigits 2 hours ++ (if colon then [':'] else []) ++
      lastDigits 2 minutes

/-- The seconds that the clock is ahead of universal time, if the date says so. -/
def ahead : Zone → Option Int
  | silent => none
  | universal => some 0
  | apart behind _ hours minutes _ =>
    some ((if behind then -1 else 1) * (hours * 60 + minutes) * 60)

/-- A clock is less than a day away. -/
theorem ahead_near (zone : Zone) : (zone.ahead.getD 0).natAbs < 86400 := by
  rcases zone with _ | _ | ⟨_ | _, colon, hours, minutes, hours_lt, minutes_lt⟩
  all_goals
    simp only [ahead, Option.getD_none, Option.getD_some, if_true, Bool.false_eq_true, if_false]
    omega

end Zone

/-! ### Spellings -/

/-- **A numeric date to the second.** -/
structure Spelling where
  day : Day
  time : ClockTime
  zone : Zone
  on_second : time.micro = 0
  deriving DecidableEq, Repr

namespace Spelling

/-- The characters of a date. -/
def chars (s : Spelling) : List Char := s.day.text ++ 'T' :: s.time.text ++ s.zone.text

/-- **The text of a date.** -/
def text (s : Spelling) : String := String.ofList s.chars

/-- What the clock shows. -/
def reading (s : Spelling) : ClockReading := ⟨s.day, s.time, s.zone.ahead⟩

/-- **The instant of a date.** -/
def instant (s : Spelling) : Moment := s.reading.moment

end Spelling

/-! ### Reading -/

namespace Iso

theorem lastDigits_two (n : Nat) :
    lastDigits 2 n = [Number.digitChar (n / 10), Number.digitChar n] := rfl

/-- **A field of digits is read as its number.** -/
theorem wide?_lastDigits {width n : Nat} (positive : 0 < width) (narrow : width ≤ Number.maxDigits)
    (fits : n < 10 ^ width) (rest : List Char) :
    wide? width (lastDigits width n ++ rest) = some ((n : Int), rest) := by
  have length := length_lastDigits width n
  rw [wide?, if_neg (by rw [List.length_append, length]; omega), List.take_left' length,
    List.drop_left' length, int?_lastDigits positive narrow fits]
  rfl

/-- **A day is read field by field.** -/
theorem byMonth?_text (d : Day) (rest : List Char) :
    byMonth? (d.text ++ rest) = some (⟨d.year, d.month, d.day⟩, rest) := by
  have year_fits : d.year < 10 ^ 4 := Nat.lt_of_le_of_lt d.year_mem.2 (by decide)
  have month_fits : d.month < 10 ^ 2 := Nat.lt_of_le_of_lt d.month_mem.2 (by decide)
  have day_fits : d.day < 10 ^ 2 := by
    have in_month := d.day_mem.2
    rw [daysInMonth] at in_month
    split at in_month <;> split at in_month <;> omega
  rw [byMonth?, Day.text, List.append_assoc, List.append_assoc,
    wide?_lastDigits (by decide) (by decide) year_fits]
  simp only [Option.bind_eq_bind, Option.bind_some, List.cons_append]
  rw [wide?_lastDigits (by decide) (by decide) month_fits]
  simp only [Option.bind_some]
  rw [wide?_lastDigits (by decide) (by decide) day_fits]
  rfl

/-- **A distance is read field by field.** -/
theorem zone?_text {zone : Zone} (spoken : zone ≠ .silent) : zone? zone.text = zone.ahead := by
  rcases zone with _ | _ | ⟨behind, colon, hours, minutes, hours_lt, minutes_lt⟩
  · exact absurd rfl spoken
  · rfl
  have hours_read : int? (lastDigits 2 hours) = some (hours : Int) :=
    int?_lastDigits (by decide) (by decide) (by omega)
  have minutes_read : int? (lastDigits 2 minutes) = some (minutes : Int) :=
    int?_lastDigits (by decide) (by decide) (by omega)
  have not_colon : Number.digitChar (minutes / 10) ≠ ':' :=
    (Number.isDecimal_digitChar _).ne_of_not_mem (by decide)
  rw [lastDigits_two] at hours_read minutes_read
  have in_range : ¬(59 < minutes ∨ 23 < hours) := by omega
  cases behind <;> cases colon
  all_goals
    simp [Zone.text, Zone.ahead, zone?, lastDigits_two, hours_read, minutes_read, not_colon,
      in_range]
    rintro rfl rfl
    rfl

/-! ### Times -/

section

variable {left n : Nat} (fits : n < 10 ^ 2) (t : TimeFields) (rest : List Char)
include fits

theorem int?_two : int? (lastDigits 2 n) = some (n : Int) :=
  int?_lastDigits (by decide) (by decide) fits

/-- **The hour comes first.** -/
theorem timeFrom_hour : timeFrom (left + 1) 0 false t (lastDigits 2 n ++ rest) =
    timeFrom left 1 false { t with hour := n } rest := by
  have read := int?_two fits
  have digit := Number.isDecimal_digitChar (n / 10)
  have no_sign : ¬(Number.digitChar (n / 10) = '-' ∨ Number.digitChar (n / 10) = '+' ∨
      Number.digitChar (n / 10) = 'Z' ∨ Number.digitChar (n / 10) = 'z') := by
    rintro (minus | plus | capital | small)
    · exact digit.ne_of_not_mem (by decide) minus
    · exact digit.ne_of_not_mem (by decide) plus
    · exact digit.ne_of_not_mem (by decide) capital
    · exact digit.ne_of_not_mem (by decide) small
  rw [lastDigits_two] at read ⊢
  simp [timeFrom, no_sign, read]

/-- **The minute and the second come after a colon each.** -/
theorem timeFrom_minute : timeFrom (left + 1) 1 false t (':' :: lastDigits 2 n ++ rest) =
    timeFrom left 2 true { t with minute := n } rest := by
  have read := int?_two fits
  rw [lastDigits_two] at read ⊢
  simp [timeFrom, read]

theorem timeFrom_second : timeFrom (left + 1) 2 true t (':' :: lastDigits 2 n ++ rest) =
    timeFrom left 3 true { t with second := n } rest := by
  have read := int?_two fits
  rw [lastDigits_two] at read ⊢
  simp [timeFrom, read]

end

/-- **The distance comes last.** -/
theorem timeFrom_zone (left : Nat) {t : TimeFields} (unspoken : t.ahead = none) (zone : Zone) :
    timeFrom (left + 1) 3 true t zone.text = some { t with ahead := zone.ahead } := by
  have read := @zone?_text zone
  rcases zone with _ | _ | ⟨behind, colon, hours, minutes, in_range⟩
  · obtain ⟨hour, minute, second, micro, ahead⟩ := t
    obtain rfl := unspoken
    rfl
  · rfl
  · have found := read (by simp)
    simp only [Zone.text, List.cons_append] at found ⊢
    rw [timeFrom, found, if_pos (by cases behind <;> simp)]
    rfl

/-- **A time is read field by field**, up to the distance. -/
theorem time?_text {t : ClockTime} (on_second : t.micro = 0) (zone : Zone) :
    time? (t.text ++ zone.text) = some ⟨t.hour, t.minute, t.second, t.micro, zone.ahead⟩ := by
  obtain ⟨hour_lt, minute_lt, second_lt, -⟩ := t.in_range
  have spelt : t.text ++ zone.text = lastDigits 2 t.hour ++ (':' :: lastDigits 2 t.minute ++
      (':' :: lastDigits 2 t.second ++ zone.text)) := by
    rw [ClockTime.text, if_pos on_second]
    simp
  -- Without the distance the text is long enough already, so an empty one does no harm.
  have long : ¬(t.text ++ zone.text).length < 2 := by
    rw [spelt, List.length_append, length_lastDigits]
    omega
  rw [time?, if_neg long, spelt, timeFrom_hour (by omega),
    timeFrom_minute (by omega), timeFrom_second (by omega), timeFrom_zone _ rfl, on_second]
  rfl

/-! ### Readings -/

/-- The fields of a day and a time make up what the clock shows. -/
theorem reading?_fields (d : Day) (t : ClockTime) (ahead : Option Int) :
    reading? ⟨d.year, d.month, d.day⟩ ⟨t.hour, t.minute, t.second, t.micro, ahead⟩ =
      some ⟨d, t, ahead⟩ := by
  have hour_lt := t.in_range.1
  have time : ClockTime.ofFields? t.hour t.minute t.second t.micro = some t := by
    simp [ClockTime.ofFields?, t.in_range]
  rw [reading?, Day.ofFields_fields]
  simp only [Except.toOption, Option.bind_eq_bind, Option.bind_some]
  rw [if_neg (by omega), time]
  rfl

end Iso

/-- **Whether a reader of dates reads spellings field by field**: the clock of each shows what is
written. -/
def ReadsSpellings (dates : DateReader) : Prop :=
  ∀ s : Spelling, dates.numeric s.text = .ok s.reading

namespace Spelling

/-- A numeric date is written without letters other than those of the plain alphabet. -/
theorem toNat_lt_of_mem_chars (s : Spelling) : ∀ c ∈ s.chars, c.toNat < 128 := by
  have digits (width n : Nat) : ∀ c ∈ lastDigits width n, c.toNat < 128 :=
    fun c member => (isDecimal_of_mem_lastDigits c member).toNat_lt
  have zone : ∀ c ∈ s.zone.text, c.toNat < 128 := by
    rcases s.zone with _ | _ | ⟨behind, colon, hours, minutes, in_range⟩
    · simp [Zone.text]
    · simp [Zone.text]
    · cases behind <;> cases colon <;>
        simpa [Zone.text, or_imp, forall_and] using ⟨digits 2 hours, digits 2 minutes⟩
  have date : ∀ c ∈ s.day.text, c.toNat < 128 := by
    rw [Day.text]
    simp only [List.forall_mem_append, List.forall_mem_cons]
    exact ⟨⟨digits _ _, by decide, digits _ _⟩, by decide, digits _ _⟩
  have clock : ∀ c ∈ s.time.text, c.toNat < 128 := by
    rw [ClockTime.text, if_pos s.on_second, List.append_nil]
    simp only [List.forall_mem_append, List.forall_mem_cons]
    exact ⟨⟨digits _ _, by decide, digits _ _⟩, by decide, digits _ _⟩
  rw [chars]
  simp only [List.forall_mem_append, List.forall_mem_cons]
  exact ⟨⟨date, by decide, clock⟩, zone⟩

/-- **Every spelling is read as it was written.** -/
theorem read?_text (s : Spelling) : Iso.read? s.text.toList = some s.reading := by
  have date : (Iso.byMonth? s.chars).or (Iso.byWeekOrNumber? s.chars) =
      some (⟨s.day.year, s.day.month, s.day.day⟩, 'T' :: (s.time.text ++ s.zone.text)) := by
    rw [chars, List.append_assoc, Iso.byMonth?_text]
    rfl
  have plain : ¬s.chars.any (128 ≤ ·.toNat) = true := by
    simpa using s.toNat_lt_of_mem_chars
  rw [text, String.toList_ofList, Iso.read?, if_neg plain, date]
  simp only [Option.bind_eq_bind, Option.bind_some]
  rw [Iso.time?_text s.on_second, Option.bind_some, Iso.reading?_fields]
  rfl

/-- **The standard reader reads spellings field by field.** -/
theorem readsSpellings_standardDates : ReadsSpellings standardDates := by
  intro s
  rw [standardDates]
  dsimp only
  rw [read?_text]

/-- A spelling is not empty. -/
theorem text_ne_empty (s : Spelling) : s.text ≠ "" := by
  intro empty
  have no_chars : s.chars = [] := String.ofList_injective empty
  rw [chars] at no_chars
  simp at no_chars

/-! ### Sorting -/

/-- A clock on the second shows instants on the second. -/
theorem instant_onSecond (s : Spelling) : s.instant.OnSecond := by
  obtain ⟨day, time, zone, on_second⟩ := s
  refine ⟨day.number * 86400 + ((time.hour * 60 + time.minute) * 60 + time.second) -
    zone.ahead.getD 0, ?_⟩
  simp only [instant, reading, ClockReading.moment, Moment.ofClock, ClockTime.micros, microsPerDay,
    on_second]
  omega

variable {dates : DateReader}

/-- **The date of a spelling is its instant**, as long as that is in the calendar. -/
theorem parseDate_text (reads : ReadsSpellings dates) {s : Spelling}
    (inside : s.instant.InCalendar) :
    parseDate dates s.text = .ok (some s.instant) := by
  have shows_it : clockReading? dates s.text = .ok (some s.reading) := by
    rw [clockReading?, if_neg s.text_ne_empty, reads s]
  have stays : ¬s.reading.Strays :=
    not_or.mpr ⟨Nat.not_le.mpr s.zone.ahead_near, not_not.mpr inside⟩
  exact parseDate_of_shows shows_it (by simpa using stays)

/-- **Dates sort by their instants**, if spellings are read as they are written. The date of every
spelling is then its instant, on the day and at the time that a clock on universal time shows, as
long as that is in the calendar. Sort values of two such spellings are equal where they spell one
instant, and are ordered as their instants are, which is the order of the calendar. -/
theorem sort_by_instant (dates : DateReader) (reads : ReadsSpellings dates) (s : Spelling)
    (inside : s.instant.InCalendar) :
    parseDate dates s.text = .ok (some s.instant) ∧
    ∃ d, s.instant.day? = some d ∧
      (∀ e t, Moment.ofClock e t = s.instant ↔ e = d ∧ t = s.instant.time) ∧
      ∀ s' : Spelling, s'.instant.InCalendar → ∃ x y d',
        dateSortValue dates s.text = .ok x ∧ dateSortValue dates s'.text = .ok y ∧
        s'.instant.day? = some d' ∧
        (s.instant = s'.instant → x = y) ∧
        (x.same y = true ↔ s.instant = s'.instant) ∧
        (x.lt y = true ↔ s.instant.micros < s'.instant.micros) ∧
        (x.lt y = true ↔
          d.Before d' ∨ d = d' ∧ s.instant.time.micros < s'.instant.time.micros) := by
  obtain ⟨d, on_day, shown⟩ := Moment.ofClock_day?_time inside
  refine ⟨parseDate_text reads inside, d, on_day, fun e t => ?_, fun s' inside' => ?_⟩
  · nth_rewrite 1 [← shown]
    exact Moment.ofClock_inj
  obtain ⟨d', on_day', shown'⟩ := Moment.ofClock_day?_time inside'
  have sorts {s : Spelling} (inside : s.instant.InCalendar) :
      dateSortValue dates s.text = .ok s.instant.seconds := by
    rw [dateSortValue, parseDate_text reads inside]
    rfl
  have ordered := Moment.seconds_lt_iff inside s.instant_onSecond inside' s'.instant_onSecond
  refine ⟨_, _, d', sorts inside, sorts inside', on_day', congrArg Moment.seconds,
    Moment.seconds_same_iff inside s.instant_onSecond inside' s'.instant_onSecond, ordered, ?_⟩
  rw [ordered, ← Moment.ofClock_lt_iff, shown, shown']

/-- The last evening of a February, on a clock behind universal time. -/
def leapEvening : Spelling :=
  ⟨⟨2024, 2, 29, by decide, by decide, by decide⟩, ⟨23, 30, 0, 0, by decide⟩,
    .apart true true 1 45 (by decide), rfl⟩

/-- The same instant, on a clock that is ahead and shows the first morning of March. -/
def marchMorning : Spelling :=
  ⟨⟨2024, 3, 1, by decide, by decide, by decide⟩, ⟨6, 45, 0, 0, by decide⟩,
    .apart false false 5 30 (by decide), rfl⟩

/-- The standard reader reads both, and they have one sort value. -/
theorem sort_by_instant_leap_day :
    ReadsSpellings standardDates ∧
    leapEvening.text = "2024-02-29T23:30:00-01:45" ∧
    marchMorning.text = "2024-03-01T06:45:00+0530" ∧
    leapEvening.instant.InCalendar ∧ marchMorning.instant.InCalendar ∧
    ∃ x, dateSortValue standardDates "2024-02-29T23:30:00-01:45" = .ok x ∧
      dateSortValue standardDates "2024-03-01T06:45:00+0530" = .ok x := by
  have evening : leapEvening.text = "2024-02-29T23:30:00-01:45" := by decide +kernel
  have morning : marchMorning.text = "2024-03-01T06:45:00+0530" := by decide +kernel
  have evening_inside : leapEvening.instant.InCalendar := by decide +kernel
  have morning_inside : marchMorning.instant.InCalendar := by decide +kernel
  have same : leapEvening.instant = marchMorning.instant := by decide +kernel
  obtain ⟨-, d, -, -, sorted⟩ :=
    sort_by_instant standardDates readsSpellings_standardDates leapEvening evening_inside
  obtain ⟨x, y, -, first, second, -, equal, -⟩ := sorted marchMorning morning_inside
  obtain rfl := equal same
  rw [evening] at first
  rw [morning] at second
  exact ⟨readsSpellings_standardDates, evening, morning, evening_inside, morning_inside, x, first,
    second⟩

end Spelling

end TradeJournal.Calendar
