import Mathlib.Tactic.Linarith

/-!
# The Gregorian calendar

The calendar is a walk: `nextSecond` carries from seconds to years by the lengths of the
months. The number of a second counts from midnight of 1 January 1970, a Thursday, and goes on
by one along the walk. Entries that are valid are determined by their number, so a calculation
of an entry is checked by its number and its validity.
-/

namespace Fvs318g.Lib.Calendar

variable (year : Int)

/-- The leap years. -/
def IsLeap : Prop := year % 4 = 0 ∧ (year % 100 ≠ 0 ∨ year % 400 = 0)

instance (year : Int) : Decidable (IsLeap year) := inferInstanceAs (Decidable (_ ∧ _))

/-- Days of a year. -/
def yearLength : Nat := if IsLeap year then 366 else 365

/-- A year has at most 366 days. -/
theorem yearLength_le : yearLength year ≤ 366 := by
  unfold yearLength
  split <;> omega

/-- Days of a month; January is month 0. -/
def monthLength : Nat → Nat
  | 1 => if IsLeap year then 29 else 28
  | 3 | 5 | 8 | 10 => 30
  | _ => 31

/-- An entry of the calendar. -/
structure Civil where
  /-- Year. -/
  year : Int
  /-- Month, from 0. -/
  month : Nat
  /-- Day of the month, from 1. -/
  day : Nat
  /-- Hour. -/
  hour : Nat
  /-- Minute. -/
  minute : Nat
  /-- Second. -/
  second : Nat
  /-- Day of the week; Sunday is 0. -/
  weekday : Nat
  /-- Day of the year, from 0. -/
  yearday : Nat
  deriving DecidableEq, Repr

/-- The same time on the next day. -/
def nextDay (c : Civil) : Civil :=
  let weekday := (c.weekday + 1) % 7
  if c.day < monthLength c.year c.month then
    { c with day := c.day + 1, yearday := c.yearday + 1, weekday := weekday }
  else if c.month < 11 then
    { c with month := c.month + 1, day := 1, yearday := c.yearday + 1, weekday := weekday }
  else { c with year := c.year + 1, month := 0, day := 1, yearday := 0, weekday := weekday }

/-- The next second. -/
def nextSecond (c : Civil) : Civil :=
  if c.second < 59 then { c with second := c.second + 1 }
  else if c.minute < 59 then { c with minute := c.minute + 1, second := 0 }
  else if c.hour < 23 then { c with hour := c.hour + 1, minute := 0, second := 0 }
  else nextDay { c with hour := 0, minute := 0, second := 0 }

/-- The entry `k` seconds later. -/
def later (c : Civil) : Nat → Civil
  | 0 => c
  | k + 1 => nextSecond (later c k)

/-! ## Numbers -/

/-- Leap years up to the end of a year. -/
def leapsThrough : Int := year / 4 - year / 100 + year / 400

/-- Days from the start of 1970 to the start of a year. -/
def daysBeforeYear : Int := 365 * (year - 1970) + leapsThrough (year - 1) - leapsThrough 1969

/-- Days from the start of a year to the start of a month. -/
def daysBeforeMonth (year : Int) : Nat → Nat
  | 0 => 0
  | month + 1 => daysBeforeMonth year month + monthLength year month

/-- Days since the epoch. -/
def dayNumber (c : Civil) : Int :=
  daysBeforeYear c.year + daysBeforeMonth c.year c.month + c.day - 1

/-- Seconds since the epoch. -/
def secondNumber (c : Civil) : Int := dayNumber c * 86400 + c.hour * 3600 + c.minute * 60 + c.second

/-- A year is followed by the next one. -/
theorem daysBeforeYear_succ :
    daysBeforeYear (year + 1) = daysBeforeYear year + yearLength year := by
  by_cases leap : IsLeap year
  · rw [yearLength, if_pos leap]
    unfold IsLeap at leap
    unfold daysBeforeYear leapsThrough
    omega
  · rw [yearLength, if_neg leap]
    unfold IsLeap at leap
    unfold daysBeforeYear leapsThrough
    omega

/-- Later years start later. -/
theorem daysBeforeYear_mono {a b : Int} (before : a ≤ b) : daysBeforeYear a ≤ daysBeforeYear b := by
  unfold daysBeforeYear leapsThrough
  omega

/-- The months fill the year. -/
theorem daysBeforeMonth_twelve (year : Int) : daysBeforeMonth year 12 = yearLength year := by
  unfold yearLength
  simp only [daysBeforeMonth, monthLength]
  split <;> rfl

/-- Later months start later. -/
theorem daysBeforeMonth_mono (year : Int) {a b : Nat} (before : a ≤ b) :
    daysBeforeMonth year a ≤ daysBeforeMonth year b := by
  induction b with
  | zero =>
    have zero : a = 0 := by omega
    rw [zero]
  | succ b ih =>
    by_cases last : a = b + 1
    · rw [last]
    · have earlier := ih (by omega)
      simp only [daysBeforeMonth]
      omega

/-! ## Valid entries -/

/-- An entry whose fields are in their ranges and belong together. -/
structure Civil.Valid (c : Civil) : Prop where
  /-- There are twelve months. -/
  month_lt : c.month < 12
  /-- Days count from 1. -/
  day_pos : 1 ≤ c.day
  /-- The day is one of the month. -/
  day_le : c.day ≤ monthLength c.year c.month
  /-- The hour is one of the day. -/
  hour_lt : c.hour < 24
  /-- The minute is one of the hour. -/
  minute_lt : c.minute < 60
  /-- The second is one of the minute. -/
  second_lt : c.second < 60
  /-- The day of the year is that of the date. -/
  yearday_eq : c.yearday + 1 = daysBeforeMonth c.year c.month + c.day
  /-- The day of the week is that of the date. -/
  weekday_eq : (c.weekday : Int) = (4 + dayNumber c) % 7

variable {c : Civil}

/-- The day of the year is inside the year. -/
theorem Civil.Valid.yearday_lt (valid : c.Valid) : c.yearday < yearLength c.year := by
  have bound := daysBeforeMonth_mono c.year (show c.month + 1 ≤ 12 from valid.month_lt)
  have equation := valid.yearday_eq
  have last := valid.day_le
  rw [daysBeforeMonth_twelve] at bound
  simp only [daysBeforeMonth] at bound
  omega

/-- The number of a valid day in terms of the day of the year. -/
theorem Civil.Valid.dayNumber_eq (valid : c.Valid) :
    dayNumber c = daysBeforeYear c.year + c.yearday := by
  have equation := valid.yearday_eq
  unfold dayNumber
  omega

/-- The day of the week goes on with the number of the day. -/
theorem weekday_succ {weekday : Nat} {number number' : Int}
    (before : (weekday : Int) = (4 + number) % 7) (next : number' = number + 1) :
    (((weekday + 1) % 7 : Nat) : Int) = (4 + number') % 7 := by
  omega

/-- Every month has days. -/
theorem monthLength_pos (month : Nat) : 1 ≤ monthLength year month := by
  unfold monthLength
  split
  · split <;> omega
  all_goals omega

/-- The next day is valid and has the next number. -/
theorem nextDay_valid (valid : c.Valid) :
    (nextDay c).Valid ∧ dayNumber (nextDay c) = dayNumber c + 1 := by
  have month := valid.month_lt
  have last := valid.day_le
  have yearday := valid.yearday_eq
  by_cases inside : c.day < monthLength c.year c.month
  · have shape : nextDay c = { c with
        day := c.day + 1, yearday := c.yearday + 1, weekday := (c.weekday + 1) % 7 } :=
      if_pos inside
    have number : dayNumber (nextDay c) = dayNumber c + 1 := by
      rw [shape]
      simp only [dayNumber]
      omega
    have equation : c.yearday + 1 + 1 = daysBeforeMonth c.year c.month + (c.day + 1) := by omega
    have weekday := weekday_succ valid.weekday_eq number
    rw [shape] at number weekday ⊢
    exact ⟨⟨month, Nat.le_add_left 1 c.day, inside, valid.hour_lt, valid.minute_lt,
      valid.second_lt, equation, weekday⟩, number⟩
  · have full : c.day = monthLength c.year c.month := by omega
    by_cases early : c.month < 11
    · have shape : nextDay c = { c with
          month := c.month + 1, day := 1, yearday := c.yearday + 1
          weekday := (c.weekday + 1) % 7 } := by
        rw [nextDay, if_neg inside, if_pos early]
      have number : dayNumber (nextDay c) = dayNumber c + 1 := by
        rw [shape]
        simp only [dayNumber, daysBeforeMonth]
        omega
      have equation : c.yearday + 1 + 1 = daysBeforeMonth c.year (c.month + 1) + 1 := by
        simp only [daysBeforeMonth]
        omega
      have weekday := weekday_succ valid.weekday_eq number
      rw [shape] at number weekday ⊢
      exact ⟨⟨Nat.succ_lt_succ early, Nat.le_refl 1, monthLength_pos _ _, valid.hour_lt,
        valid.minute_lt, valid.second_lt, equation, weekday⟩, number⟩
    · -- the last day of December: the year is complete
      have december : c.month = 11 := by omega
      have whole := daysBeforeMonth_twelve c.year
      have next := daysBeforeYear_succ c.year
      have shape : nextDay c = { c with
          year := c.year + 1, month := 0, day := 1, yearday := 0
          weekday := (c.weekday + 1) % 7 } := by
        rw [nextDay, if_neg inside, if_neg early]
      have number : dayNumber (nextDay c) = dayNumber c + 1 := by
        rw [shape]
        simp only [dayNumber, daysBeforeMonth, december] at whole full ⊢
        omega
      have weekday := weekday_succ valid.weekday_eq number
      rw [shape] at number weekday ⊢
      exact ⟨⟨Nat.zero_lt_succ 11, Nat.le_refl 1, monthLength_pos _ _, valid.hour_lt,
        valid.minute_lt, valid.second_lt, rfl, weekday⟩, number⟩

/-- The clock of a valid day may show any time. -/
theorem Civil.Valid.withClock (valid : c.Valid) {hour minute second : Nat} (hours : hour < 24)
    (minutes : minute < 60) (seconds : second < 60) :
    ({ c with hour := hour, minute := minute, second := second } : Civil).Valid :=
  ⟨valid.month_lt, valid.day_pos, valid.day_le, hours, minutes, seconds, valid.yearday_eq,
    valid.weekday_eq⟩

/-- The next day starts with the clock as it was. -/
theorem nextDay_clock (c : Civil) :
    (nextDay c).hour = c.hour ∧ (nextDay c).minute = c.minute ∧ (nextDay c).second = c.second := by
  unfold nextDay
  simp only
  split
  · exact ⟨rfl, rfl, rfl⟩
  · split <;> exact ⟨rfl, rfl, rfl⟩

/-- The next second is valid and has the next number. -/
theorem nextSecond_valid (valid : c.Valid) :
    (nextSecond c).Valid ∧ secondNumber (nextSecond c) = secondNumber c + 1 := by
  have hour := valid.hour_lt
  have minute := valid.minute_lt
  have second := valid.second_lt
  have zero := Nat.zero_lt_succ 59
  by_cases seconds : c.second < 59
  · rw [nextSecond, if_pos seconds]
    apply And.intro (valid.withClock hour minute (Nat.succ_lt_succ seconds))
    simp only [secondNumber, dayNumber]
    omega
  · by_cases minutes : c.minute < 59
    · rw [nextSecond, if_neg seconds, if_pos minutes]
      apply And.intro (valid.withClock hour (Nat.succ_lt_succ minutes) zero)
      simp only [secondNumber, dayNumber]
      omega
    · by_cases hours : c.hour < 23
      · rw [nextSecond, if_neg seconds, if_neg minutes, if_pos hours]
        apply And.intro (valid.withClock (Nat.succ_lt_succ hours) zero zero)
        simp only [secondNumber, dayNumber]
        omega
      · have tomorrow := nextDay_valid (valid.withClock (Nat.zero_lt_succ 23) zero zero)
        have times := nextDay_clock { c with hour := 0, minute := 0, second := 0 }
        have same : dayNumber { c with hour := 0, minute := 0, second := 0 } = dayNumber c := rfl
        rw [nextSecond, if_neg seconds, if_neg minutes, if_neg hours]
        apply And.intro tomorrow.1
        rw [secondNumber, tomorrow.2, times.1, times.2.1, times.2.2, same, secondNumber]
        push_cast
        omega

/-- The walk visits valid entries in the order of their numbers. -/
theorem later_valid (valid : c.Valid) (k : Nat) :
    (later c k).Valid ∧ secondNumber (later c k) = secondNumber c + k := by
  induction k with
  | zero => exact ⟨valid, (Int.add_zero _).symm⟩
  | succ k ih =>
    have next := nextSecond_valid ih.1
    apply And.intro next.1
    rw [later, next.2, ih.2]
    push_cast
    omega

/-! ## An entry is determined by its number -/

/-- The month and the day are determined by the day of the year. -/
theorem month_eq_of_yearday {c d : Civil} (valid : c.Valid) (valid' : d.Valid)
    (years : c.year = d.year) (days : c.yearday = d.yearday) : c.month = d.month := by
  have equation := valid.yearday_eq
  have equation' := valid'.yearday_eq
  have first := valid.day_pos
  have first' := valid'.day_pos
  have last := valid.day_le
  have last' := valid'.day_le
  rw [← years] at equation' last'
  -- a later month starts after the whole of an earlier one
  rcases Nat.lt_trichotomy c.month d.month with earlier | same | later
  · have apart := daysBeforeMonth_mono c.year (show c.month + 1 ≤ d.month from earlier)
    simp only [daysBeforeMonth] at apart
    omega
  · exact same
  · have apart := daysBeforeMonth_mono c.year (show d.month + 1 ≤ c.month from later)
    simp only [daysBeforeMonth] at apart
    omega

/-- The year is determined by the number of the day. -/
theorem year_eq_of_dayNumber {c d : Civil} (valid : c.Valid) (valid' : d.Valid)
    (days : dayNumber c = dayNumber d) : c.year = d.year := by
  have inside := valid.yearday_lt
  have inside' := valid'.yearday_lt
  rw [valid.dayNumber_eq, valid'.dayNumber_eq] at days
  rcases lt_trichotomy c.year d.year with earlier | same | later
  · have apart := daysBeforeYear_mono (show c.year + 1 ≤ d.year from earlier)
    rw [daysBeforeYear_succ] at apart
    omega
  · exact same
  · have apart := daysBeforeYear_mono (show d.year + 1 ≤ c.year from later)
    rw [daysBeforeYear_succ] at apart
    omega

/-- An entry from the start of a year on is not in an earlier year. -/
theorem year_ge_of_secondNumber {year : Int} (valid : c.Valid)
    (number : daysBeforeYear year * 86400 ≤ secondNumber c) : year ≤ c.year := by
  have hours := valid.hour_lt
  have minutes := valid.minute_lt
  have seconds := valid.second_lt
  have position := valid.dayNumber_eq
  have inside := valid.yearday_lt
  by_contra early
  have before := daysBeforeYear_mono (show c.year + 1 ≤ year by omega)
  rw [daysBeforeYear_succ] at before
  unfold secondNumber at number
  omega

/-- Valid entries with one number are one entry. -/
theorem valid_unique {c d : Civil} (valid : c.Valid) (valid' : d.Valid)
    (numbers : secondNumber c = secondNumber d) : c = d := by
  have hour := valid.hour_lt
  have minute := valid.minute_lt
  have second := valid.second_lt
  have hour' := valid'.hour_lt
  have minute' := valid'.minute_lt
  have second' := valid'.second_lt
  unfold secondNumber at numbers
  have days : dayNumber c = dayNumber d := by omega
  have hours : c.hour = d.hour := by omega
  have minutes : c.minute = d.minute := by omega
  have seconds : c.second = d.second := by omega
  have years := year_eq_of_dayNumber valid valid' days
  have yeardays : c.yearday = d.yearday := by
    have position := valid.dayNumber_eq
    have position' := valid'.dayNumber_eq
    rw [← years] at position'
    omega
  have months := month_eq_of_yearday valid valid' years yeardays
  have daysOfMonth : c.day = d.day := by
    have equation := valid.yearday_eq
    have equation' := valid'.yearday_eq
    rw [← years, ← months] at equation'
    omega
  have weekdays : c.weekday = d.weekday := by
    have week := valid.weekday_eq
    have week' := valid'.weekday_eq
    rw [← days] at week'
    omega
  cases c
  cases d
  simp_all

end Fvs318g.Lib.Calendar
