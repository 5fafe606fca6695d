import Fvs318g.Char.Rtc
import Fvs318g.Lib.Calendar
import Mathlib.Data.BitVec
import Mathlib.Tactic.IntervalCases
import Mathlib.Tactic.Ring

/-!
# Setting and reading the clock

`offtime` fills in the entry of the Gregorian calendar whose number is the time that it gets,
and `_mktime` computes that number back. A reading of the clock is therefore the date that was
set, moved on by the seconds that the counters have counted since.
-/

namespace Fvs318g.Verif.RtcTime

open Lib Lib.Calendar Fvs318g.Char

/-- The fields of `struct rtc_time` for an entry of the calendar. -/
def rtcTimeOf (c : Civil) : RtcTime where
  tmSec := c.second
  tmMin := c.minute
  tmHour := c.hour
  tmMday := c.day
  tmMon := c.month
  tmYear := c.year - 1900
  tmWday := c.weekday
  tmYday := c.yearday

/-- The test of the driver finds the leap years. -/
theorem isleap_iff (year : Int) : isleap year = true ↔ IsLeap year := by
  unfold isleap IsLeap
  simp

/-! ## The loops of `offtime` -/

/-- Borrowing days keeps the time and makes the remainder non-negative. -/
theorem raiseRem_spec (days rem : Int) :
    (raiseRem days rem).1 * 86400 + (raiseRem days rem).2 = days * 86400 + rem ∧
      0 ≤ (raiseRem days rem).2 := by
  fun_induction raiseRem days rem with
  | case1 days rem negative ih =>
    simp only [secsPerDay, secsPerHour] at ih ⊢
    apply And.intro _ ih.2
    rw [ih.1]
    omega
  | case2 days rem enough => exact ⟨rfl, by omega⟩

/-- Carrying days keeps the time and brings the remainder below a day. -/
theorem lowerRem_spec (days rem : Int) (start : 0 ≤ rem) :
    (lowerRem days rem).1 * 86400 + (lowerRem days rem).2 = days * 86400 + rem ∧
      0 ≤ (lowerRem days rem).2 ∧ (lowerRem days rem).2 < 86400 := by
  fun_induction lowerRem days rem with
  | case1 days rem large ih =>
    simp only [secsPerDay, secsPerHour] at large ih ⊢
    have rest := ih (by omega)
    apply And.intro _ rest.2
    rw [rest.1]
    omega
  | case2 days rem small =>
    simp only [secsPerDay, secsPerHour] at small
    exact ⟨rfl, start, by omega⟩

/-- The start of a year by the count of the driver. -/
theorem daysBeforeYear_eq (y : Int) :
    daysBeforeYear y = 365 * (y - 1970) + leapsThruEndOf (y - 1) - leapsThruEndOf 1969 := by
  rw [leapsThruEndOf_eq, leapsThruEndOf_eq]
  rfl

/-- Outside the year means outside its days. -/
theorem outsideYear_length (days y : Int) :
    outsideYear days y = true ↔ days < 0 ∨ (yearLength y : Int) ≤ days := by
  rw [outsideYear_iff]
  unfold yearLength
  by_cases leap : isleap y = true
  · rw [if_pos leap, if_pos ((isleap_iff y).mp leap)]
    rfl
  · rw [if_neg leap, if_neg (fun h => leap ((isleap_iff y).mpr h))]
    rfl

/-- A round of the year loop stays on its day. -/
theorem daysLeft_position (days y : Int) :
    daysBeforeYear (yearGuess days y) + daysLeft days y = daysBeforeYear y + days := by
  rw [daysBeforeYear_eq, daysBeforeYear_eq y, daysLeft]
  omega

/-- The year loop ends inside a year, on the day at which it started. -/
theorem yearLoop_spec (days y : Int) :
    daysBeforeYear (yearLoop days y).2 + (yearLoop days y).1 = daysBeforeYear y + days ∧
      0 ≤ (yearLoop days y).1 ∧ (yearLoop days y).1 < yearLength (yearLoop days y).2 := by
  fun_induction yearLoop days y with
  | case1 days y outside ih =>
    apply And.intro _ ih.2
    rw [ih.1, daysLeft_position]
  | case2 days y inside =>
    rw [outsideYear_length] at inside
    have above : 0 ≤ days := by omega
    have below : days < yearLength y := by omega
    exact ⟨rfl, above, below⟩

/-- The table of the driver has the starts of the months. -/
theorem monYday_eq (year : Int) {month : Nat} (bound : month ≤ 12) :
    (monYday (isleap year)).getD month 0 = daysBeforeMonth year month := by
  by_cases leap : isleap year = true
  · have calendar := (isleap_iff year).mp leap
    rw [leap]
    interval_cases month <;> simp [monYday, daysBeforeMonth, monthLength, calendar]
  · have calendar : ¬ IsLeap year := fun h => leap ((isleap_iff year).mpr h)
    rw [Bool.not_eq_true] at leap
    rw [leap]
    interval_cases month <;> simp [monYday, daysBeforeMonth, monthLength, calendar]

/-- The search ends in the month of the day. -/
theorem monthSearch_spec (year : Int) {days : Int} (start : 0 ≤ days) {y : Nat} (bound : y < 12)
    (below : days < daysBeforeMonth year (y + 1)) :
    let month := monthSearch (monYday (isleap year)) days y
    month < 12 ∧ (daysBeforeMonth year month : Int) ≤ days ∧
      days < daysBeforeMonth year (month + 1) := by
  induction y with
  | zero => exact ⟨bound, start, below⟩
  | succ y ih =>
    have entry := monYday_eq year (Nat.le_of_lt bound)
    by_cases later : days < daysBeforeMonth year (y + 1)
    · rw [monthSearch, if_pos (by rw [entry]; exact later)]
      exact ih (by omega) later
    · rw [monthSearch, if_neg (by rw [entry]; exact later)]
      exact ⟨bound, by omega, below⟩

/-! ## Seconds to a date -/

/-- The day of the week, with the correction for days before the epoch. -/
theorem wday_eq (x : Int) : (if x.tmod 7 < 0 then x.tmod 7 + 7 else x.tmod 7) = x % 7 := by
  rw [Int.tmod_eq_emod]
  by_cases exact_ : 0 ≤ x ∨ 7 ∣ x
  · rw [if_pos exact_]
    omega
  · rw [if_neg exact_]
    omega

/-- The day and the remainder with which `offtime` goes on. -/
def dayAndRem (t : Int) : Int × Int :=
  let raised := raiseRem (t.tdiv secsPerDay) (long (t.tmod secsPerDay + 0))
  lowerRem raised.1 raised.2

/-- The remainder of a day fits into a `long`. -/
theorem long_tmod (t : Int) : long (t.tmod secsPerDay + 0) = t.tmod secsPerDay := by
  have low := Int.lt_tmod_of_pos t (show 0 < secsPerDay by decide)
  have high := Int.tmod_lt_of_pos t (show 0 < secsPerDay by decide)
  have size : secsPerDay = 86400 := rfl
  rw [Int.add_zero]
  exact long_of_mem (by omega) (by omega)

/-- They are the day of the time and the second of the day. -/
theorem dayAndRem_spec (t : Int) :
    (dayAndRem t).1 * 86400 + (dayAndRem t).2 = t ∧
      0 ≤ (dayAndRem t).2 ∧ (dayAndRem t).2 < 86400 := by
  have parts := Int.tmod_add_mul_tdiv t secsPerDay
  have size : secsPerDay = 86400 := rfl
  have raised := raiseRem_spec (t.tdiv secsPerDay) (t.tmod secsPerDay)
  have lowered := lowerRem_spec (raiseRem (t.tdiv secsPerDay) (t.tmod secsPerDay)).1 _ raised.2
  unfold dayAndRem
  simp only [long_tmod]
  apply And.intro _ lowered.2
  rw [lowered.1, raised.1]
  rw [size] at parts ⊢
  omega

/-- `offtime` by the results of its loops. -/
theorem offtime_fields (t : Int) : let days := (dayAndRem t).1
    let rem := (dayAndRem t).2
    let found := yearLoop days 1970
    let ip := monYday (isleap found.2)
    let mon := monthSearch ip found.1 11
    offtime t 0 =
      { tmSec := (rem.tmod 3600).tmod 60, tmMin := (rem.tmod 3600).tdiv 60
        tmHour := rem.tdiv 3600, tmMday := found.1 - ip.getD mon 0 + 1, tmMon := mon
        tmYear := found.2 - 1900
        tmWday := if (4 + days).tmod 7 < 0 then (4 + days).tmod 7 + 7 else (4 + days).tmod 7
        tmYday := found.1 } := rfl

/-- The entry of a second of a day, with its month. -/
def entryOf (days rem yearday year : Int) (month : Nat) : Civil where
  year := year
  month := month
  day := (yearday - daysBeforeMonth year month + 1).toNat
  hour := (rem / 3600).toNat
  minute := (rem % 3600 / 60).toNat
  second := (rem % 3600 % 60).toNat
  weekday := ((4 + days) % 7).toNat
  yearday := yearday.toNat

section Entry

variable {days rem yearday year : Int} {month : Nat}

/-- The entry is on the day. -/
theorem dayNumber_entryOf (position : daysBeforeYear year + yearday = days)
    (started : (daysBeforeMonth year month : Int) ≤ yearday) :
    dayNumber (entryOf days rem yearday year month) = days := by
  simp only [dayNumber, entryOf]
  omega

/-- The entry is at the second of the day. -/
theorem secondNumber_entryOf (position : daysBeforeYear year + yearday = days)
    (started : (daysBeforeMonth year month : Int) ≤ yearday) (remLow : 0 ≤ rem) :
    secondNumber (entryOf days rem yearday year month) = days * 86400 + rem := by
  rw [secondNumber, dayNumber_entryOf position started]
  simp only [entryOf]
  omega

/-- The entry is valid if the day is in the month. -/
theorem entryOf_valid (position : daysBeforeYear year + yearday = days)
    (started : (daysBeforeMonth year month : Int) ≤ yearday) (real : month < 12)
    (ends : yearday < daysBeforeMonth year (month + 1)) (remLow : 0 ≤ rem)
    (remHigh : rem < 86400) : (entryOf days rem yearday year month).Valid := by
  have length : daysBeforeMonth year (month + 1) =
      daysBeforeMonth year month + monthLength year month := rfl
  have number : dayNumber (entryOf days rem yearday year month) = days :=
    dayNumber_entryOf position started
  apply Civil.Valid.mk real
  case weekday_eq =>
    rw [number]
    simp only [entryOf]
    omega
  all_goals
    simp only [entryOf]
    omega

end Entry

/-- `offtime` fills in the calendar entry of its time. -/
theorem offtime_civil (t : Int) :
    ∃ c : Civil, c.Valid ∧ secondNumber c = t ∧ offtime t 0 = rtcTimeOf c := by
  have fields := offtime_fields t
  simp only at fields
  have clock := dayAndRem_spec t
  have found := yearLoop_spec (dayAndRem t).1 1970
  generalize (dayAndRem t).1 = days at fields clock found
  generalize (dayAndRem t).2 = rem at fields clock
  generalize (yearLoop days 1970).1 = yearday at fields found
  generalize (yearLoop days 1970).2 = year at fields found
  have epoch : daysBeforeYear 1970 = 0 := by decide
  rw [epoch, Int.zero_add] at found
  have inside : yearday < daysBeforeMonth year (11 + 1) := by
    rw [daysBeforeMonth_twelve]
    exact found.2.2
  have search := monthSearch_spec year found.2.1 (show 11 < 12 by decide) inside
  simp only at search
  generalize monthSearch (monYday (isleap year)) yearday 11 = month at fields search
  rw [monYday_eq year (Nat.le_of_lt search.1), wday_eq,
    Int.tdiv_eq_ediv_of_nonneg clock.2.1, Int.tmod_eq_emod_of_nonneg clock.2.1,
    Int.tdiv_eq_ediv_of_nonneg (Int.emod_nonneg rem (by decide)),
    Int.tmod_eq_emod_of_nonneg (Int.emod_nonneg rem (by decide))] at fields
  -- what the loops have found is an entry of the calendar on the day and at the second of `t`
  have valid := entryOf_valid found.1 search.2.1 search.1 search.2.2 clock.2.1 clock.2.2
  have number := secondNumber_entryOf found.1 search.2.1 clock.2.1
  rw [clock.1] at number
  apply Exists.intro (entryOf days rem yearday year month)
  apply And.intro valid
  apply And.intro number
  rw [fields]
  simp only [rtcTimeOf, entryOf, RtcTime.mk.injEq, true_and]
  omega

/-- The entry that `offtime` fills in is determined by the time. -/
theorem offtime_of_valid {c : Civil} (valid : c.Valid) :
    offtime (secondNumber c) 0 = rtcTimeOf c := by
  obtain ⟨filled, validFilled, number, fields⟩ := offtime_civil (secondNumber c)
  rw [fields, valid_unique validFilled valid number]

/-- Times from the epoch on are in years from 1970 on. -/
theorem year_ge_of_nonneg {c : Civil} (valid : c.Valid) (number : 0 ≤ secondNumber c) :
    1970 ≤ c.year := by
  have epoch : daysBeforeYear 1970 = 0 := by decide
  apply year_ge_of_secondNumber valid
  omega

/-! ## A date to seconds -/

/-- The shifts count the leap years before a year. -/
theorem leapDays_eq (year : Int) : leapDays year = leapsThruEndOf (year + 1899) := by
  rw [leapsThruEndOf_eq]
  have shift : ∀ x : Int, Int.shiftRight x 2 = x / 4 := fun x => Int.shiftRight_eq_div_pow x 2
  simp only [leapDays, div_eq _ (show (0 : Int) < 25 by decide), shift]
  by_cases multiple : year % 4 = 0
  · rw [if_pos multiple]
    omega
  · rw [if_neg multiple]
    omega

/-- The difference to the start of 1970 is the number of the second. -/
theorem ydhmsTmDiff_eq (year yday hour min sec : Int) :
    ydhmsTmDiff year yday hour min sec 70 =
      long ((daysBeforeYear (year + 1900) + yday) * 86400 + hour * 3600 + min * 60 + sec) := by
  have before : year + 1900 - 1 = year + 1899 := by omega
  have epoch : leapsThruEndOf (70 + 1899) = leapsThruEndOf 1969 := rfl
  simp only [ydhmsTmDiff]
  rw [leapDays_eq, leapDays_eq, daysBeforeYear_eq, before, epoch]
  congr 1
  omega

/-- A time from the epoch on that fits into 32 bits is in a year that passes the checks. -/
theorem year_bounds {d : Civil} (valid : d.Valid) (start : 1970 ≤ d.year)
    (fits : secondNumber d < 0x80000000) : 0 ≤ secondNumber d ∧ d.year ≤ 2038 := by
  have position := valid.dayNumber_eq
  have epoch : daysBeforeYear 1970 = 0 := by decide
  have first := daysBeforeYear_mono start
  unfold secondNumber at fits ⊢
  apply And.intro (by omega)
  by_contra late
  have after := daysBeforeYear_mono (show 2039 ≤ d.year by omega)
  have bound : daysBeforeYear 2039 = 25202 := by decide
  omega

/-- A request for a date: the fields that the driver reads are those of the date. -/
structure Requests (tm : RtcTime) (d : Civil) : Prop where
  /-- The second. -/
  sec : tm.tmSec = d.second
  /-- The minute. -/
  min : tm.tmMin = d.minute
  /-- The hour. -/
  hour : tm.tmHour = d.hour
  /-- The day of the month. -/
  mday : tm.tmMday = d.day
  /-- The month. -/
  mon : tm.tmMon = d.month
  /-- The year. -/
  year : tm.tmYear = d.year - 1900

section Request

variable {d : Civil} {tm : RtcTime}

/-- `_mktime` computes the number of the second. -/
theorem mktime_eq (valid : d.Valid) (start : 1970 ≤ d.year)
    (fits : secondNumber d < 0x80000000) (asked : Requests tm d) : mktime tm = secondNumber d := by
  have bounds := year_bounds valid start fits
  have position := valid.dayNumber_eq
  have equation := valid.yearday_eq
  have months := valid.month_lt
  have inside := valid.yearday_lt
  have remainder : tm.tmMon.tmod 12 = d.month := by
    rw [asked.mon]
    exact Int.tmod_eq_of_lt (by omega) (by omega)
  have quotient : tm.tmMon.tdiv 12 = 0 := by
    rw [asked.mon]
    exact Int.tdiv_eq_zero_of_lt (by omega) (by omega)
  have notNegative : ¬ (d.month : Int) < 0 := by omega
  have length := yearLength_le d.year
  have year : long (tm.tmYear + (0 - 0)) = d.year - 1900 := by
    rw [asked.year]
    exact (long_of_mem (by omega) (by omega)).trans (by omega)
  have index : ((d.month : Int) + 12 * 0).toNat = d.month := by omega
  have back : d.year - 1900 + 1900 = d.year := by omega
  have yday : long ((daysBeforeMonth d.year d.month : Int) + d.day - 1) = d.yearday := by
    exact (long_of_mem (by omega) (by omega)).trans (by omega)
  have total : (daysBeforeYear d.year + d.yearday) * 86400 + d.hour * 3600 + d.minute * 60 +
      d.second = secondNumber d := by
    rw [secondNumber, position]
  simp only [mktime, remainder, quotient, if_neg notNegative, year, index, back, asked.mday,
    asked.hour, asked.min, asked.sec, monYday_eq d.year (Nat.le_of_lt months), yday,
    ydhmsTmDiff_eq, total, long_of_mem (show -0x80000000 ≤ secondNumber d by omega) fits]
  rw [if_neg (by omega), if_neg (by omega)]

/-- The table of the checks has the lengths of the months. -/
theorem daysInMo_eq (year : Int) {month : Nat} (real : month < 12) :
    daysInMo.getD (month + 1) 0 + (if month + 1 = 2 ∧ IsLeap year then 1 else 0) =
      monthLength year month := by
  by_cases leap : IsLeap year
  · interval_cases month <;> simp [daysInMo, monthLength, leap]
  · interval_cases month <;> simp [daysInMo, monthLength, leap]

/-- No month is longer than 31 days. -/
theorem monthLength_le (year : Int) (month : Nat) : monthLength year month ≤ 31 := by
  unfold monthLength
  split
  · split <;> omega
  all_goals omega

/-- A small field survives the copy into an `unsigned char`. -/
theorem toNat_byte {x : Int} {n : Nat} (same : x = n) (small : n < 256) : (x % 256).toNat = n := by
  omega

/-- The leap year test on the unsigned copy of the year. -/
theorem leapYr_iff {year : Int} (positive : 0 ≤ year) :
    (year.toNat % 4 = 0 ∧ ¬ year.toNat % 100 = 0 ∨ year.toNat % 400 = 0) ↔ IsLeap year := by
  unfold IsLeap
  omega

/-- The checks pass a valid date. -/
theorem rtcTimeRefused_valid (valid : d.Valid) (start : 1970 ≤ d.year) (late : d.year ≤ 2155)
    (asked : Requests tm d) : rtcTimeRefused tm = false := by
  have days := valid.day_le
  have first := valid.day_pos
  have months := valid.month_lt
  have hours := valid.hour_lt
  have minutes := valid.minute_lt
  have seconds := valid.second_lt
  have table := daysInMo_eq d.year months
  have longest := monthLength_le d.year d.month
  have yrs : ((tm.tmYear + 1900) % 0x100000000).toNat = d.year.toNat := by
    rw [asked.year]
    omega
  have month : tm.tmMon + 1 = ((d.month + 1 : Nat) : Int) := by
    rw [asked.mon]
    rfl
  have mon := toNat_byte month (by omega)
  have day := toNat_byte asked.mday (by omega)
  have hrs := toNat_byte asked.hour (by omega)
  have min := toNat_byte asked.min (by omega)
  have sec := toNat_byte asked.sec (by omega)
  simp only [rtcTimeRefused, yrs, mon, day, hrs, min, sec, Bool.or_eq_false_iff,
    decide_eq_false_iff_not, Bool.and_eq_true, Bool.or_eq_true, beq_iff_eq, bne_iff_ne, ne_eq,
    leapYr_iff (show 0 ≤ d.year by omega), table, beq_eq_false_iff_ne]
  omega

end Request

/-! ## Setting and reading -/

/-- The counters show `k` seconds more. Their sum wraps like the registers. -/
def Advanced (k : Nat) (c c' : RtcCounters) : Prop := c'.seconds = c.seconds + BitVec.ofNat 32 k

/-- A tick adds a second to the sum of the counters, whatever they show. -/
theorem seconds_tick (c : RtcCounters) : c.tick.seconds = c.seconds + 1 := by
  unfold RtcCounters.tick
  by_cases second : c.second ≠ 59
  · rw [if_pos second]
    simp only [RtcCounters.seconds]
    ring
  · rw [if_neg second]
    rw [ne_eq, not_not] at second
    by_cases minute : c.minute ≠ 59
    · rw [if_pos minute]
      simp only [RtcCounters.seconds, second]
      ring
    · rw [if_neg minute]
      rw [ne_eq, not_not] at minute
      by_cases hour : c.hour ≠ 23
      · rw [if_pos hour]
        simp only [RtcCounters.seconds, second, minute]
        ring
      · rw [if_neg hour]
        rw [ne_eq, not_not] at hour
        simp only [RtcCounters.seconds, second, minute, hour]
        ring

/-- Counters that carry into each other advance by a second with each tick. -/
theorem advanced_ticks (c : RtcCounters) (k : Nat) : Advanced k c (RtcCounters.tick^[k] c) := by
  induction k with
  | zero => exact (BitVec.add_zero c.seconds).symm
  | succ k ih =>
    unfold Advanced at ih ⊢
    rw [Function.iterate_succ_apply', seconds_tick, ih]
    bv_omega

/-- The difference of the counters, added to the time that was set. -/
theorem toInt_elapsed (base : Word) {n : Int} {k : Nat} (low : 0 ≤ n) (high : n + k < 0x80000000) :
    (base + BitVec.ofNat 32 k - base + BitVec.ofInt 32 n).toInt = n + k := by
  have sum : base + BitVec.ofNat 32 k - base + BitVec.ofInt 32 n = BitVec.ofInt 32 (n + k) := by
    rw [BitVec.ofInt_add, BitVec.ofInt_natCast]
    bv_omega
  rw [sum, BitVec.toInt_ofInt]
  exact long_of_mem (by omega) (by omega)

/-- The last second of the signed 32-bit time. -/
def lastSecond : Civil := ⟨2038, 0, 19, 3, 14, 7, 2, 18⟩

/-- A reading after a setting is the date that was set, moved on by the seconds that the counters
have counted. -/
theorem set_get_agree (s : RtcState) (d : Civil) (tm : RtcTime) (now after : RtcCounters)
    (k : Nat) (valid : d.Valid) (start : 1970 ≤ d.year) (asked : Requests tm d)
    (advanced : Advanced k now after) (last : secondNumber (later d k) ≤ secondNumber lastSecond) :
    (setRtcTime now tm s).1 = 0 ∧
      (getRtcTime after (setRtcTime now tm s).2).1.tm = rtcTimeOf (later d k) := by
  have moved := later_valid valid k
  have limit : secondNumber lastSecond = 0x7fffffff := by decide
  have fits : secondNumber d < 0x80000000 := by omega
  have bounds := year_bounds valid start fits
  have accepted := rtcTimeRefused_valid valid start (by omega) asked
  have stored : setRtcTime now tm s = (0, { s with
      localRtcOffset := now.seconds, setRtcOffset := BitVec.ofInt 32 (mktime tm)
      rtcLock := false }) := by
    rw [setRtcTime, accepted]
    rfl
  -- the counters at the setting cancel out, whatever they showed
  have update : (after.seconds - now.seconds + BitVec.ofInt 32 (mktime tm)).toInt =
      secondNumber (later d k) := by
    rw [mktime_eq valid start fits asked, advanced, moved.2]
    exact toInt_elapsed now.seconds bounds.1 (by omega)
  have year := year_ge_of_nonneg moved.1 (by omega)
  rw [stored]
  apply And.intro rfl
  simp only [getRtcTime, update, offtime_of_valid moved.1]
  apply if_neg
  simp only [rtcTimeOf]
  omega

/-- The clock is set to the end of 28 February 2000 and read a second later. -/
theorem set_get_agree_leap_day :
    (getRtcTime (RtcCounters.tick^[1] ⟨59, 59, 23, 0⟩)
      (setRtcTime ⟨59, 59, 23, 0⟩ (rtcTimeOf ⟨2000, 1, 28, 23, 59, 59, 1, 58⟩)
        ⟨1, 0, 0, 0, 0, 0, 0, 0, true, false⟩).2).1.tm =
      rtcTimeOf ⟨2000, 1, 29, 0, 0, 0, 2, 59⟩ := by
  have valid : (⟨2000, 1, 28, 23, 59, 59, 1, 58⟩ : Civil).Valid :=
    ⟨by decide, by decide, by decide, by decide, by decide, by decide, by decide, by decide⟩
  exact (set_get_agree _ _ (rtcTimeOf ⟨2000, 1, 28, 23, 59, 59, 1, 58⟩) _ _ 1 valid (by decide)
    ⟨rfl, rfl, rfl, rfl, rfl, rfl⟩ (advanced_ticks _ 1) (by decide)).2

end Fvs318g.Verif.RtcTime
