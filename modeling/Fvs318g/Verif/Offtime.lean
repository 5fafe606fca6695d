import Fvs318g.Char.Offtime
import Fvs318g.Verif.RtcTime

/-!
# `offtime` on every 32-bit time

The checked `offtime` agrees with the one on the integers: from a time of 32 bits no operation
leaves the range and every loop ends. The year loop stays on the day at which it starts, so its
year stays near the year of that day, and the days that are left only come closer to it.
-/

namespace Fvs318g.Verif.Offtime

open Lib Lib.Calendar Fvs318g.Char RtcTime

/-! ## The operations -/

/-- `DIV` of a value in the range. -/
theorem divChecked_eq {a b : Int} (positive : 0 < b) (low : -0x80000000 ≤ a)
    (high : a < 0x80000000) : divChecked a b = some (div a b) := by
  have down := div_eq a positive
  have below : -0x80000000 ≤ div a b := by
    rw [down]
    exact (Int.le_ediv_iff_mul_le positive).mpr (by nlinarith)
  have above : div a b < 0x80000000 := by
    rw [down]
    exact (Int.ediv_lt_iff_lt_mul positive).mpr (by nlinarith)
  exact checked_of_mem below above

/-- The count of leap years of a year that is not too far away. -/
theorem leapsThruEndOfChecked_eq {y : Int} (low : -0x40000000 ≤ y) (high : y < 0x40000000) :
    leapsThruEndOfChecked y = some (leapsThruEndOf y) := by
  have fourth := div_eq y (show (0 : Int) < 4 by decide)
  have hundredth := div_eq y (show (0 : Int) < 100 by decide)
  have rest := div_eq y (show (0 : Int) < 400 by decide)
  simp (disch := omega) only [leapsThruEndOfChecked, divChecked_eq, Option.bind_eq_bind,
    Option.bind_some, checked_of_mem]
  rfl

/-- The leap years of four thousand years. -/
theorem leaps_bounds {y : Int} (low : 0 ≤ y) (high : y ≤ 4000) :
    0 ≤ leapsThruEndOf y ∧ leapsThruEndOf y ≤ 1000 := by
  rw [leapsThruEndOf_eq]
  omega

/-- A round of the year loop near the present. -/
theorem yearRound_eq {days y : Int} (daysLow : -60000 ≤ days) (daysHigh : days ≤ 60000)
    (yearLow : 1000 ≤ y) (yearHigh : y ≤ 3000) :
    yearRound days y = some (daysLeft days y, yearGuess days y) := by
  have guess := yearGuess_eq days y
  have guessed : y + days.tdiv 365 - (if days.tmod 365 < 0 then 1 else 0) = yearGuess days y := rfl
  have near : 800 ≤ yearGuess days y ∧ yearGuess days y ≤ 3200 := by omega
  have reached : 800 ≤ y + days.tdiv 365 ∧ y + days.tdiv 365 ≤ 3201 := by
    split at guessed <;> omega
  have leaps := leaps_bounds (show 0 ≤ y - 1 by omega) (by omega)
  have leapsGuess := leaps_bounds (show 0 ≤ yearGuess days y - 1 by omega) (by omega)
  clear guess
  rw [yearRound, checked_of_mem (by omega) (by omega)]
  simp only [Option.bind_eq_bind, Option.bind_some, guessed]
  clear guessed
  simp (disch := omega) only [Option.bind_some, checked_of_mem, leapsThruEndOfChecked_eq]
  rfl

/-! ## The loops -/

/-- Less than a day is borrowed in one round. -/
theorem raiseRemChecked_eq {rounds : Nat} {days rem : Int} (enough : 2 ≤ rounds)
    (daysLow : -30000 ≤ days) (daysHigh : days ≤ 30000) (low : -86400 < rem) (high : rem < 86400) :
    raiseRemChecked rounds days rem = some (raiseRem days rem) := by
  obtain ⟨rounds, rfl⟩ := Nat.exists_eq_add_of_le' enough
  have day : secsPerDay = 86400 := rfl
  rw [raiseRemChecked, raiseRem]
  by_cases negative : rem < 0
  · rw [if_pos negative, if_pos negative]
    simp (disch := omega) only [Option.bind_eq_bind, Option.bind_some, checked_of_mem]
    rw [raiseRemChecked, raiseRem, if_neg (by omega), if_neg (by omega)]
  · rw [if_neg negative, if_neg negative]

/-- A remainder of less than a day is left as it is. -/
theorem lowerRemChecked_eq {rounds : Nat} {days rem : Int} (enough : 1 ≤ rounds)
    (high : rem < 86400) : lowerRemChecked rounds days rem = some (lowerRem days rem) := by
  obtain ⟨rounds, rfl⟩ := Nat.exists_eq_add_of_le' enough
  have day : secsPerDay = 86400 := rfl
  rw [lowerRemChecked, lowerRem, if_neg (by omega), if_neg (by omega)]

/-- Days inside a year are at most those of a leap year. -/
theorem inside_bounds {days y : Int} (inside : outsideYear days y = false) :
    0 ≤ days ∧ days ≤ 365 := by
  have range := (outsideYear_iff days y).not.mp (by simp [inside])
  split at range <;> omega

/-- The year of a day that is not far from the epoch. -/
theorem year_near {y : Int} (low : -60000 ≤ daysBeforeYear y) (high : daysBeforeYear y ≤ 60000) :
    1000 ≤ y ∧ y ≤ 3000 := by
  have start : daysBeforeYear 1000 = -354285 := by decide
  have stop : daysBeforeYear 3001 = 376565 := by decide
  constructor
  · by_contra early
    have before := daysBeforeYear_mono (show y ≤ 1000 by omega)
    omega
  · by_contra late
    have after := daysBeforeYear_mono (show 3001 ≤ y by omega)
    omega

/-- The year loop ends near the epoch, and no operation of it leaves the range. -/
theorem yearLoopChecked_eq {rounds : Nat} {days y : Int}
    (enough : (if outsideYear days y then days.natAbs + 1 else 0) < rounds)
    (near : (daysBeforeYear y + days).natAbs ≤ 25000) (close : days.natAbs ≤ 25000) :
    yearLoopChecked rounds days y = some (yearLoop days y) := by
  induction rounds generalizing days y with
  | zero => exact absurd enough (Nat.not_lt_zero _)
  | succ rounds ih =>
    rw [yearLoopChecked, yearLoop]
    cases outside : outsideYear days y with
    | false => rfl
    | true =>
      have position := daysLeft_position days y
      have bounds := year_near (y := y) (by omega) (by omega)
      rw [if_pos rfl, if_pos rfl, yearRound_eq (by omega) (by omega) bounds.1 bounds.2]
      simp only [Option.bind_eq_bind, Option.bind_some]
      rw [outside, if_pos rfl] at enough
      apply ih
      · -- either the loop is over, or it has come closer
        split
        · next again =>
          have closer := daysLeft_closer outside again
          omega
        · omega
      · rw [position]
        exact near
      · cases again : outsideYear (daysLeft days y) (yearGuess days y) with
        | true =>
          have closer := daysLeft_closer outside again
          omega
        | false =>
          have bounds := inside_bounds again
          omega

/-! ## Every time -/

/-- The rounds that are enough for the loops. -/
def enoughRounds : Nat := 25002

/-- Borrowing leaves less than a day. -/
theorem raiseRem_lt (days : Int) {rem : Int} (high : rem < 86400) : (raiseRem days rem).2 < 86400 := by
  fun_induction raiseRem days rem with
  | case1 days rem negative ih =>
    apply ih
    simp only [secsPerDay, secsPerHour]
    omega
  | case2 days rem enough => exact high

/-- The first two loops find the day and the second of the day. -/
theorem dayAndRemChecked_eq {t : Int} {rounds : Nat} (enough : 2 ≤ rounds)
    (low : -0x80000000 ≤ t) (high : t < 0x80000000) :
    dayAndRemChecked rounds t 0 = some (dayAndRem t) := by
  have parts := Int.tmod_add_mul_tdiv t 86400
  have remLow := Int.lt_tmod_of_pos t (show (0 : Int) < 86400 by decide)
  have remHigh := Int.tmod_lt_of_pos t (show (0 : Int) < 86400 by decide)
  have size : secsPerDay = 86400 := rfl
  have less := raiseRem_lt (t.tdiv 86400) remHigh
  have raised := raiseRemChecked_eq enough (show -30000 ≤ t.tdiv 86400 by omega) (by omega) remLow
    remHigh
  rw [dayAndRem, long_tmod, dayAndRemChecked, Int.add_zero, size,
    checked_of_mem (by omega) (by omega)]
  simp only [Option.bind_eq_bind, Option.bind_some, raised]
  exact lowerRemChecked_eq (by omega) less

/-- The day of the week of a day that is not far from the epoch. -/
theorem wdayChecked_eq {days : Int} (near : days.natAbs ≤ 25000) :
    wdayChecked days =
      some (if (4 + days).tmod 7 < 0 then (4 + days).tmod 7 + 7 else (4 + days).tmod 7) := by
  have low := Int.lt_tmod_of_pos (4 + days) (show (0 : Int) < 7 by decide)
  rw [wdayChecked, checked_of_mem (by omega) (by omega)]
  simp only [Option.bind_eq_bind, Option.bind_some]
  split
  · exact checked_of_mem (by omega) (by omega)
  · rfl

/-- From a time of 32 bits the checked `offtime` returns what `offtime` computes. -/
theorem offtimeChecked_eq (t : Int32) {rounds : Nat} (enough : enoughRounds ≤ rounds) :
    offtimeChecked rounds t.toInt 0 = some (offtime t.toInt 0) := by
  have low := t.le_toInt
  have high := t.toInt_lt
  unfold enoughRounds at enough
  generalize t.toInt = t at low high
  have start := dayAndRemChecked_eq (show 2 ≤ rounds by omega) low high
  have clock := dayAndRem_spec t
  have near : (dayAndRem t).1.natAbs ≤ 25000 := by omega
  have epoch : daysBeforeYear 1970 = 0 := by decide
  have found := yearLoop_spec (dayAndRem t).1 1970
  have year : yearLoopChecked rounds (dayAndRem t).1 1970 = some (yearLoop (dayAndRem t).1 1970) :=
    yearLoopChecked_eq (by split <;> omega) (by omega) near
  have length := yearLength_le (yearLoop (dayAndRem t).1 1970).2
  have years := year_near (y := (yearLoop (dayAndRem t).1 1970).2) (by omega) (by omega)
  have fields := offtime_fields t
  simp only at fields
  -- the day of the month is the one of the calendar
  obtain ⟨c, valid, number, entry⟩ := offtime_civil t
  rw [fields] at entry ⊢
  have mday := congrArg RtcTime.tmMday entry
  simp only [rtcTimeOf] at mday
  have longest := valid.day_le.trans (monthLength_le c.year c.month)
  rw [offtimeChecked, start]
  simp only [Option.bind_eq_bind, Option.bind_some, wdayChecked_eq near, year]
  rw [checked_of_mem (by omega) (by omega)]
  simp only [Option.bind_some]
  rw [checked_of_mem (by omega) (by omega)]
  simp only [Option.bind_some]
  rw [checked_of_mem (by omega) (by omega)]
  rfl

/-- For every time of 32 bits the loops of `offtime` end, no operation overflows, and the fields
are those of the entry of the calendar for that second. -/
theorem offtime_int32 (t : Int32) :
    ∃ c : Civil, c.Valid ∧ secondNumber c = t.toInt ∧
      ∀ rounds, enoughRounds ≤ rounds → offtimeChecked rounds t.toInt 0 = some (rtcTimeOf c) := by
  obtain ⟨c, valid, number, entry⟩ := offtime_civil t.toInt
  apply Exists.intro c
  apply And.intro valid
  apply And.intro number
  intro rounds enough
  rw [offtimeChecked_eq t enough, entry]

end Fvs318g.Verif.Offtime
