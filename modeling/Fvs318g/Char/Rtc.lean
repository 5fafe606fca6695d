import Fvs318g.Kernel.Base
import Fvs318g.Lib.Register
import Mathlib.Tactic.Linarith

/-!
# The real time clock

The clock of the STR9100 counts seconds, minutes, hours and days in four registers. The driver
keeps the sum of the counters at the last setting and the time that was set, and adds the
difference when it is read; `_mktime` turns a date into seconds and `offtime` turns seconds
into a date. The alarm and the enable bits are in one control register, which
`set_rtc_alm_time`, `mask_rtc_irq_bit` and `set_rtc_irq_bit` write.

`int`, `long` and `time_t` have 32 bits; they are integers here, wrapped where the arithmetic
of the source can leave their range.
-/

namespace Fvs318g.Char

open Kernel Lib

/-- A value as a signed number of 32 bits. -/
def long (x : Int) : Int := x.bmod 0x100000000

/-- Values in the range are kept. -/
theorem long_of_mem {x : Int} (low : -0x80000000 ≤ x) (high : x < 0x80000000) : long x = x :=
  Int.bmod_eq_of_le low high

/-- `struct rtc_time` without `tm_isdst`, which the driver does not use. -/
structure RtcTime where
  /-- Second. -/
  tmSec : Int
  /-- Minute. -/
  tmMin : Int
  /-- Hour. -/
  tmHour : Int
  /-- Day of the month, from 1. -/
  tmMday : Int
  /-- Month, from 0. -/
  tmMon : Int
  /-- Years since 1900. -/
  tmYear : Int
  /-- Day of the week. -/
  tmWday : Int
  /-- Day of the year. -/
  tmYday : Int
  deriving DecidableEq, Repr

/-- `__isleap`. -/
def isleap (year : Int) : Bool := year % 4 == 0 && (year % 100 != 0 || year % 400 == 0)

/-- `days_in_mo`. -/
def daysInMo : List Nat := [0, 31, 28, 31, 30, 31, 30, 31, 31, 30, 31, 30, 31]

/-- `__mon_yday`. -/
def monYday : Bool → List Nat
  | false => [0, 31, 59, 90, 120, 151, 181, 212, 243, 273, 304, 334, 365]
  | true => [0, 31, 60, 91, 121, 152, 182, 213, 244, 274, 305, 335, 366]

/-! ## Seconds to a date -/

/-- `SECS_PER_HOUR`. -/
def secsPerHour : Int := 60 * 60

/-- `SECS_PER_DAY`. -/
def secsPerDay : Int := secsPerHour * 24

/-- The first loop of `offtime`: whole days are borrowed while the remainder is negative. -/
def raiseRem (days rem : Int) : Int × Int :=
  if rem < 0 then raiseRem (days - 1) (rem + secsPerDay) else (days, rem)
termination_by (-rem).toNat
decreasing_by
  simp only [secsPerDay, secsPerHour]
  omega

/-- The second loop of `offtime`: whole days are carried out of the remainder. -/
def lowerRem (days rem : Int) : Int × Int :=
  if secsPerDay ≤ rem then lowerRem (days + 1) (rem - secsPerDay) else (days, rem)
termination_by rem.toNat
decreasing_by
  simp only [secsPerDay, secsPerHour] at *
  omega

/-- `DIV`. -/
def div (a b : Int) : Int := a.tdiv b - (if a.tmod b < 0 then 1 else 0)

/-- `LEAPS_THRU_END_OF`. -/
def leapsThruEndOf (y : Int) : Int := div y 4 - div y 100 + div y 400

/-- The condition of the year loop: the days are not inside the year. -/
def outsideYear (days y : Int) : Bool := days < 0 || days ≥ (if isleap y then 366 else 365)

/-- The year that the loop tries next. -/
def yearGuess (days y : Int) : Int := y + days.tdiv 365 - (if days.tmod 365 < 0 then 1 else 0)

/-- The days that are left in that year. -/
def daysLeft (days y : Int) : Int :=
  let yg := yearGuess days y
  days - ((yg - y) * 365 + leapsThruEndOf (yg - 1) - leapsThruEndOf (y - 1))

/-- Rounding towards zero with the correction of `DIV` rounds down. -/
theorem div_eq (a : Int) {b : Int} (positive : 0 < b) : div a b = a / b := by
  have low := Int.emod_nonneg a (Int.ne_of_gt positive)
  have high := Int.emod_lt_of_pos a positive
  rw [div, Int.tdiv_eq_ediv, Int.tmod_eq_emod]
  by_cases exact_ : 0 ≤ a ∨ b ∣ a
  · rw [if_pos exact_, if_pos exact_, if_neg (by omega)]
    omega
  · rw [if_neg exact_, if_neg exact_, if_pos (by omega), Int.sign_eq_one_of_pos positive]
    omega

/-- The loop tries the year that the days reach with years of 365 days. -/
theorem yearGuess_eq (days y : Int) : yearGuess days y = y + days / 365 := by
  have step := div_eq days (b := 365) (by decide)
  unfold div at step
  unfold yearGuess
  omega

/-- Leap years are counted down from the multiples of 4, 100 and 400. -/
theorem leapsThruEndOf_eq (y : Int) : leapsThruEndOf y = y / 4 - y / 100 + y / 400 := by
  rw [leapsThruEndOf, div_eq y (by decide), div_eq y (by decide), div_eq y (by decide)]

/-- What is left of the days when the years in between have been taken off. -/
theorem daysLeft_eq (days y : Int) :
    daysLeft days y = days % 365 -
      (leapsThruEndOf (y + days / 365 - 1) - leapsThruEndOf (y - 1)) := by
  rw [daysLeft, yearGuess_eq]
  omega

/-- At most every fourth year is a leap year. -/
theorem leaps_between (y : Int) {n : Int} (forward : 0 ≤ n) :
    0 ≤ leapsThruEndOf (y + n) - leapsThruEndOf y ∧
      4 * (leapsThruEndOf (y + n) - leapsThruEndOf y) ≤ n + 3 := by
  rw [leapsThruEndOf_eq, leapsThruEndOf_eq]
  omega

/-- One year later there is one more leap year if the year is one. -/
theorem leaps_step (y : Int) :
    leapsThruEndOf y - leapsThruEndOf (y - 1) = if isleap y then 1 else 0 := by
  rw [leapsThruEndOf_eq, leapsThruEndOf_eq]
  by_cases leap : isleap y = true
  · rw [if_pos leap]
    simp only [isleap, Bool.and_eq_true, Bool.or_eq_true, beq_iff_eq, bne_iff_ne] at leap
    omega
  · rw [if_neg leap]
    simp only [isleap, Bool.and_eq_true, Bool.or_eq_true, beq_iff_eq, bne_iff_ne] at leap
    omega

/-- Outside the year on either side. -/
theorem outsideYear_iff (days y : Int) :
    outsideYear days y = true ↔ days < 0 ∨ 365 + (if isleap y then 1 else 0) ≤ days := by
  unfold outsideYear
  by_cases leap : isleap y = true
  · simp [leap]
  · simp [leap]

/-- The loop comes closer to the year, or is there. -/
theorem daysLeft_closer {days y : Int} (outside : outsideYear days y = true)
    (again : outsideYear (daysLeft days y) (yearGuess days y) = true) :
    (daysLeft days y).natAbs < days.natAbs := by
  have left := daysLeft_eq days y
  have far := (outsideYear_iff days y).mp outside
  rw [outsideYear_iff, yearGuess_eq] at again
  by_cases before : days < 0
  · -- from a later year: the years in between are counted from the guess
    have count := leaps_between (y + days / 365 - 1) (n := -(days / 365)) (by omega)
    have back : y + days / 365 - 1 + -(days / 365) = y - 1 := by omega
    rw [back] at count
    by_cases one : days / 365 = -1
    · -- the year before: the guess is right
      have step := leaps_step (y + days / 365)
      rw [one] at step left again count
      have same : y + -1 = y - 1 := by omega
      rw [same] at step left again count
      omega
    · omega
  · have count := leaps_between (y - 1) (n := days / 365) (by omega)
    have forth : y - 1 + days / 365 = y + days / 365 - 1 := by omega
    rw [forth] at count
    omega

/-- The year loop of `offtime`. -/
def yearLoop (days y : Int) : Int × Int :=
  if outsideYear days y then yearLoop (daysLeft days y) (yearGuess days y) else (days, y)
termination_by if outsideYear days y then days.natAbs + 1 else 0
decreasing_by
  rename_i outside
  rw [if_pos outside]
  split
  · next again => exact Nat.succ_lt_succ (daysLeft_closer outside again)
  · exact Nat.succ_pos _

/-- The search of the month, downwards from `y`. -/
def monthSearch (ip : List Nat) (days : Int) : Nat → Nat
  | 0 => 0
  | y + 1 => if days < ip.getD (y + 1) 0 then monthSearch ip days y else y + 1

/-- `offtime`. `tm_year` has the width of `y`, so the check behind its assignment passes. -/
def offtime (t offset : Int) : RtcTime :=
  let (days, rem) := raiseRem (t.tdiv secsPerDay) (long (t.tmod secsPerDay + offset))
  let (days, rem) := lowerRem days rem
  let tmHour := rem.tdiv secsPerHour
  let rem := rem.tmod secsPerHour
  let wday := (4 + days).tmod 7
  let (days, y) := yearLoop days 1970
  let ip := monYday (isleap y)
  let mon := monthSearch ip days 11
  { tmSec := rem.tmod 60
    tmMin := rem.tdiv 60
    tmHour := tmHour
    tmMday := days - ip.getD mon 0 + 1
    tmMon := mon
    tmYear := y - 1900
    tmWday := if wday < 0 then wday + 7 else wday
    tmYday := days }

/-! ## A date to seconds -/

/-- Leap days up to the start of a year, by the shifts of `ydhms_tm_diff`. -/
def leapDays (year : Int) : Int :=
  let a4 := Int.shiftRight year 2 + 475 - (if year % 4 = 0 then 1 else 0)
  let a100 := div a4 25
  let a400 := Int.shiftRight a100 2
  a4 - a100 + a400

/-- `ydhms_tm_diff` against midnight of 1 January of the year `from_`. -/
def ydhmsTmDiff (year yday hour min sec from_ : Int) : Int :=
  let interveningLeapDays := leapDays year - leapDays from_
  let days := 365 * (year - from_) + interveningLeapDays + yday
  long (60 * (60 * (24 * days + hour) + min) + sec)

/-- `_mktime`. -/
def mktime (tp : RtcTime) : Int :=
  let monRemainder := tp.tmMon.tmod 12
  let negative : Int := if monRemainder < 0 then 1 else 0
  let year := long (tp.tmYear + (tp.tmMon.tdiv 12 - negative))
  let start := (monYday (isleap (year + 1900))).getD (monRemainder + 12 * negative).toNat 0
  let yday := long (start + tp.tmMday - 1)
  if year < 69 then -1
  else
    let t := ydhmsTmDiff year yday tp.tmHour tp.tmMin tp.tmSec 70
    if year = 69 ∧ (t < 0 ∨ t > 2 * 24 * 60 * 60) then -1 else t

/-! ## The driver -/

/-- What the counter registers show. -/
structure RtcCounters where
  /-- `RTC_SECOND_REG`. -/
  second : Word
  /-- `RTC_MINUTE_REG`. -/
  minute : Word
  /-- `RTC_HOUR_REG`. -/
  hour : Word
  /-- `RTC_DAY_REG`. -/
  day : Word
  deriving DecidableEq, Repr

/-- The sum of the counters in seconds. -/
def RtcCounters.seconds (c : RtcCounters) : Word :=
  c.second + c.minute * 60 + c.hour * 60 * 60 + c.day * 60 * 60 * 24

/-- One second passes: the counters carry into each other. -/
def RtcCounters.tick (c : RtcCounters) : RtcCounters :=
  if c.second ≠ 59 then { c with second := c.second + 1 }
  else if c.minute ≠ 59 then { c with second := 0, minute := c.minute + 1 }
  else if c.hour ≠ 23 then { c with second := 0, minute := 0, hour := c.hour + 1 }
  else { second := 0, minute := 0, hour := 0, day := c.day + 1 }

/-- The state of the driver and the registers that it writes. -/
structure RtcState where
  /-- `RTC_CONTROL_REG`. -/
  control : Word
  /-- `RTC_ALARM_SECOND_REG`. -/
  alarmSecond : Word
  /-- `RTC_ALARM_MINUTE_REG`. -/
  alarmMinute : Word
  /-- `RTC_ALARM_HOUR_REG`. -/
  alarmHour : Word
  /-- `local_rtc_offset`: the counters at the last setting. -/
  localRtcOffset : Word
  /-- `set_rtc_offset`: the time that was set. -/
  setRtcOffset : Word
  /-- `old_time` of `get_rtc_time`. -/
  oldTime : Int
  /-- `rtc_interrupt_flag`. -/
  rtcInterruptFlag : Word
  /-- The interrupt controller passes the interrupt of the clock on. -/
  intcEnabled : Bool
  /-- `rtc_lock` is held. -/
  rtcLock : Bool
  deriving DecidableEq, Repr

/-- The error numbers of the driver. -/
def eperm : Int := -1

/-- `-EAGAIN`. -/
def eagain : Int := -11

/-- `-ERESTARTSYS`. -/
def erestartsys : Int := -512

/-- What `get_rtc_time` delivers: the date, and the divisor of the throughput message if it is
printed. A zero divisor makes the division routine print a message and go on. -/
structure RtcReading where
  /-- The date that is filled in. -/
  tm : RtcTime
  /-- The divisor of the message. -/
  divisor : Option Int
  deriving DecidableEq, Repr

/-- `get_rtc_time`, with what the reads of the counters return; `epoch` is 1900. -/
def getRtcTime (counters : RtcCounters) (s : RtcState) : RtcReading × RtcState :=
  let updateTime := (counters.seconds - s.localRtcOffset + s.setRtcOffset).toInt
  let divisor := if s.oldTime > 0 then some (long (updateTime - s.oldTime)) else none
  let tm := offtime updateTime 0
  let tm := if tm.tmYear ≤ 69 then { tm with tmYear := tm.tmYear + 100 } else tm
  (⟨tm, divisor⟩, { s with oldTime := updateTime, rtcLock := false })

/-- The checks of `set_rtc_time`, on its unsigned copies of the fields. -/
def rtcTimeRefused (tm : RtcTime) : Bool :=
  let yrs := ((tm.tmYear + 1900) % 0x100000000).toNat
  let mon := ((tm.tmMon + 1) % 256).toNat
  let day := (tm.tmMday % 256).toNat
  let hrs := (tm.tmHour % 256).toNat
  let min := (tm.tmMin % 256).toNat
  let sec := (tm.tmSec % 256).toNat
  let leapYr := yrs % 4 == 0 && yrs % 100 != 0 || yrs % 400 == 0
  yrs < 1970 || (mon > 12 || day == 0) ||
    day > daysInMo.getD mon 0 + (if mon == 2 && leapYr then 1 else 0) ||
    (hrs ≥ 24 || min ≥ 60 || sec ≥ 60) || yrs - 1900 > 255

/-- `set_rtc_time`, with what the reads of the counters return. The error exits leave
`rtc_lock` held. -/
def setRtcTime (counters : RtcCounters) (tm : RtcTime) (s : RtcState) : Int × RtcState :=
  if rtcTimeRefused tm then (-einval, { s with rtcLock := true })
  else
    (0, { s with
      localRtcOffset := counters.seconds
      setRtcOffset := BitVec.ofInt 32 (mktime tm)
      rtcLock := false })

/-! ## The alarm and the control register -/

/-- `RTC_ENABLE_BIT`. -/
def rtcEnableBit : Word := 1 <<< 0

/-- `RTC_MATCH_ALARM_ENABLE_BIT`. -/
def rtcMatchAlarmEnableBit : Word := 1 <<< 5

/-- `RTC_MATCH_ALARM_INTERRUPT_BIT`. -/
def rtcMatchAlarmInterruptBit : Word := 1 <<< 4

/-- `RTC_INTR_ALARM`. -/
def rtcIntrAlarm : BitVec 8 := 0x20

/-- `set_rtc_alm_time`. -/
def setRtcAlmTime (almTm : RtcTime) (s : RtcState) : RtcState :=
  let almSec := ((almTm.tmHour * 3600 + almTm.tmMin * 60 + almTm.tmSec) % 0x100000000).toNat
  let hrs := BitVec.ofNat 8 (almSec / 3600)
  let min := BitVec.ofNat 8 (almSec % 3600 / 60)
  let sec := BitVec.ofNat 8 (almSec % 3600 % 60)
  { s with
    alarmHour := hrs.setWidth 32
    alarmMinute := min.setWidth 32
    alarmSecond := sec.setWidth 32
    control := rtcMatchAlarmEnableBit
    rtcLock := false }

/-- `mask_rtc_irq_bit`; the value goes through an `unsigned char`. -/
def maskRtcIrqBit (bit : BitVec 8) (s : RtcState) : RtcState :=
  let val := s.control.setWidth 8 &&& ~~~bit
  { s with control := val.setWidth 32, rtcLock := false }

/-- `set_rtc_irq_bit`; the value goes through an `unsigned char`. -/
def setRtcIrqBit (bit : BitVec 8) (s : RtcState) : RtcState :=
  let val := s.control.setWidth 8 ||| bit
  { s with control := val.setWidth 32, rtcLock := false }

/-- `get_rtc_alm_time`, into a cleared structure. -/
def getRtcAlmTime (s : RtcState) : RtcTime × RtcState :=
  (⟨s.alarmSecond.toInt, s.alarmMinute.toInt, s.alarmHour.toInt, 0, 0, 0, 0, 0⟩,
    { s with rtcLock := false })

/-- The commands that `rtc_ioctl` tells apart. -/
inductive RtcCmd where
  | rdTime
  | setTime
  | almSet
  | almRead
  | aieOff
  | aieOn
  | other
  deriving DecidableEq, Repr

/-- What a call of `rtc_ioctl` meets. -/
structure IoctlArg where
  /-- `capable(CAP_SYS_TIME)`. -/
  capable : Bool
  /-- What `copy_from_user` delivers, or nothing if it faults. -/
  fromUser : Option RtcTime
  /-- `copy_to_user` faults. -/
  toUserFaults : Bool
  /-- What the reads of the counters return. -/
  counters : RtcCounters
  deriving DecidableEq, Repr

/-- `rtc_ioctl`: the return value, what is copied to the caller, and the state behind it. -/
def rtcIoctl (cmd : RtcCmd) (arg : IoctlArg) (s : RtcState) : Int × Option RtcTime × RtcState :=
  let copyToUser (wtime : RtcTime) (s : RtcState) :=
    if arg.toUserFaults then (-efault, none, s) else (0, some wtime, s)
  match cmd with
  | .rdTime =>
    let (reading, s) := getRtcTime arg.counters s
    copyToUser reading.tm s
  | .setTime =>
    if !arg.capable then (eperm, none, s)
    else match arg.fromUser with
      | none => (-efault, none, s)
      | some rtcTm => (0, none, (setRtcTime arg.counters rtcTm s).2)
  | .almSet =>
    match arg.fromUser with
    | none => (-efault, none, s)
    | some almTm => (0, none, setRtcAlmTime almTm s)
  | .almRead =>
    let (wtime, s) := getRtcAlmTime s
    copyToUser wtime s
  | .aieOff => (0, none, maskRtcIrqBit rtcIntrAlarm s)
  | .aieOn => (0, none, setRtcIrqBit rtcIntrAlarm s)
  | .other => (-einval, none, s)

/-- One cause of the interrupt is noted. -/
def noteCause (status flag bit : Word) : Word :=
  if status &&& bit ≠ 0 then flag ||| bit else flag

/-- `rtc_fire`, with the interrupt status that it reads. The causes are the four periodic
alarms, the match alarm and the low battery. -/
def rtcFire (status : Word) (s : RtcState) : RtcState :=
  let causes : List Word := [1 <<< 0, 1 <<< 1, 1 <<< 2, 1 <<< 3, 1 <<< 4, 1 <<< 5]
  let flag := causes.foldl (noteCause status) s.rtcInterruptFlag
  { s with
    rtcInterruptFlag := flag
    intcEnabled := decide (flag &&& rtcMatchAlarmInterruptBit = 0) }

/-- What a pass of the loop of `rtc_read` meets. -/
structure ReadArg where
  /-- `count`. -/
  count : Nat
  /-- `O_NONBLOCK` is set. -/
  nonblock : Bool
  /-- `signal_pending`. -/
  signal : Bool
  /-- What `put_user` returns. -/
  putUser : Int
  deriving DecidableEq, Repr

/-- `rtc_read` up to its end or to the next `schedule`. No value stands for a caller that goes
to sleep; it makes another pass when it wakes up. -/
def rtcRead (arg : ReadArg) (s : RtcState) : Option Int × RtcState :=
  if arg.count < 4 then (some (-einval), s)
  else
    let data := s.rtcInterruptFlag
    if data ≠ 0 then
      let retval := if arg.putUser = 0 then 4 else arg.putUser
      (some retval, maskRtcIrqBit rtcIntrAlarm { s with rtcInterruptFlag := 0 })
    else if arg.nonblock then (some eagain, maskRtcIrqBit rtcIntrAlarm s)
    else if arg.signal then (some erestartsys, maskRtcIrqBit rtcIntrAlarm s)
    else (none, { s with rtcLock := false })

/-- `rtc_str9100_hwinit`. -/
def rtcStr9100Hwinit (ctrl hour min sec : Word) (s : RtcState) : RtcState :=
  let s := { s with control := s.control &&& ~~~rtcEnableBit }
  let s :=
    if ctrl &&& rtcMatchAlarmEnableBit ≠ 0 then
      { s with alarmSecond := sec, alarmMinute := min, alarmHour := hour }
    else { s with alarmSecond := 0, alarmMinute := 0, alarmHour := 0 }
  { s with control := ctrl }

/-- `str9100_rtc_init`, with what `misc_register` returns. -/
def str9100RtcInit (error : Int) (s : RtcState) : Int × RtcState :=
  if error ≠ 0 then (error, s)
  else
    let s := rtcStr9100Hwinit 0 0 0 0 s
    let s := { s with control := s.control ||| rtcEnableBit }
    (0, { s with localRtcOffset := 0, setRtcOffset := 0 })

end Fvs318g.Char
