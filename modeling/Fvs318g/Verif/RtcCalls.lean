import Fvs318g.Verif.RtcTime
import Fvs318g.Lib.System

/-!
# Calls of the clock

What is wrong with single calls and with sequences of them. `set_rtc_time` checks copies of the
fields that are cut to eight bits, accepts years that the 32-bit time does not reach, and returns
an error with the lock held. `get_rtc_time` divides by the difference to the last reading, which
is zero for two readings in one second, and reads the four counters one after the other, so that
a carry in between is counted in the later one only.
-/

namespace Fvs318g.Verif.RtcCalls

open Lib Lib.Calendar Fvs318g.Char RtcTime

/-! ## Setting -/

/-- The fields form a valid date and time that fits into the 32-bit time. -/
def FitsTime (tm : RtcTime) : Prop :=
  ∃ d : Civil, d.Valid ∧ Requests tm d ∧ -0x80000000 ≤ secondNumber d ∧ secondNumber d < 0x80000000

/-- A call that returns 0 was given a date that fits, one that fails keeps the stored offsets, and
the lock is released. -/
structure SetsCleanly (counters : RtcCounters) (tm : RtcTime) (s : RtcState) : Prop where
  /-- Only dates that fit are accepted. -/
  checked : (setRtcTime counters tm s).1 = 0 → FitsTime tm
  /-- An error changes no offset. -/
  kept : (setRtcTime counters tm s).1 ≠ 0 →
    (setRtcTime counters tm s).2.localRtcOffset = s.localRtcOffset ∧
      (setRtcTime counters tm s).2.setRtcOffset = s.setRtcOffset
  /-- The lock is released. -/
  released : (setRtcTime counters tm s).2.rtcLock = false

/-- A refused call. -/
theorem setRtcTime_refused (counters : RtcCounters) {tm : RtcTime} (s : RtcState)
    (refused : rtcTimeRefused tm = true) :
    setRtcTime counters tm s = (-Kernel.einval, { s with rtcLock := true }) := by
  rw [setRtcTime, refused, if_pos rfl]

/-- An accepted call. -/
theorem setRtcTime_accepted (counters : RtcCounters) {tm : RtcTime} (s : RtcState)
    (accepted : rtcTimeRefused tm = false) :
    setRtcTime counters tm s = (0, { s with
      localRtcOffset := counters.seconds
      setRtcOffset := BitVec.ofInt 32 (mktime tm)
      rtcLock := false }) := by
  rw [setRtcTime, accepted, if_neg Bool.false_ne_true]

/-- A date in the 32-bit time is not before 1901. -/
theorem year_ge_of_fits {d : Civil} (valid : d.Valid) (low : -0x80000000 ≤ secondNumber d) :
    1901 ≤ d.year := by
  have start : daysBeforeYear 1901 = -25202 := by decide
  -- the earliest time lies in December 1901
  apply year_ge_of_secondNumber valid
  omega

/-- Years before 1970 are refused. -/
theorem rtcTimeRefused_early {tm : RtcTime} {d : Civil} (asked : Requests tm d)
    (positive : 0 ≤ d.year) (early : d.year < 1970) : rtcTimeRefused tm = true := by
  have yrs : ((tm.tmYear + 1900) % 0x100000000).toNat < 1970 := by
    rw [asked.year]
    omega
  simp only [rtcTimeRefused, yrs, decide_true, Bool.true_or]

/-- A call is clean exactly for a valid date from 1970 on that the 32-bit time reaches. -/
theorem setRtcTime_clean_iff (counters : RtcCounters) (tm : RtcTime) (s : RtcState) :
    SetsCleanly counters tm s ↔
      ∃ d : Civil, d.Valid ∧ Requests tm d ∧ 1970 ≤ d.year ∧ secondNumber d < 0x80000000 := by
  constructor
  · intro clean
    cases refused : rtcTimeRefused tm with
    | true =>
      have released := clean.released
      rw [setRtcTime_refused counters s refused] at released
      exact absurd released.symm Bool.false_ne_true
    | false =>
      have returned : (setRtcTime counters tm s).1 = 0 := by
        rw [setRtcTime_accepted counters s refused]
      obtain ⟨d, valid, asked, low, high⟩ := clean.checked returned
      refine ⟨d, valid, asked, ?_, high⟩
      by_contra early
      have year := year_ge_of_fits valid low
      have early := rtcTimeRefused_early asked (by omega) (Int.lt_of_not_ge early)
      exact absurd (refused.symm.trans early) Bool.false_ne_true
  · rintro ⟨d, valid, asked, start, high⟩
    have bounds := year_bounds valid start high
    have accepted := rtcTimeRefused_valid valid start (by omega) asked
    have call := setRtcTime_accepted counters s accepted
    refine ⟨fun _ => ⟨d, valid, asked, by omega, high⟩, fun failed => ?_, ?_⟩
    · rw [call] at failed
      exact absurd rfl failed
    · rw [call]

/-- Hour 24 is refused, and the lock is held behind the call. -/
theorem setRtcTime_hour24 :
    (setRtcTime ⟨0, 0, 0, 0⟩ ⟨0, 0, 24, 1, 0, 100, 0, 0⟩
      ⟨1, 0, 0, 0, 0, 0, 0, 0, true, false⟩).1 = -Kernel.einval ∧
    ¬ SetsCleanly ⟨0, 0, 0, 0⟩ ⟨0, 0, 24, 1, 0, 100, 0, 0⟩
      ⟨1, 0, 0, 0, 0, 0, 0, 0, true, false⟩ := by
  refine ⟨by decide, fun clean => ?_⟩
  exact absurd clean.released (by decide)

-- Hour 256 is accepted, because the check sees only its low byte.
example : (setRtcTime ⟨0, 0, 0, 0⟩ ⟨0, 0, 256, 1, 0, 100, 0, 0⟩
    ⟨1, 0, 0, 0, 0, 0, 0, 0, true, false⟩).1 = 0 := by
  decide

/-! ## Readings one after the other -/

/-- What happens to the clock between its calls, and the calls. -/
inductive ClockEvent where
  /-- The counters count `k` seconds. -/
  | pass (k : Nat)
  /-- `get_rtc_time`. -/
  | get
  /-- `set_rtc_time`. -/
  | set (tm : RtcTime)

/-- What has happened since the last reading. -/
inductive Since where
  /-- There was no reading yet. -/
  | never
  /-- `k` seconds have passed since the last reading. -/
  | reading (k : Nat)
  /-- The clock has been set since the last reading, and `k` seconds have passed since then. -/
  | setting (tm : RtcTime) (k : Nat)

/-- The counters, the driver and the history. -/
structure ClockRun where
  /-- The counter registers. -/
  counters : RtcCounters
  /-- The variables of the driver. -/
  driver : RtcState
  /-- What has happened since the last reading. -/
  since : Since

/-- More seconds have passed. -/
def Since.pass (k : Nat) : Since → Since
  | .never => .never
  | .reading j => .reading (j + k)
  | .setting tm j => .setting tm (j + k)

/-- The clock has been set. -/
def Since.set (tm : RtcTime) : Since → Since
  | .never => .never
  | _ => .setting tm 0

/-- The state behind an event. A refused setting leaves the history. -/
def ClockRun.step (r : ClockRun) : ClockEvent → ClockRun
  | .pass k => { r with counters := RtcCounters.tick^[k] r.counters, since := r.since.pass k }
  | .get => { r with driver := (getRtcTime r.counters r.driver).2, since := .reading 0 }
  | .set tm =>
    { r with
      driver := (setRtcTime r.counters tm r.driver).2
      since := if rtcTimeRefused tm then r.since else r.since.set tm }

/-- The driver has been loaded: `old_time` starts at 0. -/
def clockStart (counters : RtcCounters) (s : RtcState) : ClockRun :=
  ⟨counters, { s with oldTime := 0 }, .never⟩

/-- A reading does not divide by zero. -/
def NoZeroDivisor (r : ClockRun) : ClockEvent → Prop
  | .get => (getRtcTime r.counters r.driver).1.divisor ≠ some 0
  | _ => True

/-- What a reading needs: there was none before or it gave no positive time, or the clock has moved
away from it since: by seconds that passed, or by a setting and the seconds since then. -/
def Moved (r : ClockRun) : ClockEvent → Prop
  | .get =>
    match r.since with
    | .never => True
    | .reading k => r.driver.oldTime ≤ 0 ∨ k % 0x100000000 ≠ 0
    | .setting tm k =>
      r.driver.oldTime ≤ 0 ∨ (mktime tm + k - r.driver.oldTime) % 0x100000000 ≠ 0
  | _ => True

/-- The time that the clock shows. -/
def ClockRun.shown (r : ClockRun) : Word :=
  r.counters.seconds - r.driver.localRtcOffset + r.driver.setRtcOffset

/-- The history tells what the clock shows. -/
def HistoryOk (r : ClockRun) : Prop :=
  match r.since with
  | .never => r.driver.oldTime = 0
  | .reading k => r.shown = BitVec.ofInt 32 (r.driver.oldTime + k)
  | .setting tm k => r.shown = BitVec.ofInt 32 (mktime tm + k)

/-- Seconds that pass are shown. -/
theorem shown_pass (r : ClockRun) (k : Nat) :
    (r.step (.pass k)).shown = r.shown + BitVec.ofNat 32 k := by
  have advanced : (RtcCounters.tick^[k] r.counters).seconds =
      r.counters.seconds + BitVec.ofNat 32 k := advanced_ticks r.counters k
  simp only [ClockRun.shown, ClockRun.step, advanced]
  bv_omega

/-- A count that is moved on. -/
theorem ofInt_add_count (n : Int) (j k : Nat) :
    BitVec.ofInt 32 (n + j) + BitVec.ofNat 32 k = BitVec.ofInt 32 (n + (j + k : Nat)) := by
  rw [← BitVec.ofInt_natCast, ← BitVec.ofInt_add, Int.natCast_add, Int.add_assoc]

/-- Every event keeps the history right. -/
theorem historyOk_step (r : ClockRun) (e : ClockEvent) (ok : HistoryOk r) :
    HistoryOk (r.step e) := by
  cases e with
  | pass k =>
    have moved := shown_pass r k
    unfold HistoryOk at ok ⊢
    cases history : r.since with
    | never =>
      rw [history] at ok
      simp only [ClockRun.step, history, Since.pass]
      exact ok
    | reading j =>
      rw [history] at ok
      rw [show (r.step (.pass k)).since = .reading (j + k) by
        simp only [ClockRun.step, history, Since.pass]]
      rw [moved, ok, ofInt_add_count]
      rfl
    | setting tm j =>
      rw [history] at ok
      rw [show (r.step (.pass k)).since = .setting tm (j + k) by
        simp only [ClockRun.step, history, Since.pass]]
      rw [moved, ok, ofInt_add_count]
  | get =>
    have same : (r.step .get).shown = r.shown := rfl
    have read : (r.step .get).driver.oldTime = r.shown.toInt := rfl
    change (r.step .get).shown = BitVec.ofInt 32 ((r.step .get).driver.oldTime + (0 : Nat))
    rw [same, read, Int.natCast_zero, Int.add_zero, BitVec.ofInt_toInt]
  | set tm =>
    cases refused : rtcTimeRefused tm with
    | true =>
      have same : r.step (.set tm) = { r with driver := { r.driver with rtcLock := true } } := by
        simp only [ClockRun.step, setRtcTime_refused r.counters r.driver refused, refused, if_true]
      rw [same]
      exact ok
    | false =>
      have call := setRtcTime_accepted r.counters r.driver refused
      have shown : (r.step (.set tm)).shown = BitVec.ofInt 32 (mktime tm + (0 : Nat)) := by
        simp only [ClockRun.shown, ClockRun.step, call]
        rw [BitVec.sub_self, BitVec.zero_add, Int.natCast_zero, Int.add_zero]
      have since : (r.step (.set tm)).since = r.since.set tm := by
        simp only [ClockRun.step, refused, Bool.false_eq_true, if_false]
      unfold HistoryOk at ok ⊢
      cases history : r.since with
      | never =>
        rw [history] at ok
        simp only [since, history, Since.set]
        simp only [ClockRun.step, call]
        exact ok
      | reading j =>
        simp only [since, history, Since.set]
        exact shown
      | setting tm' j =>
        simp only [since, history, Since.set]
        exact shown

/-- A 32-bit difference is zero when it is a multiple of the modulus. -/
theorem long_eq_zero_iff (x : Int) : long x = 0 ↔ x % 0x100000000 = 0 := by
  simp only [long, Int.bmod]
  split <;> omega

/-- The divisor that a reading uses, when the clock shows `n`. -/
theorem divisor_eq_zero_iff {r : ClockRun} {n : Int} (shown : r.shown = BitVec.ofInt 32 n) :
    (getRtcTime r.counters r.driver).1.divisor = some 0 ↔
      0 < r.driver.oldTime ∧ (n - r.driver.oldTime) % 0x100000000 = 0 := by
  have divisor : (getRtcTime r.counters r.driver).1.divisor =
      if r.driver.oldTime > 0 then some (long (r.shown.toInt - r.driver.oldTime)) else none := rfl
  have wrapped : r.shown.toInt % 0x100000000 = n % 0x100000000 := by
    rw [shown, BitVec.toInt_ofInt]
    exact Int.bmod_emod
  rw [divisor]
  by_cases positive : r.driver.oldTime > 0
  · rw [if_pos positive, Option.some.injEq, long_eq_zero_iff]
    omega
  · rw [if_neg positive]
    exact iff_of_false (Option.some_ne_none _).symm fun both => positive both.1

/-- With a right history, a reading divides by zero exactly if the clock has not moved. -/
theorem noZeroDivisor_iff (r : ClockRun) (e : ClockEvent) (ok : HistoryOk r) :
    NoZeroDivisor r e ↔ Moved r e := by
  cases e with
  | pass k => exact Iff.rfl
  | set tm => exact Iff.rfl
  | get =>
    simp only [NoZeroDivisor, Moved, ne_eq]
    unfold HistoryOk at ok
    cases history : r.since with
    | never =>
      rw [history] at ok
      rw [divisor_eq_zero_iff (BitVec.ofInt_toInt).symm, ok]
      exact iff_of_true (fun both => absurd both.1 (by decide)) trivial
    | reading k =>
      rw [history] at ok
      rw [divisor_eq_zero_iff ok]
      omega
    | setting tm k =>
      rw [history] at ok
      rw [divisor_eq_zero_iff ok]
      omega

/-- In a sequence of calls no reading divides by zero if and only if the clock has moved before
every reading but the first one. -/
theorem getRtcTime_divisor_iff (counters : RtcCounters) (s : RtcState) (es : List ClockEvent) :
    (∀ done e rest, es = done ++ e :: rest →
      NoZeroDivisor (done.foldl ClockRun.step (clockStart counters s)) e) ↔
    ∀ done e rest, es = done ++ e :: rest →
      Moved (done.foldl ClockRun.step (clockStart counters s)) e := by
  have start : HistoryOk (clockStart counters s) := rfl
  have keep : ∀ r e, HistoryOk r → NoZeroDivisor r e → HistoryOk (r.step e) :=
    fun r e ok _ => historyOk_step r e ok
  exact law_along_iff noZeroDivisor_iff keep es start

/-- Two readings in one second. -/
theorem getRtcTime_divisor_zero :
    ¬ NoZeroDivisor ((clockStart ⟨1, 0, 0, 0⟩ ⟨1, 0, 0, 0, 0, 0, 0, 0, true, false⟩).step .get)
      .get := by
  intro nonzero
  exact nonzero (by decide)

/-! ## Counters that move during a reading -/

/-- What the four registers show when `n` seconds have been counted. -/
def countersAt (n : Nat) : RtcCounters where
  second := BitVec.ofNat 32 (n % 60)
  minute := BitVec.ofNat 32 (n / 60 % 60)
  hour := BitVec.ofNat 32 (n / 3600 % 24)
  day := BitVec.ofNat 32 (n / 86400)

section Carries

variable {n second minute hour day : Nat}

end Carries

/-- The four reads of one call, the first one when `t1` seconds have been counted, and the others
when it is `t2`, `t3` and `t4`. -/
def tornCounters (t1 t2 t3 t4 : Nat) : RtcCounters where
  second := (countersAt t1).second
  minute := (countersAt t2).minute
  hour := (countersAt t3).hour
  day := (countersAt t4).day

/-- The reading is the one that some moment between the first read and the last one would give. -/
def Occurred (s : RtcState) (t1 t2 t3 t4 : Nat) : Prop :=
  ∃ t, t1 ≤ t ∧ t ≤ t4 ∧ getRtcTime (tornCounters t1 t2 t3 t4) s = getRtcTime (countersAt t) s

/-- The seconds of the carries that a later read sees and the read before it does not: those of
the minutes between the first two reads, of the hours between the next two and of the days between
the last two. -/
def carries (t1 t2 t3 t4 : Nat) : Nat :=
  60 * (t2 / 60 - t1 / 60) + 3600 * (t3 / 3600 - t2 / 3600) + 86400 * (t4 / 86400 - t3 / 86400)

section Torn

variable {t1 t2 t3 t4 : Nat}

/-- The sum of four registers. -/
theorem seconds_ofNat (second minute hour day : Nat) :
    (⟨BitVec.ofNat 32 second, BitVec.ofNat 32 minute, BitVec.ofNat 32 hour,
      BitVec.ofNat 32 day⟩ : RtcCounters).seconds =
      BitVec.ofNat 32 (second + minute * 60 + hour * 3600 + day * 86400) := by
  simp only [RtcCounters.seconds]
  bv_omega

/-- The sum of the registers is the count. -/
theorem seconds_countersAt (t : Nat) : (countersAt t).seconds = BitVec.ofNat 32 t := by
  rw [countersAt, seconds_ofNat]
  congr 1
  omega

/-- A torn sum runs ahead of the first read by the carries. -/
theorem seconds_tornCounters (first : t1 ≤ t2) (second : t2 ≤ t3) (third : t3 ≤ t4) :
    (tornCounters t1 t2 t3 t4).seconds = BitVec.ofNat 32 (t1 + carries t1 t2 t3 t4) := by
  simp only [tornCounters, countersAt]
  rw [seconds_ofNat]
  congr 1
  unfold carries
  omega

/-- Readings of one state agree when the sums of the counters do. -/
theorem getRtcTime_eq_iff (s : RtcState) (left right : RtcCounters) :
    getRtcTime left s = getRtcTime right s ↔ left.seconds = right.seconds := by
  constructor
  · intro same
    have shown : (left.seconds - s.localRtcOffset + s.setRtcOffset).toInt =
        (right.seconds - s.localRtcOffset + s.setRtcOffset).toInt :=
      congrArg (fun result => result.2.oldTime) same
    have sum := BitVec.eq_of_toInt_eq shown
    bv_omega
  · intro same
    rw [getRtcTime, getRtcTime, same]

end Torn

/-- The reading of a call is a time between its first read and its last one if and only if the
carries do not outrun the seconds that passed, or wrap around. -/
theorem getRtcTime_occurred_iff (s : RtcState) (t1 t2 t3 t4 : Nat) (first : t1 ≤ t2)
    (second : t2 ≤ t3) (third : t3 ≤ t4) :
    Occurred s t1 t2 t3 t4 ↔ carries t1 t2 t3 t4 ≤ t4 - t1 ∨ 0x100000000 ≤ carries t1 t2 t3 t4 := by
  have ahead : carries t1 t2 t3 t4 ≤ t4 - t1 + 90057 := by
    unfold carries
    omega
  have same : ∀ t, getRtcTime (tornCounters t1 t2 t3 t4) s = getRtcTime (countersAt t) s ↔
      (t1 + carries t1 t2 t3 t4) % 0x100000000 = t % 0x100000000 := by
    intro t
    rw [getRtcTime_eq_iff, seconds_tornCounters first second third, seconds_countersAt]
    constructor
    · intro sum
      have parts := congrArg BitVec.toNat sum
      rw [BitVec.toNat_ofNat, BitVec.toNat_ofNat] at parts
      exact parts
    · intro parts
      exact BitVec.eq_of_toNat_eq (by rw [BitVec.toNat_ofNat, BitVec.toNat_ofNat]; exact parts)
  constructor
  · rintro ⟨t, from_, upTo, reading⟩
    rw [same] at reading
    omega
  · rintro (inside | wrapped)
    · exact ⟨t1 + carries t1 t2 t3 t4, by omega, by omega, (same _).mpr rfl⟩
    · refine ⟨t1 + carries t1 t2 t3 t4 - 0x100000000, by omega, by omega, (same _).mpr ?_⟩
      omega

/-- A minute that begins between the first two reads, with as many seconds passed, is read as a
time that occurred. -/
theorem getRtcTime_occurred_minute : carries 0 60 60 60 = 60 ∧
    Occurred ⟨1, 0, 0, 0, 0, 0, 0, 0, true, false⟩ 0 60 60 60 :=
  ⟨by decide,
    (getRtcTime_occurred_iff _ 0 60 60 60 (by decide) (by decide) (by decide)).mpr
      (Or.inl (by decide))⟩

/-- A minute that begins between the first two reads is counted in full. -/
theorem getRtcTime_torn :
    (getRtcTime (tornCounters 59 60 60 60) ⟨1, 0, 0, 0, 0, 0, 0, 0, true, false⟩).2.oldTime = 119 ∧
      ¬ Occurred ⟨1, 0, 0, 0, 0, 0, 0, 0, true, false⟩ 59 60 60 60 := by
  refine ⟨by decide, ?_⟩
  rintro ⟨t, from_, upTo, reading⟩
  rw [getRtcTime_eq_iff, seconds_countersAt,
    seconds_tornCounters (by decide) (by decide) (by decide)] at reading
  have parts := congrArg BitVec.toNat reading
  rw [BitVec.toNat_ofNat, BitVec.toNat_ofNat, show carries 59 60 60 60 = 60 by decide] at parts
  omega

end Fvs318g.Verif.RtcCalls
