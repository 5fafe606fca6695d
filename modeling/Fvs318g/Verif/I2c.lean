import Fvs318g.I2c.Command

/-!
# When the result of an I2C command is to be believed

A result of 0 should mean that the transfer was started on a bus that was seen ready, and that the
controller has reported it done without an error; and such a report in time should give 0. Both
fail on some bus runs: the counter of the wait loop is tested against the wrong value behind the
loop, the sleep is not guarded against a report before it or a signal during it, and two error
codes count as none.
-/

namespace Fvs318g.Verif.I2c

open Fvs318g.Lib Fvs318g.I2c

/-! ## What is asked for -/

/-- A report of an action that is done without a bus error. -/
def Good (r : Report) : Prop := r.status &&& actionDoneFlag ≠ 0 ∧ r.status &&& busErrorFlag = 0

/-- The report came before the timeout. -/
def InTime (r : Report) : Prop := r.cameBy (twiTimeout - 1) = true

/-- The result agrees with what has happened. -/
structure Real (bus : BusRun) (o : Outcome) : Prop where
  /-- Success is returned only for a transfer that was started on a bus that was seen ready, and
  that has been reported done without an error by then. -/
  success : o.ret = 0 → o.seen = true ∧ o.started.isSome = true ∧
    ∃ r ∈ bus.report, r.cameBy o.checked = true ∧ Good r
  /-- Such a transfer that is reported before the timeout is a success. -/
  reported : o.seen = true → o.started.isSome = true → (∃ r ∈ bus.report, InTime r ∧ Good r) →
    o.ret = 0

/-! ## The wait loop -/

/-- A poll before the last one finds the bus ready. -/
def Early (bus : BusRun) : Prop := ∃ k < dispatchRetries, bus.readyAt k = true

/-- Only the last poll finds the bus ready. -/
def Late (bus : BusRun) : Prop := ¬ Early bus ∧ bus.readyAt dispatchRetries = true

/-- No poll finds the bus ready. -/
def Never (bus : BusRun) : Prop := ¬ Early bus ∧ bus.readyAt dispatchRetries = false

variable {bus : BusRun}

/-- A ready bus ends the loop with retries left. -/
theorem pollLoop_early {retries j k : Nat} (early : j < retries)
    (ready : bus.readyAt (k + j) = true) :
    0 < (pollLoop bus retries k).1 ∧ (pollLoop bus retries k).2 = true := by
  induction retries generalizing j k with
  | zero => exact absurd early (Nat.not_lt_zero j)
  | succ retries later =>
    rw [pollLoop]
    by_cases now : bus.readyAt k = true
    · rw [if_pos now]
      exact ⟨Int.natCast_pos.mpr (Nat.succ_pos retries), rfl⟩
    · rw [if_neg now]
      cases j with
      | zero => exact absurd ready now
      | succ j =>
        apply later (j := j) (Nat.lt_of_succ_lt_succ early)
        rw [Nat.add_right_comm]
        exact ready

/-- A busy bus uses up the retries. -/
theorem pollLoop_busy {retries k : Nat} (busy : ∀ j < retries, bus.readyAt (k + j) = false) :
    pollLoop bus retries k = pollLoop bus 0 (k + retries) := by
  induction retries generalizing k with
  | zero => rfl
  | succ retries later =>
    have now : ¬ bus.readyAt k = true := by
      rw [← Nat.add_zero k, busy 0 (Nat.succ_pos retries)]
      exact Bool.false_ne_true
    have round : pollLoop bus (retries + 1) k = pollLoop bus retries (k + 1) := if_neg now
    rw [round, later, Nat.add_right_comm k 1, Nat.add_assoc k]
    intro j inside
    rw [Nat.add_right_comm, Nat.add_assoc]
    exact busy (j + 1) (Nat.succ_lt_succ inside)

/-- The loop when no poll before the last one finds the bus ready. -/
theorem pollLoop_of_not_early (busy : ¬ Early bus) :
    pollLoop bus dispatchRetries 0 = pollLoop bus 0 dispatchRetries := by
  have unready : ∀ j < dispatchRetries, bus.readyAt (0 + j) = false := by
    intro j inside
    rw [Nat.zero_add, ← Bool.not_eq_true]
    exact fun ready => busy ⟨j, inside, ready⟩
  rw [pollLoop_busy unready, Nat.zero_add]

/-- Which transfers are started, and which of them on a bus that was seen ready. -/
theorem dispatch_cases (bus : BusRun) (t : I2cTransfer) :
    Early bus ∧ (halI2cDispatchTransfer bus t).isSome = true ∧
        (pollLoop bus dispatchRetries 0).2 = true ∨
      Late bus ∧ (halI2cDispatchTransfer bus t).isSome = false ∨
      Never bus ∧ (halI2cDispatchTransfer bus t).isSome = true ∧
        (pollLoop bus dispatchRetries 0).2 = false := by
  unfold halI2cDispatchTransfer
  by_cases early : Early bus
  · obtain ⟨k, inside, ready⟩ := id early
    have loop := pollLoop_early (k := 0) inside (by rw [Nat.zero_add]; exact ready)
    rw [if_neg (by omega)]
    exact .inl ⟨early, rfl, loop.2⟩
  · rw [pollLoop_of_not_early early, pollLoop]
    cases last : bus.readyAt dispatchRetries with
    | true => exact .inr (.inl ⟨⟨early, last⟩, rfl⟩)
    | false => exact .inr (.inr ⟨⟨early, last⟩, rfl, rfl⟩)

/-! ## The result -/

/-- No error has been reported by a time that counts as one. -/
def Quiet (bus : BusRun) (started : Bool) (time : Nat) : Prop :=
  ∀ r ∈ bus.reportOf started, r.cameBy time = true → isError (errorCode r.status) = false

variable {t : I2cTransfer} {len : Option Word}

/-- The handler stores the error code. -/
theorem str8100I2cInt_error (status : Word) (t : I2cTransfer) (regs : Registers) :
    (str8100I2cInt status t regs).1.errorStatus = errorCode status := by
  cases error : isError (errorCode status) with
  | false => simp only [str8100I2cInt, error, if_neg Bool.false_ne_true]
  | true => simp only [str8100I2cInt, error, if_true]

/-- The handler does not undo the start. -/
theorem handled_started (started : Option Registers) (time : Nat) :
    (handled bus t started time).2.isSome = started.isSome := by
  unfold handled
  cases started with
  | none => rfl
  | some regs =>
    cases bus.report with
    | none => rfl
    | some r =>
      simp only
      split
      · rfl
      · rfl

/-- The error behind the sleep is the one that was reported by then. -/
theorem handled_error (clean : t.errorStatus = 0) (started : Option Registers) (time : Nat) :
    isError (handled bus t started time).1.errorStatus = false ↔ Quiet bus started.isSome time := by
  have none_ : isError t.errorStatus = false := by
    rw [clean]
    rfl
  unfold handled Quiet BusRun.reportOf
  cases started with
  | none => simp [none_]
  | some regs =>
    cases report : bus.report with
    | none => simp [none_]
    | some r =>
      by_cases came : r.cameBy time = true
      · simp [came, str8100I2cInt_error]
      · simp [came, none_]

/-- A command returns 0 when it resumes before the timeout and finds no error. -/
theorem result_zero_iff (t : I2cTransfer) (timeout : Nat) :
    (result bus t len timeout).1 = 0 ↔ 0 < timeout ∧ isError t.errorStatus = false := by
  unfold result
  by_cases over_ : timeout = 0
  · rw [if_pos over_]
    simp [over_]
  · rw [if_neg over_]
    cases error : isError t.errorStatus with
    | false => simp [Nat.pos_of_ne_zero over_]
    | true =>
      have nonzero := (of_decide_eq_true error).1
      exact iff_of_false nonzero fun both => Bool.false_ne_true both.2.symm

/-- The result of a command by its bus run. -/
theorem command_zero_iff (len : Option Word) (clean : t.errorStatus = 0) {started : Bool}
    (dispatched : (halI2cDispatchTransfer bus t).isSome = started) :
    (command bus t len).ret = 0 ↔
      bus.resumed started < twiTimeout ∧ Quiet bus started (bus.resumed started) := by
  unfold command
  simp only [dispatched, result_zero_iff, handled_error clean, interruptibleSleepOnTimeout,
    Nat.sub_pos_iff_lt]

/-- Whether the caller was started, as the outcome has it. -/
theorem command_started (len : Option Word) {started : Bool}
    (dispatched : (halI2cDispatchTransfer bus t).isSome = started) :
    (command bus t len).started.isSome = started ∧
      (command bus t len).checked = bus.resumed started := by
  unfold command
  simp only [handled_started, dispatched, and_self]

/-! ## Bus runs that mislead -/

/-- A signal wakes the caller up in time to run before the timeout. -/
def Signalled (bus : BusRun) : Prop := ∃ s ∈ bus.signal, s + bus.delay < twiTimeout

/-- The handler does. -/
def Notified (bus : BusRun) : Prop := ∃ r ∈ bus.report, ∃ j ∈ r.wakes, j + bus.delay < twiTimeout

/-- The caller runs before the timeout. -/
def Woken (bus : BusRun) : Prop := Signalled bus ∨ Notified bus

/-- The bus runs on which the result is wrong. -/
inductive Misleads (bus : BusRun) : Prop where
  /-- The transfer was started on a bus that was never seen ready, and no error comes back. -/
  | busy : Never bus → Woken bus → Quiet bus true (bus.resumed true) → Misleads bus
  /-- The bus was seen ready at the last poll, the transfer was given up, and a signal comes. -/
  | givenUp : Late bus → Signalled bus → Misleads bus
  /-- The caller runs before the report: a signal has come. -/
  | unreported : Early bus → Woken bus →
      (∀ r ∈ bus.report, r.cameBy (bus.resumed true) = false) → Misleads bus
  /-- What is reported is not success, and its code does not count as an error. -/
  | hidden (r : Report) : Early bus → Woken bus → r ∈ bus.report →
      r.cameBy (bus.resumed true) = true → ¬ Good r → isError (errorCode r.status) = false →
      Misleads bus
  /-- Success is reported in time, but before the sleep, or the caller comes to run too late. -/
  | missed (r : Report) : Early bus → ¬ Woken bus → r ∈ bus.report → InTime r → Good r →
      Misleads bus

/-- A time that may not come, and the timeout. -/
theorem getD_add_lt {time : Option Nat} {delay limit : Nat} :
    time.getD limit + delay < limit ↔ ∃ s ∈ time, s + delay < limit := by
  cases time with
  | none => simp
  | some s => simp

/-- When the caller runs before the timeout. -/
theorem resumed_lt_iff (started : Bool) :
    bus.resumed started < twiTimeout ↔ Signalled bus ∨ started = true ∧ Notified bus := by
  have earliest (a b : Nat) : min a (min b twiTimeout) + bus.delay < twiTimeout ↔
      b + bus.delay < twiTimeout ∨ a + bus.delay < twiTimeout := by omega
  rw [BusRun.resumed, earliest, getD_add_lt, getD_add_lt]
  apply or_congr Iff.rfl
  unfold BusRun.reportOf Notified
  cases started with
  | false => simp
  | true =>
    cases bus.report with
    | none => simp
    | some r => simp

/-- When the caller of a transfer that was started runs before the timeout. -/
theorem resumed_lt_iff_woken : bus.resumed true < twiTimeout ↔ Woken bus := by
  rw [resumed_lt_iff]
  simp [Woken]

/-- A good report is not an error. -/
theorem Good.quiet {r : Report} (good : Good r) : isError (errorCode r.status) = false := by
  rw [errorCode, if_neg (not_not.mpr good.2)]
  rfl

/-! ## The three ways through the wait loop -/

section Ways

variable (clean : t.errorStatus = 0)

include clean

/-- A transfer that was started on a bus that was seen ready. -/
theorem real_iff_of_early (early : Early bus)
    (started : (halI2cDispatchTransfer bus t).isSome = true)
    (seen : (pollLoop bus dispatchRetries 0).2 = true) :
    Real bus (command bus t len) ↔ ¬ Misleads bus := by
  have zero := command_zero_iff len clean started
  have facts := command_started len started
  rw [resumed_lt_iff_woken] at zero
  constructor
  · intro real misleads
    cases misleads with
    | busy never _ _ => exact never.1 early
    | givenUp late _ => exact late.1 early
    | unreported _ woken none_ =>
      have quiet : Quiet bus true (bus.resumed true) := by
        intro r member came
        rw [none_ r member] at came
        cases came
      obtain ⟨_, _, r, member, came, _⟩ := real.success (zero.mpr ⟨woken, quiet⟩)
      rw [facts.2, none_ r member] at came
      cases came
    | hidden r _ woken member came bad benign =>
      have quiet : Quiet bus true (bus.resumed true) := by
        intro r' member' _
        rw [Option.mem_unique member' member]
        exact benign
      obtain ⟨_, _, r', member', _, good⟩ := real.success (zero.mpr ⟨woken, quiet⟩)
      rw [Option.mem_unique member' member] at good
      exact bad good
    | missed r _ asleep member inTime good =>
      exact asleep (zero.mp (real.reported seen facts.1 ⟨r, member, inTime, good⟩)).1
  · intro fine
    constructor
    case success =>
      intro returned
      obtain ⟨woken, quiet⟩ := zero.mp returned
      refine ⟨seen, facts.1, ?_⟩
      by_contra none_
      by_cases came : ∃ r ∈ bus.report, r.cameBy (bus.resumed true) = true
      · obtain ⟨r, member, came⟩ := came
        apply fine (.hidden r early woken member came _ (quiet r member came))
        intro good
        exact none_ ⟨r, member, by rw [facts.2]; exact came, good⟩
      · apply fine (.unreported early woken _)
        intro r member
        rw [← Bool.not_eq_true]
        exact fun before => came ⟨r, member, before⟩
    case reported =>
      rintro _ _ ⟨r, member, inTime, good⟩
      by_cases woken : Woken bus
      · apply zero.mpr ⟨woken, _⟩
        intro r' member' _
        rw [Option.mem_unique member' member]
        exact good.quiet
      · exact absurd (.missed r early woken member inTime good) fine

/-- A transfer that was given up. -/
theorem real_iff_of_late (late : Late bus)
    (started : (halI2cDispatchTransfer bus t).isSome = false) :
    Real bus (command bus t len) ↔ ¬ Misleads bus := by
  have zero := command_zero_iff len clean started
  have facts := command_started len started
  have quiet : Quiet bus false (bus.resumed false) := by
    intro r member
    cases member
  rw [resumed_lt_iff] at zero
  constructor
  · intro real misleads
    cases misleads with
    | busy never _ _ => exact absurd late.2 (by rw [never.2]; exact Bool.false_ne_true)
    | givenUp _ signalled =>
      have success := real.success (zero.mpr ⟨.inl signalled, quiet⟩)
      rw [facts.1] at success
      exact Bool.false_ne_true success.2.1
    | unreported early _ _ => exact late.1 early
    | hidden _ early _ _ _ _ _ => exact late.1 early
    | missed _ early _ _ _ _ => exact late.1 early
  · intro fine
    constructor
    case success =>
      intro returned
      have signalled := (zero.mp returned).1.resolve_right fun both => Bool.false_ne_true both.1
      exact absurd (.givenUp late signalled) fine
    case reported =>
      intro _ began
      rw [facts.1] at began
      cases began

/-- A transfer that was started on a bus that was not seen ready. -/
theorem real_iff_of_never (never : Never bus)
    (started : (halI2cDispatchTransfer bus t).isSome = true)
    (unseen : (pollLoop bus dispatchRetries 0).2 = false) :
    Real bus (command bus t len) ↔ ¬ Misleads bus := by
  have zero := command_zero_iff len clean started
  have seen : (command bus t len).seen = false := unseen
  rw [resumed_lt_iff_woken] at zero
  constructor
  · intro real misleads
    cases misleads with
    | busy _ woken quiet =>
      have success := real.success (zero.mpr ⟨woken, quiet⟩)
      rw [seen] at success
      exact Bool.false_ne_true success.1
    | givenUp late _ => exact absurd late.2 (by rw [never.2]; exact Bool.false_ne_true)
    | unreported early _ _ => exact never.1 early
    | hidden _ early _ _ _ _ _ => exact never.1 early
    | missed _ early _ _ _ _ => exact never.1 early
  · intro fine
    constructor
    case success =>
      intro returned
      obtain ⟨woken, quiet⟩ := zero.mp returned
      exact absurd (.busy never woken quiet) fine
    case reported =>
      intro ready
      rw [seen] at ready
      cases ready

/-- The result agrees with what has happened, except on the bus runs that mislead. -/
theorem command_real_iff : Real bus (command bus t len) ↔ ¬ Misleads bus := by
  rcases dispatch_cases bus t with ⟨early, started, seen⟩ | ⟨late, started⟩ |
    ⟨never, started, unseen⟩
  · exact real_iff_of_early clean early started seen
  · exact real_iff_of_late clean late started
  · exact real_iff_of_never clean never started unseen

end Ways

/-- The result of every command agrees with what has happened, except on the bus runs that
mislead. -/
theorem commands_real_iff (bus : BusRun) (c : Command) : Real bus (c.run bus) ↔ ¬ Misleads bus := by
  cases c with
  | readOnly slaveAddr readDataLen => exact command_real_iff rfl
  | writeOnly slaveAddr writeDataLen writeData => exact command_real_iff rfl
  | writeRead slaveAddr writeDataLen writeData readDataLen => exact command_real_iff rfl
  | readWrite slaveAddr readDataLen writeDataLen writeData => exact command_real_iff rfl

/-- An idle bus without a report, and a caller with a signal pending. -/
def signalPending : BusRun where
  controllerAt _ := 0
  statusAt _ := 0
  controller := 0
  report := none
  signal := some 0
  delay := 0
  readData := 0

/-- A byte is read from a chip that does not answer: the command returns success. -/
theorem signalPending_success :
    ((Command.readOnly 0xA0 0).run signalPending).ret = 0 ∧
      ¬ Real signalPending ((Command.readOnly 0xA0 0).run signalPending) := by
  have returned : ((Command.readOnly 0xA0 0).run signalPending).ret = 0 := by decide
  apply And.intro returned
  intro real
  obtain ⟨_, _, r, member, _⟩ := real.success returned
  cases member

end Fvs318g.Verif.I2c
