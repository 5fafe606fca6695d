import Fvs318g.Arch.Timer

/-!
# Time does not run backwards

The time of day is the wall clock and the ticks since the last tick interrupt, turned into
microseconds by a truncated number of ticks per microsecond. A period has exactly 10000 of them
only at one of the four clocks. There the tick interrupt moves one period from the offset to the
wall clock and the sum does not change; at the other three the offset reaches more than 10000
microseconds before the tick takes it back.
-/

namespace Fvs318g.Verif.Timer

open Lib Arch

/-! ## The four clocks -/

/-- The latch selects one of four clocks. -/
theorem clockSelect_lt (latch : BitVec 32) : clockSelect latch < 4 := by
  have bound : (latch >>> 6).toNat &&& 3 ≤ 3 := Nat.and_le_right
  rw [clockSelect, BitVec.toNat_and]
  exact Nat.lt_succ_of_le bound

/-- The reload value and the ticks per microsecond for each selection. -/
theorem clock_values (hw : TimerHardware) : let select := clockSelect hw.latch
    (select = 0 ∧ timerCounterValue hw.clock = 437500 ∧ ticksPerUsec hw.clock = 43) ∨
    (select = 1 ∧ timerCounterValue hw.clock = 500000 ∧ ticksPerUsec hw.clock = 50) ∨
    (select = 2 ∧ timerCounterValue hw.clock = 562500 ∧ ticksPerUsec hw.clock = 56) ∨
    (select = 3 ∧ timerCounterValue hw.clock = 625000 ∧ ticksPerUsec hw.clock = 62) := by
  intro select
  have bound : select < 4 := clockSelect_lt hw.latch
  have cases_ : select = 0 ∨ select = 1 ∨ select = 2 ∨ select = 3 := by omega
  unfold timerCounterValue ticksPerUsec TimerHardware.clock apbClock ahbClock cpuClock
  rcases cases_ with eq | eq | eq | eq <;>
    rw [show clockSelect hw.latch = _ from eq, eq] <;> decide

/-- What all four have in common. -/
theorem clock_bounds (hw : TimerHardware) : 1 < timerCounterValue hw.clock ∧
    timerCounterValue hw.clock ≤ 625000 ∧ 43 ≤ ticksPerUsec hw.clock := by
  have values := clock_values hw
  omega

/-! ## The parts of a reading -/

/-- The last loop carries whole seconds, as long as the seconds do not overflow. -/
theorem usecs_carrySeconds (sec usec : Nat) (fits : sec + usec / 1000000 < 2 ^ 31) :
    (carrySeconds sec usec).usecs = sec * 1000000 + usec := by
  induction usec using Nat.strongRecOn generalizing sec with
  | ind usec ih =>
    unfold carrySeconds
    by_cases carry : 1000000 ≤ usec
    · have rest := ih (usec - 1000000) (by omega) (sec + 1) (by omega)
      have inside : ulong (sec + 1) = sec + 1 := Nat.mod_eq_of_lt (by omega)
      rw [if_pos carry, inside, rest, Nat.add_mul, Nat.one_mul, Nat.add_assoc,
        Nat.add_sub_cancel' carry]
    · rw [if_neg carry]
      rfl

/-- The ticks since the last tick interrupt that was handled. -/
def ticksSince (hw : TimerHardware) (counter : Nat) (interruptStatus : Bool) : Nat :=
  (timerCounterValue hw.clock - counter) +
    if interruptStatus then timerCounterValue hw.clock else 0

variable (hw : TimerHardware)

/-- The offset is the time since that interrupt, in whole microseconds. -/
theorem gettimeoffset_eq {counter : Nat} (below : counter ≤ timerCounterValue hw.clock)
    (interruptStatus : Bool) : str9100Gettimeoffset hw.clock counter interruptStatus =
      ticksSince hw counter interruptStatus / ticksPerUsec hw.clock := by
  have bounds := clock_bounds hw
  have first : ulong (timerCounterValue hw.clock + 2 ^ 32 - counter) =
      timerCounterValue hw.clock - counter := by
    unfold ulong
    omega
  have second : ulong (timerCounterValue hw.clock - counter + timerCounterValue hw.clock) =
      timerCounterValue hw.clock - counter + timerCounterValue hw.clock :=
    Nat.mod_eq_of_lt (by omega)
  simp only [str9100Gettimeoffset, ticksSince, ticks2usecs, first]
  cases interruptStatus with
  | true => simp only [↓reduceIte, second]
  | false => simp only [Bool.false_eq_true, ↓reduceIte, Nat.add_zero]

/-- An offset is less than a second. -/
theorem ticksSince_small (counter : Nat) (interruptStatus : Bool) :
    ticksSince hw counter interruptStatus / ticksPerUsec hw.clock < 1000000 := by
  have bounds := clock_bounds hw
  have ticks : ticksSince hw counter interruptStatus ≤ 1250000 := by
    unfold ticksSince
    split <;> omega
  apply Nat.div_lt_of_lt_mul
  omega

/-- The wall clock in microseconds. -/
def wallUsecs (xtime : Timespec) : Nat := xtime.tvSec * 1000000 + xtime.tvNsec / 1000

variable {w : TimerWorld}

/-- A reading is the wall clock and the offset. -/
theorem usecs_doGettimeofday {offset : Nat} (wall : w.wallJiffies = w.jiffies)
    (seconds : w.xtime.tvSec + 1 < 2 ^ 31) (nanoseconds : w.xtime.tvNsec < 1000000000)
    (small : offset < 1000000) : (doGettimeofday w offset).usecs = wallUsecs w.xtime + offset := by
  have none : ulong (w.jiffies + 2 ^ 32 - w.wallJiffies) = 0 := by
    unfold ulong
    omega
  have sum : ulong (offset + w.xtime.tvNsec / 1000) = offset + w.xtime.tvNsec / 1000 :=
    Nat.mod_eq_of_lt (by omega)
  unfold doGettimeofday
  simp only [none, ne_eq, not_true_eq_false, ↓reduceIte, sum]
  rw [usecs_carrySeconds _ _ (by omega), wallUsecs]
  omega

/-- A tick adds 10000 microseconds to the wall clock. -/
theorem wallUsecs_tick {xtime : Timespec} (seconds : xtime.tvSec + 2 < 2 ^ 31)
    (nanoseconds : xtime.tvNsec < 1000000000) :
    wallUsecs (updateWallTimeOneTick xtime) = wallUsecs xtime + 10000 ∧
      (updateWallTimeOneTick xtime).tvSec + 1 < 2 ^ 31 ∧
      (updateWallTimeOneTick xtime).tvNsec < 1000000000 := by
  have inside : ulong (xtime.tvSec + 1) = xtime.tvSec + 1 := Nat.mod_eq_of_lt (by omega)
  simp only [updateWallTimeOneTick, wallUsecs, tickNsec, inside]
  by_cases carry : 1000000000 ≤ xtime.tvNsec + 10000000
  · simp only [carry, ↓reduceIte]
    omega
  · simp only [carry, ↓reduceIte]
    omega

/-- The handler finds one tick to charge. -/
theorem tick_count {jiffies : Nat} (word : jiffies < 2 ^ 32) :
    ulong (ulong (jiffies + 1) + 2 ^ 32 - jiffies) = 1 := by
  unfold ulong
  omega

/-- The handler charges one tick. -/
theorem interrupt_eq (wall : w.wallJiffies = w.jiffies) (word : w.jiffies < 2 ^ 32) :
    str9100TimerInterrupt w = { w with
      interruptStatus := false, jiffies := ulong (w.jiffies + 1)
      wallJiffies := ulong (w.jiffies + 1), xtime := updateWallTimeOneTick w.xtime } := by
  unfold str9100TimerInterrupt
  rw [wall]
  dsimp only
  rw [tick_count word]
  rfl

/-! ## Every run at the exact clock -/

/-- No reload comes while the tick of the one before is still pending, and the seconds stay in
the range of `time_t`. -/
def Kept (hw : TimerHardware) (w : TimerWorld) : TimerEvent → Prop
  | .clock => ¬ (w.counter = hw.lowest ∧ w.interruptStatus = true)
  | .interrupt => w.xtime.tvSec + 2 < 2 ^ 31
  | _ => True

/-- Later calls have returned later times. -/
def Monotone (w : TimerWorld) : Prop := w.returned.Pairwise fun a b => a.usecs ≤ b.usecs

/-- The time that a call would return at some counter and status. -/
def timeAt (hw : TimerHardware) (xtime : Timespec) (counter : Nat) (interruptStatus : Bool) : Nat :=
  wallUsecs xtime + ticksSince hw counter interruptStatus / ticksPerUsec hw.clock

/-- No call has returned more than `time`. -/
def Before (w : TimerWorld) (time : Nat) : Prop := ∀ tv ∈ w.returned, tv.usecs ≤ time

/-- What the call in progress knows: a status that it found set is still set, and with a clear
status its first reading of the counter is not behind the returned times. -/
def Reading (hw : TimerHardware) (w : TimerWorld) : Prop :=
  match w.call with
  | .idle => True
  | .counting ticks2 => w.interruptStatus = false → Before w (timeAt hw w.xtime ticks2 false)
  | .checking _ true => w.interruptStatus = true
  | .checking ticks1 false => Before w (timeAt hw w.xtime ticks1 false)

/-- What every run at the exact clock keeps. -/
structure Steady (hw : TimerHardware) (w : TimerWorld) : Prop where
  /-- The counter is in its range. -/
  range : hw.lowest ≤ w.counter ∧ w.counter ≤ timerCounterValue hw.clock
  /-- No tick waits to be charged. -/
  wall : w.wallJiffies = w.jiffies
  /-- `jiffies` is a word. -/
  word : w.jiffies < 2 ^ 32
  /-- The seconds are in range. -/
  seconds : w.xtime.tvSec + 1 < 2 ^ 31
  /-- The nanoseconds are less than a second. -/
  nanoseconds : w.xtime.tvNsec < 1000000000
  /-- No returned time is ahead of the clock. -/
  past : Before w (timeAt hw w.xtime w.counter w.interruptStatus)
  /-- The returned times are in order. -/
  monotone : Monotone w
  /-- The call in progress will keep the order. -/
  reading : Reading hw w

/-- As the counter falls, time goes on. -/
theorem timeAt_le (xtime : Timespec) {counter counter' : Nat} (falls : counter' ≤ counter)
    (interruptStatus : Bool) :
    timeAt hw xtime counter interruptStatus ≤ timeAt hw xtime counter' interruptStatus := by
  apply Nat.add_le_add_left
  apply Nat.div_le_div_right
  apply Nat.add_le_add_right
  omega

/-- A pending interrupt is a reload: it stands for time that has passed. -/
theorem timeAt_pending (xtime : Timespec) (counter counter' : Nat) (interruptStatus : Bool)
    (reloaded : interruptStatus = false ∨ counter' ≤ counter) :
    timeAt hw xtime counter interruptStatus ≤ timeAt hw xtime counter' true := by
  apply Nat.add_le_add_left
  apply Nat.div_le_div_right
  unfold ticksSince
  cases interruptStatus with
  | true =>
    have falls : counter' ≤ counter := by simpa using reloaded
    simp only [↓reduceIte]
    omega
  | false =>
    simp only [↓reduceIte, Bool.false_eq_true]
    omega

/-- A later bound is a bound. -/
theorem Before.mono {time time' : Nat} (before : Before w time) (later : time ≤ time') :
    Before w time' :=
  fun tv member => Nat.le_trans (before tv member) later

/-- At the exact clock the tick moves a whole period from the offset to the wall clock. -/
theorem timeAt_tick {hw : TimerHardware} (exact_ : clockSelect hw.latch = 1)
    {xtime xtime' : Timespec} (tick : wallUsecs xtime' = wallUsecs xtime + 10000) (counter : Nat) :
    timeAt hw xtime' counter false = timeAt hw xtime counter true := by
  have values := clock_values hw
  have value : timerCounterValue hw.clock = 500000 ∧ ticksPerUsec hw.clock = 50 := by omega
  simp only [timeAt, ticksSince, tick, value.1, value.2, ↓reduceIte, Bool.false_eq_true]
  omega

/-- Counting keeps the law. -/
theorem Steady.clock {hw : TimerHardware} (steady : Steady hw w) (kept : Kept hw w .clock) :
    Steady hw (hwClock hw w) := by
  have range := steady.range
  have reading := steady.reading
  unfold hwClock
  by_cases reload : w.counter = hw.lowest
  · have clear : w.interruptStatus = false := by simpa [Kept, reload] using kept
    rw [if_pos reload]
    have passed := timeAt_pending hw w.xtime w.counter (timerCounterValue hw.clock) _ (.inl clear)
    refine ⟨⟨by dsimp only; omega, Nat.le_refl _⟩, steady.wall, steady.word, steady.seconds,
      steady.nanoseconds, steady.past.mono passed, steady.monotone, ?_⟩
    unfold Reading at reading ⊢
    dsimp only
    split <;> rename_i call <;> simp only [call] at reading
    · trivial
    · exact fun pending => nomatch pending
    · rfl
    · exact reading
  · rw [if_neg reload]
    have passed := timeAt_le hw w.xtime (Nat.sub_le w.counter 1) w.interruptStatus
    exact ⟨⟨by dsimp only; omega, by dsimp only; omega⟩, steady.wall, steady.word,
      steady.seconds, steady.nanoseconds, steady.past.mono passed, steady.monotone, reading⟩

/-- The tick interrupt at the exact clock keeps the law. -/
theorem Steady.interrupt {hw : TimerHardware} (exact_ : clockSelect hw.latch = 1)
    (steady : Steady hw w) (kept : Kept hw w .interrupt) (pending : w.interruptStatus = true)
    (idle : w.call = .idle) : Steady hw (str9100TimerInterrupt w) := by
  have room : w.xtime.tvSec + 2 < 2 ^ 31 := kept
  have tick := wallUsecs_tick room steady.nanoseconds
  have word : ulong (w.jiffies + 1) < 2 ^ 32 := Nat.mod_lt _ (Nat.two_pow_pos 32)
  have past := steady.past
  rw [pending] at past
  rw [interrupt_eq steady.wall steady.word]
  refine ⟨steady.range, rfl, word, tick.2.1, tick.2.2, ?_, steady.monotone, ?_⟩
  · intro tv member
    rw [timeAt_tick exact_ tick.1]
    exact past tv member
  · simp only [Reading, idle]

/-- A call that reads the counter a second time goes on or returns, and keeps the law. -/
theorem Steady.reread {hw : TimerHardware} (steady : Steady hw w) {ticks1 : Nat}
    {interruptStatus : Bool} (call : w.call = .checking ticks1 interruptStatus)
    (done : ¬ ticks1 < w.counter) : Steady hw { w with
      call := .idle
      returned := w.returned ++
        [doGettimeofday w (str9100Gettimeoffset hw.clock w.counter interruptStatus)] } := by
  have reading := steady.reading
  simp only [Reading, call] at reading
  have value : (doGettimeofday w (str9100Gettimeoffset hw.clock w.counter interruptStatus)).usecs =
      timeAt hw w.xtime w.counter interruptStatus := by
    rw [gettimeoffset_eq hw steady.range.2]
    exact usecs_doGettimeofday steady.wall steady.seconds steady.nanoseconds
      (ticksSince_small hw ..)
  have order : Before w (timeAt hw w.xtime w.counter interruptStatus) ∧
      timeAt hw w.xtime w.counter interruptStatus ≤
        timeAt hw w.xtime w.counter w.interruptStatus := by
    cases interruptStatus with
    | true =>
      -- the status that was found set is still set, so this is the present time
      have pending : w.interruptStatus = true := reading
      have past := steady.past
      rw [pending] at past ⊢
      exact ⟨past, Nat.le_refl _⟩
    | false =>
      -- the counter has fallen since the first reading
      have since : Before w (timeAt hw w.xtime ticks1 false) := reading
      refine ⟨since.mono (timeAt_le hw w.xtime (Nat.le_of_not_lt done) false), ?_⟩
      cases w.interruptStatus with
      | true => exact timeAt_pending hw w.xtime _ _ _ (.inl rfl)
      | false => exact Nat.le_refl _
  refine ⟨steady.range, steady.wall, steady.word, steady.seconds, steady.nanoseconds, ?_, ?_,
    trivial⟩
  · intro tv member
    rcases List.mem_append.mp member with old | new
    · exact steady.past tv old
    · rw [List.mem_singleton.mp new, value]
      exact order.2
  · unfold Monotone
    apply List.pairwise_append.mpr
    refine ⟨steady.monotone, List.pairwise_singleton .., ?_⟩
    intro old member new last
    rw [List.mem_singleton.mp last, value]
    exact order.1 old member

/-- Every step at the exact clock keeps the law. -/
theorem Steady.step {hw : TimerHardware} (exact_ : clockSelect hw.latch = 1) {w w' : TimerWorld}
    {e : TimerEvent} (steady : Steady hw w) (kept : Kept hw w e)
    (stepped : timerStep hw w e = some w') : Steady hw w' := by
  cases e with
  | clock =>
    cases stepped
    exact steady.clock kept
  | interrupt =>
    obtain ⟨⟨pending, idle⟩, rfl⟩ := guarded_step stepped
    exact steady.interrupt exact_ kept pending idle
  | call =>
    obtain ⟨_, rfl⟩ := guarded_step stepped
    refine { steady with reading := fun clear => ?_ }
    have past := steady.past
    rw [show w.interruptStatus = false from clear] at past
    exact past
  | status =>
    simp only [timerStep] at stepped
    split at stepped
    · rename_i ticks2 call
      cases stepped
      have reading := steady.reading
      simp only [Reading, call] at reading
      refine { steady with reading := ?_ }
      unfold Reading
      cases status : w.interruptStatus with
      | true => rfl
      | false => exact reading status
    · contradiction
  | reread =>
    simp only [timerStep] at stepped
    split at stepped
    · rename_i ticks1 interruptStatus call
      split at stepped
      · cases stepped
        refine { steady with reading := fun clear => ?_ }
        have past := steady.past
        rw [show w.interruptStatus = false from clear] at past
        exact past
      · rename_i done
        cases stepped
        exact steady.reread call done
    · contradiction

/-- Nothing was returned before the first call. -/
theorem steady_init {jiffies : Nat} {xtime : Timespec} (word : jiffies < 2 ^ 32)
    (seconds : xtime.tvSec + 1 < 2 ^ 31) (nanoseconds : xtime.tvNsec < 1000000000) :
    Steady hw (timerInit hw jiffies xtime) := by
  have bounds := clock_bounds hw
  have lowest := hw.lowest_le
  refine ⟨⟨?_, Nat.le_refl _⟩, rfl, word, seconds, nanoseconds, ?_, List.Pairwise.nil, trivial⟩
  · show hw.lowest ≤ timerCounterValue hw.clock
    omega
  · intro tv member
    exact nomatch member

/-! ## The hand-over of a period -/

/-- A state between two calls. -/
def atRest (counter : Nat) (interruptStatus : Bool) (jiffies : Nat) (xtime : Timespec)
    (returned : List Timeval) : TimerWorld :=
  ⟨counter, interruptStatus, jiffies, jiffies, xtime, .idle, returned⟩

/-- A run that loses no tick leads to the state. -/
abbrev Reached (hw : TimerHardware) : TimerWorld → Prop := (timerSystem hw).ReachableBy (Kept hw)

section HandOver

variable {hw : TimerHardware} {counter jiffies : Nat} {interruptStatus : Bool} {xtime : Timespec}
  {returned : List Timeval}

/-- One more step. -/
theorem step_reached {w w' : TimerWorld} (e : TimerEvent) (reached : Reached hw w)
    (kept : Kept hw w e) (stepped : timerStep hw w e = some w') : Reached hw w' :=
  .step reached kept stepped

/-- The counter counts down to its lowest value. -/
theorem countdown_reached {ticks : Nat} (below : ticks + hw.lowest ≤ timerCounterValue hw.clock) :
    Reached hw (atRest (timerCounterValue hw.clock - ticks) false 0 ⟨0, 0⟩ []) := by
  induction ticks with
  | zero => exact .init ⟨0, ⟨0, 0⟩, by decide, by decide, by decide, rfl⟩
  | succ ticks ih =>
    have above : timerCounterValue hw.clock - ticks ≠ hw.lowest := by omega
    have stepped : timerStep hw (atRest (timerCounterValue hw.clock - ticks) false 0 ⟨0, 0⟩ [])
        .clock = some (atRest (timerCounterValue hw.clock - (ticks + 1)) false 0 ⟨0, 0⟩ []) :=
      congrArg some (if_neg above)
    have kept : Kept hw (atRest (timerCounterValue hw.clock - ticks) false 0 ⟨0, 0⟩ []) .clock :=
      fun both => above both.1
    exact step_reached .clock (ih (by omega)) kept stepped

/-- The counter is reloaded. -/
theorem reload_reached (reached : Reached hw (atRest hw.lowest false jiffies xtime returned)) :
    Reached hw (atRest (timerCounterValue hw.clock) true jiffies xtime returned) := by
  have stepped : timerStep hw (atRest hw.lowest false jiffies xtime returned) .clock =
      some (atRest (timerCounterValue hw.clock) true jiffies xtime returned) :=
    congrArg some (if_pos rfl)
  have kept : Kept hw (atRest hw.lowest false jiffies xtime returned) .clock :=
    fun both => nomatch both.2
  exact step_reached .clock reached kept stepped

/-- A pending tick is charged. -/
theorem tick_reached (word : jiffies < 2 ^ 32) (seconds : xtime.tvSec + 2 < 2 ^ 31)
    (reached : Reached hw (atRest counter true jiffies xtime returned)) :
    Reached hw
      (atRest counter false (ulong (jiffies + 1)) (updateWallTimeOneTick xtime) returned) := by
  have stepped : timerStep hw (atRest counter true jiffies xtime returned) .interrupt =
      some (str9100TimerInterrupt (atRest counter true jiffies xtime returned)) := rfl
  rw [interrupt_eq rfl word] at stepped
  have kept : Kept hw (atRest counter true jiffies xtime returned) .interrupt := seconds
  exact step_reached .interrupt reached kept stepped

/-- A call during which the clock does not tick reads the counter once. -/
theorem read_reached (below : counter ≤ timerCounterValue hw.clock)
    (seconds : xtime.tvSec + 1 < 2 ^ 31) (nanoseconds : xtime.tvNsec < 1000000000)
    (reached : Reached hw (atRest counter interruptStatus jiffies xtime returned)) :
    ∃ tv : Timeval, tv.usecs = timeAt hw xtime counter interruptStatus ∧
      Reached hw (atRest counter interruptStatus jiffies xtime (returned ++ [tv])) := by
  let w := atRest counter interruptStatus jiffies xtime returned
  have called : Reached hw { w with call := .counting counter } :=
    step_reached .call reached trivial rfl
  have checked : Reached hw { w with call := .checking counter interruptStatus } :=
    step_reached .status called trivial rfl
  let tv := doGettimeofday { w with call := .checking counter interruptStatus }
    (str9100Gettimeoffset hw.clock counter interruptStatus)
  have value : tv.usecs = timeAt hw xtime counter interruptStatus := by
    have offset := gettimeoffset_eq hw below interruptStatus
    have small := ticksSince_small hw counter interruptStatus
    rw [← offset] at small
    have sum : tv.usecs = wallUsecs xtime + str9100Gettimeoffset hw.clock counter interruptStatus :=
      usecs_doGettimeofday rfl seconds nanoseconds small
    rw [sum, offset, timeAt]
  have last : timerStep hw { w with call := .checking counter interruptStatus } .reread =
      some (atRest counter interruptStatus jiffies xtime (returned ++ [tv])) :=
    if_neg (Nat.lt_irrefl counter)
  exact ⟨tv, value, step_reached .reread checked trivial last⟩

end HandOver

/-- Two calls around a hand-over: at the end of a period and right after its tick. -/
theorem hand_over_reached :
    ∃ w, Reached hw w ∧ ∃ a b : Timeval, w.returned = [a, b] ∧
      a.usecs = (timerCounterValue hw.clock - hw.lowest) / ticksPerUsec hw.clock ∧
      b.usecs = 10000 := by
  have bounds := clock_bounds hw
  have lowest := hw.lowest_le
  have whole : timerCounterValue hw.clock - hw.lowest + hw.lowest ≤ timerCounterValue hw.clock := by
    omega
  have counted := countdown_reached whole
  rw [Nat.sub_sub_self (by omega)] at counted
  obtain ⟨a, first, read⟩ := read_reached (by omega) (by decide) (by decide) counted
  have ticked := tick_reached (by decide) (by decide) (reload_reached read)
  obtain ⟨b, second, again⟩ := read_reached (Nat.le_refl _) (by decide) (by decide) ticked
  refine ⟨_, again, a, b, rfl, ?_, ?_⟩
  · rw [first, timeAt, ticksSince]
    simp [wallUsecs]
  · rw [second, timeAt, ticksSince]
    simp [wallUsecs, updateWallTimeOneTick, tickNsec]

/-- Time runs forwards in every run of the timer that loses no tick exactly when the boot latch
selects the 200 MHz clock. -/
theorem time_monotone_iff (hw : TimerHardware) :
    (∀ w, (timerSystem hw).ReachableBy (Kept hw) w → Monotone w) ↔ clockSelect hw.latch = 1 := by
  constructor
  · intro monotone
    obtain ⟨w, reached, a, b, both, first, second⟩ := hand_over_reached hw
    have order := monotone w reached
    rw [Monotone, both] at order
    have le : a.usecs ≤ b.usecs := List.rel_of_pairwise_cons order (List.mem_singleton.mpr rfl)
    rw [first, second] at le
    -- at the other clocks the last offset of a period is more than 10000 microseconds
    have lowest := hw.lowest_le
    rcases clock_values hw with value | value | value | value <;>
      rw [value.2.1, value.2.2] at le <;> omega
  · intro exact_ w reached
    have steady : Steady hw w := reached.invariant
      (fun s start => by
        obtain ⟨jiffies, xtime, word, seconds, nanoseconds, rfl⟩ := start
        exact steady_init hw word seconds nanoseconds)
      (fun s e s' held kept stepped => held.step exact_ kept stepped)
    exact steady.monotone

/-- The timer at the 175 MHz clock. -/
def slowest : TimerHardware := ⟨0, 1, Nat.le_refl 1⟩

/-- At 175 MHz a call at the end of the first period returns 10174 microseconds and the next one,
after the tick, 10000. -/
theorem time_runs_backwards :
    ∃ w, (timerSystem slowest).Reachable w ∧ ∃ a b : Timeval, w.returned = [a, b] ∧
      a.usecs = 10174 ∧ b.usecs = 10000 := by
  obtain ⟨w, reached, a, b, both, first, second⟩ := hand_over_reached slowest
  exact ⟨w, reached.reachable, a, b, both, first, second⟩

end Fvs318g.Verif.Timer
