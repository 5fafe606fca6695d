import Fvs318g.Kernel.Base
import Fvs318g.Lib.System
import Mathlib.Data.Nat.Bitwise

/-!
# The system timer and the time of day

`str9100_early_init` derives the clocks from the boot latch, and the timer counts down at the
APB clock from a reload value of one `HZ` period. Its overflow raises the tick interrupt, which
adds 10000 microseconds to `xtime`. `do_gettimeofday` adds to `xtime` the microseconds since the
tick, which `str9100_gettimeoffset` computes from the counter and the interrupt status.

The hardware goes on counting between the register reads of a call, so a call is a sequence of
steps; interrupts are disabled during the call, so the tick handler is not among them. The
interrupt status register shows the timer overflow only: its other sources are masked. Whether
the counter is reloaded after it has shown 1 or after it has shown 0 is left open.
-/

namespace Fvs318g.Arch

open Kernel Lib

/-- `USECS_PER_JIFFY`. -/
def usecsPerJiffy : Nat := 1000000 / hz

/-- The nanoseconds that a tick adds to the wall clock. -/
def tickNsec : Nat := 10000000

/-- An `unsigned long`. -/
def ulong (x : Nat) : Nat := x % 2 ^ 32

/-! ## Clocks -/

/-- The clock selection in `PWRMGT_RESET_LATCH_CONFIGURATION_REG`. -/
def clockSelect (latch : BitVec 32) : Nat := ((latch >>> 6) &&& 0x03).toNat

/-- `CPU_clock` as `str9100_early_init` sets it. -/
def cpuClock (latch : BitVec 32) : Nat :=
  match clockSelect latch with
  | 0x00 => 175000000
  | 0x01 => 200000000
  | 0x02 => 225000000
  | _ => 250000000

/-- `AHB_clock`. -/
def ahbClock (latch : BitVec 32) : Nat := cpuClock latch >>> 1

/-- `APB_clock`. -/
def apbClock (latch : BitVec 32) : Nat := ahbClock latch >>> 1

/-- `timer_counter_value`, as `str9100_timer_init` sets it from `APB_clock`. -/
def timerCounterValue (clock : Nat) : Nat := clock / hz

/-- `TICKS_PER_uSEC`. -/
def ticksPerUsec (clock : Nat) : Nat := clock / 1000000

/-- `TICKS2USECS`. -/
def ticks2usecs (clock x : Nat) : Nat := x / ticksPerUsec clock

/-! ## Time values -/

/-- `struct timespec` of `xtime`. -/
structure Timespec where
  /-- Seconds, 32 bits. -/
  tvSec : Nat
  /-- Nanoseconds. -/
  tvNsec : Nat
  deriving DecidableEq, Repr

/-- `struct timeval`. -/
structure Timeval where
  /-- Seconds, 32 bits. -/
  tvSec : Nat
  /-- Microseconds. -/
  tvUsec : Nat
  deriving DecidableEq, Repr

/-- The time in microseconds. -/
def Timeval.usecs (tv : Timeval) : Nat := tv.tvSec * 1000000 + tv.tvUsec

/-- One round of `update_wall_time`. -/
def updateWallTimeOneTick (xtime : Timespec) : Timespec :=
  let tvNsec := xtime.tvNsec + tickNsec
  if 1000000000 ≤ tvNsec then ⟨ulong (xtime.tvSec + 1), tvNsec - 1000000000⟩
  else ⟨xtime.tvSec, tvNsec⟩

/-- `update_wall_time`, for a positive number of ticks. -/
def updateWallTime (xtime : Timespec) : Nat → Timespec
  | 0 => xtime
  | ticks + 1 => updateWallTime (updateWallTimeOneTick xtime) ticks

/-- The last loop of `do_gettimeofday`. -/
def carrySeconds (sec usec : Nat) : Timeval :=
  if 1000000 ≤ usec then carrySeconds (ulong (sec + 1)) (usec - 1000000) else ⟨sec, usec⟩
termination_by usec
decreasing_by omega

/-! ## The timer among its users -/

/-- Where `do_gettimeofday` is. -/
inductive TimeCall where
  /-- No call is in progress. -/
  | idle
  /-- At the head of the loop of `str9100_gettimeoffset`, with `ticks2` just read. -/
  | counting (ticks2 : Nat)
  /-- The interrupt status has been read, with `ticks1` from before. -/
  | checking (ticks1 : Nat) (interruptStatus : Bool)
  deriving DecidableEq, Repr

/-- The boot latch and the lowest value that the counter shows before it is reloaded. -/
structure TimerHardware where
  /-- `PWRMGT_RESET_LATCH_CONFIGURATION_REG`. -/
  latch : BitVec 32
  /-- The last value before the reload. -/
  lowest : Nat
  /-- It is 0 or 1. -/
  lowest_le : lowest ≤ 1

/-- `APB_clock`. -/
abbrev TimerHardware.clock (hw : TimerHardware) : Nat := apbClock hw.latch

/-- The timer and the clock. -/
structure TimerWorld where
  /-- `TIMER1_COUNTER_REG`. -/
  counter : Nat
  /-- The overflow bit of `TIMER_INTERRUPT_STATUS_REG`. -/
  interruptStatus : Bool
  /-- `jiffies`. -/
  jiffies : Nat
  /-- `wall_jiffies`. -/
  wallJiffies : Nat
  /-- `xtime`. -/
  xtime : Timespec
  /-- The call in progress. -/
  call : TimeCall
  /-- What the calls have returned, in order. -/
  returned : List Timeval
  deriving DecidableEq

/-- What can happen next. -/
inductive TimerEvent where
  /-- One tick of the APB clock. -/
  | clock
  /-- The tick interrupt. -/
  | interrupt
  /-- `do_gettimeofday` is called and reads the counter. -/
  | call
  /-- The call reads the interrupt status. -/
  | status
  /-- The call reads the counter again. -/
  | reread

/-- The counter counts down and is reloaded, which raises the interrupt. -/
def hwClock (hw : TimerHardware) (w : TimerWorld) : TimerWorld :=
  if w.counter = hw.lowest then
    { w with counter := timerCounterValue hw.clock, interruptStatus := true }
  else { w with counter := w.counter - 1 }

/-- `str9100_timer_interrupt`, with `do_timer`. -/
def str9100TimerInterrupt (w : TimerWorld) : TimerWorld :=
  let jiffies := ulong (w.jiffies + 1)
  let ticks := ulong (jiffies + 2 ^ 32 - w.wallJiffies)
  { w with
    interruptStatus := false, jiffies := jiffies
    wallJiffies := ulong (w.wallJiffies + ticks)
    xtime := updateWallTime w.xtime ticks }

/-- The end of `str9100_gettimeoffset`, behind its loop. -/
def str9100Gettimeoffset (clock ticks2 : Nat) (interruptStatus : Bool) : Nat :=
  let ticks1 := ulong (timerCounterValue clock + 2 ^ 32 - ticks2)
  let ticks1 := if interruptStatus then ulong (ticks1 + timerCounterValue clock) else ticks1
  ticks2usecs clock ticks1

/-- The rest of `do_gettimeofday`, from the offset on. -/
def doGettimeofday (w : TimerWorld) (offset : Nat) : Timeval :=
  let lost := ulong (w.jiffies + 2 ^ 32 - w.wallJiffies)
  let usec := if lost ≠ 0 then ulong (offset + lost * usecsPerJiffy) else offset
  carrySeconds w.xtime.tvSec (ulong (usec + w.xtime.tvNsec / 1000))

/-- One event. -/
def timerStep (hw : TimerHardware) (w : TimerWorld) : TimerEvent → Option TimerWorld
  | .clock => some (hwClock hw w)
  | .interrupt =>
    if w.interruptStatus = true ∧ w.call = .idle then some (str9100TimerInterrupt w) else none
  | .call => if w.call = .idle then some { w with call := .counting w.counter } else none
  | .status =>
    match w.call with
    | .counting ticks2 => some { w with call := .checking ticks2 w.interruptStatus }
    | _ => none
  | .reread =>
    match w.call with
    | .checking ticks1 interruptStatus =>
      if ticks1 < w.counter then some { w with call := .counting w.counter }
      else
        let offset := str9100Gettimeoffset hw.clock w.counter interruptStatus
        some { w with call := .idle, returned := w.returned ++ [doGettimeofday w offset] }
    | _ => none

/-- The state after `str9100_timer_init`, at any time. -/
def timerInit (hw : TimerHardware) (jiffies : Nat) (xtime : Timespec) : TimerWorld where
  counter := timerCounterValue hw.clock
  interruptStatus := false
  jiffies := jiffies
  wallJiffies := jiffies
  xtime := xtime
  call := .idle
  returned := []

/-- The timer and its users as a transition system. -/
def timerSystem (hw : TimerHardware) : System TimerWorld TimerEvent where
  init w := ∃ jiffies xtime, jiffies < 2 ^ 32 ∧ xtime.tvSec + 1 < 2 ^ 31 ∧
    xtime.tvNsec < 1000000000 ∧ w = timerInit hw jiffies xtime
  step := timerStep hw

end Fvs318g.Arch
