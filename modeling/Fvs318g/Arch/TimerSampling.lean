import Fvs318g.Arch.Timer
import Fvs318g.Lib.Register

/-!
# Reading the tick counter

`str9100_gettimeoffset` reads the counter, the interrupt status and the counter again, until the
counter has not been reloaded in between. Here the timer carries the times that the count stands
for: the ticks so far, the time of the last reload and the time of the reload whose interrupt has
been acknowledged last. A call runs with interrupts off, so between its register reads the timer
only ticks; how many ticks fall between two reads is the schedule of the call.
-/

namespace Fvs318g.Arch

open Kernel Lib

/-- `APB_clock`, fast enough for a tick in every period of `HZ`. -/
structure TickClock where
  /-- `APB_clock`. -/
  apbClock : BitVec 32
  /-- There is a tick in every period. -/
  fast : hz ≤ apbClock.toNat

namespace TickClock

/-- `timer_counter_value`. -/
def timerCounterValue (clk : TickClock) : Nat := Arch.timerCounterValue clk.apbClock.toNat

/-- `TICKS2USECS`. -/
def ticks2usecs (clk : TickClock) (x : Nat) : Nat := Arch.ticks2usecs clk.apbClock.toNat x

end TickClock

/-- `1 << TIMER1_OVERFLOW_INTERRUPT_BIT_INDEX`. -/
def timer1OverflowInterruptBit : Word := 1 <<< 2

/-- The timer, and the times of what has happened to it. -/
structure TickTimer where
  /-- `TIMER1_COUNTER_REG`. -/
  counter : Nat
  /-- `TIMER_INTERRUPT_STATUS_REG`. -/
  status : Word
  /-- The ticks so far. -/
  now : Nat
  /-- When the counter was loaded last. -/
  reloaded : Nat
  /-- When it was loaded with the interrupt that was acknowledged last. -/
  acknowledged : Nat
  /-- The reloads that have not been acknowledged. -/
  pending : Nat
  deriving DecidableEq, Repr

namespace TickTimer

/-- The ticks since the last acknowledged interrupt. -/
def elapsed (h : TickTimer) : Nat := h.now - h.acknowledged

/-- A tick. The one that would make the counter zero reloads it and raises the interrupt. -/
def tick (clk : TickClock) (h : TickTimer) : TickTimer :=
  if h.counter - 1 = 0 then
    { h with
      counter := clk.timerCounterValue, status := h.status ||| timer1OverflowInterruptBit
      now := h.now + 1, reloaded := h.now + 1, pending := h.pending + 1 }
  else { h with counter := h.counter - 1, now := h.now + 1 }

/-- The acknowledgement of `str9100_timer_interrupt`. -/
def acknowledge (h : TickTimer) : TickTimer :=
  { h with
    status := h.status &&& ~~~ timer1OverflowInterruptBit
    acknowledged := h.reloaded, pending := 0 }

/-- The timer as `str9100_setup_timer` leaves it. -/
def setup (clk : TickClock) : TickTimer where
  counter := clk.timerCounterValue
  status := 0
  now := 0
  reloaded := 0
  acknowledged := 0
  pending := 0

/-- Some ticks. -/
def ticks (clk : TickClock) : Nat → TickTimer → TickTimer
  | 0, h => h
  | n + 1, h => ticks clk n (h.tick clk)

end TickTimer

/-- What happens to the timer. -/
inductive TickEvent where
  /-- A tick. -/
  | tick
  /-- The interrupt handler. -/
  | interrupt
  deriving DecidableEq

/-- The timer from its setup on. The handler runs when the status is raised. -/
def tickSystem (clk : TickClock) : System TickTimer TickEvent where
  init h := h = TickTimer.setup clk
  step h e :=
    match e with
    | .tick => some (h.tick clk)
    | .interrupt => if h.status ≠ 0 then some h.acknowledge else none

/-- The interrupt is taken before the counter is reloaded again. -/
def Prompt (clk : TickClock) (h : TickTimer) (e : TickEvent) : Prop :=
  e = .tick → (h.tick clk).pending ≤ 1

/-! ## The call -/

/-- The ticks that fall into a round of the loop. -/
structure Gap where
  /-- Before the status is read. -/
  beforeStatus : Nat
  /-- Between the status and the counter. -/
  beforeCounter : Nat

/-- The timer when the counter is read at the end of a round. -/
def Gap.after (clk : TickClock) (g : Gap) (h : TickTimer) : TickTimer :=
  (h.ticks clk g.beforeStatus).ticks clk g.beforeCounter

/-- What the loop leaves in its variables, with the rounds it took and the timer at the last
read. -/
structure Sample where
  /-- `ticks2`. -/
  ticks2 : Nat
  /-- `interrupt_status`. -/
  interruptStatus : Word
  /-- The rounds of the loop. -/
  rounds : Nat
  /-- The timer when the counter was read last. -/
  timer : TickTimer

/-- The loop of `str9100_gettimeoffset` from its round `k` on, for at most the given number of
rounds. -/
def samplingLoop (clk : TickClock) (gaps : Nat → Gap) : Nat → Nat → Nat → TickTimer → Option Sample
  | 0, _, _, _ => none
  | fuel + 1, k, ticks2, h =>
    let ticks1 := ticks2
    let interruptStatus := (h.ticks clk (gaps k).beforeStatus).status
    let h := (gaps k).after clk h
    let ticks2 := h.counter
    if ticks2 > ticks1 then samplingLoop clk gaps fuel (k + 1) ticks2 h
    else some { ticks2, interruptStatus, rounds := k + 1, timer := h }

/-- The tick count that is computed from a sample. -/
def Sample.ticks (clk : TickClock) (s : Sample) : Nat :=
  let ticks1 := ulong (clk.timerCounterValue + 2 ^ 32 - s.ticks2)
  if s.interruptStatus ≠ 0 then ulong (ticks1 + clk.timerCounterValue) else ticks1

/-- `str9100_gettimeoffset`, with its sample. The first read of the counter is at `h`. -/
def gettimeoffset (clk : TickClock) (gaps : Nat → Gap) (fuel : Nat) (h : TickTimer) :
    Option (Sample × Nat) :=
  (samplingLoop clk gaps fuel 0 h.counter h).map fun s => (s, clk.ticks2usecs (s.ticks clk))

/-- The timer after some rounds. -/
def afterRounds (clk : TickClock) (gaps : Nat → Gap) (h : TickTimer) : Nat → TickTimer
  | 0 => h
  | k + 1 => (gaps k).after clk (afterRounds clk gaps h k)

/-- The schedules in question: in every round that the loop comes to, fewer ticks than a period
fall between the two reads of the counter, and not more than one reload is unacknowledged at its
end. -/
def Unhurried (clk : TickClock) (gaps : Nat → Gap) (h : TickTimer) : Prop :=
  ∀ k, (∀ j < k, (afterRounds clk gaps h j).counter < (afterRounds clk gaps h (j + 1)).counter) →
    (gaps k).beforeStatus + (gaps k).beforeCounter < clk.timerCounterValue ∧
      (afterRounds clk gaps h (k + 1)).pending ≤ 1

end Fvs318g.Arch
