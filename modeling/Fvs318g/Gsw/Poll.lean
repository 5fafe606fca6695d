import Fvs318g.Gsw.Receive

/-!
# Polling and the receive interrupts

`star_gsw_poll` around `star_gsw_receive_packet`, with queue-full and the FSRC interrupt.
The first system adds what happens on a full ring: the hardware stops at a descriptor that
the processor owns, `star_gsw_fsqf_isr` sets `is_qf` at once, and only
`HAL_GSW_FS_DMA_START` lets the hardware go on. The second one adds the interrupt line, its
latched edge and its mask, `star_gsw_receive_isr` as `do_level_IRQ` calls it, and the
scheduling of polls. `disable_irq` and `enable_irq` are the chip's mask and unmask
functions; unmasking clears the latched edge before it opens the mask.

Both systems interleave the hardware with every step of the driver.
-/

namespace Fvs318g.Gsw

open Kernel Lib

/-! ## `star_gsw_poll` -/

/-- Where `star_gsw_poll` is. -/
inductive PollPhase where
  /-- Not running. -/
  | idle
  /-- In `star_gsw_receive_packet`, or just back from it. -/
  | receiving
  /-- Work was done and `is_qf` was set. -/
  | full
  /-- `is_qf` is cleared, before `HAL_GSW_FS_DMA_START`. -/
  | restarting
  /-- No work was done, before `netif_rx_complete`. -/
  | empty
  /-- After `netif_rx_complete`, before the end of `enable_irq`. -/
  | enabling
  deriving DecidableEq, Repr

/-- What the pass in progress, or the last one, has met and done. -/
structure PassLog where
  /-- The hardware was stopped when the pass began. -/
  stoppedAtEntry : Bool := false
  /-- The hardware stopped during the receive loop. -/
  stoppedInside : Bool := false
  /-- The pass executed `HAL_GSW_FS_DMA_START`. -/
  restarted : Bool := false
  /-- The pass called `netif_rx_complete`. -/
  completed : Bool := false
  deriving DecidableEq, Repr

/-- The receive side with queue-full and the polling function. -/
structure PollWorld where
  /-- The receive ring and its surroundings. -/
  rx : RxWorld
  /-- The hardware is stopped by queue-full. -/
  stopped : Bool
  /-- `is_qf`. -/
  isQf : Bool
  /-- Where `star_gsw_poll` is. -/
  phase : PollPhase
  /-- `*budget`. -/
  budget : Int
  /-- `netdev->quota`. -/
  quota : Int
  /-- The record of the pass. -/
  log : PassLog

/-- What can happen next. -/
inductive PollEvent where
  /-- The hardware stores a frame. -/
  | fill (length : Nat)
  /-- The hardware stops at a descriptor of the processor and `star_gsw_fsqf_isr` runs. -/
  | stop
  /-- The stack frees a buffer. -/
  | release (skb : SkBuff)
  /-- `net_rx_action` calls `star_gsw_poll`. -/
  | enter (budget quota : Int)
  /-- The pass compares the positions. -/
  | count
  /-- The pass handles one descriptor. -/
  | iterate (answer : Option Nat)
  /-- Back in `star_gsw_poll`: account for the work and look at `is_qf`. -/
  | branch
  /-- `is_qf = 0`. -/
  | clear
  /-- `HAL_GSW_FS_DMA_START`, and return 1. -/
  | start
  /-- `netif_rx_complete`. -/
  | complete
  /-- `enable_irq`, and return 0. -/
  | enable

namespace PollWorld

/-- The pass is between its look at the hardware's position and the end of its loop. -/
def inLoop (w : PollWorld) : Bool :=
  w.phase == .receiving &&
    match w.rx.pass with
    | .counting .. | .looping .. => true
    | _ => false

end PollWorld

/-- One event. -/
def pollStep (w : PollWorld) : PollEvent → Option PollWorld
  | .fill length =>
    if w.stopped then none
    else (rxStep w.rx (.fill length)).map fun rx => { w with rx := rx }
  | .stop =>
    if w.stopped = false ∧ (slot w.rx.ring.desc w.rx.fssd).cown = true then
      some { w with
        stopped := true, isQf := true
        log := { w.log with stoppedInside := w.log.stoppedInside || w.inLoop } }
    else none
  | .release skb => (rxStep w.rx (.release skb)).map fun rx => { w with rx := rx }
  | .enter budget quota =>
    if w.phase = .idle ∧ 0 < budget ∧ 0 < quota then
      (rxStep w.rx (.enter (min budget quota))).map fun rx =>
        { w with
          rx := rx, phase := .receiving, budget := budget, quota := quota
          log := { stoppedAtEntry := w.stopped } }
    else none
  | .count =>
    if w.phase = .receiving then (rxStep w.rx .count).map fun rx => { w with rx := rx } else none
  | .iterate answer =>
    if w.phase = .receiving then
      (rxStep w.rx (.iterate answer)).map fun rx => { w with rx := rx }
    else none
  | .branch =>
    match w.phase, w.rx.pass with
    | .receiving, .returned workDone =>
      some { w with
        budget := w.budget - workDone, quota := w.quota - workDone
        phase := if workDone ≠ 0 then (if w.isQf then .full else .idle) else .empty }
    | _, _ => none
  | .clear => if w.phase = .full then some { w with isQf := false, phase := .restarting } else none
  | .start =>
    if w.phase = .restarting then
      some { w with stopped := false, phase := .idle, log := { w.log with restarted := true } }
    else none
  | .complete =>
    if w.phase = .empty then
      some { w with phase := .enabling, log := { w.log with completed := true } }
    else none
  | .enable => if w.phase = .enabling then some { w with phase := .idle } else none

/-- Polling as a transition system. -/
def pollSystem : System PollWorld PollEvent where
  init w := rxSystem.init w.rx ∧ w.stopped = false ∧ w.isQf = false ∧ w.phase = .idle ∧ w.log = {}
  step := pollStep

/-! ## The receive interrupt -/

/-- The two register writes of `str9100_unmask_irq`. -/
inductive Unmask where
  /-- `INTC_INTERRUPT_CLEAR_EDGE_TRIGGER_REG |= 1 << irq` comes next. -/
  | clear
  /-- `INTC_INTERRUPT_MASK_REG &= ~(1 << irq)` comes next. -/
  | mask
  deriving DecidableEq, Repr

/-- Where the handling of an FSRC interrupt is. -/
inductive IsrPhase where
  /-- No interrupt is being handled. -/
  | idle
  /-- `do_level_IRQ` has acknowledged, which masks the line. -/
  | acked
  /-- `star_gsw_receive_isr` has cleared the latched edge. -/
  | cleared
  /-- `disable_irq` has masked the line. -/
  | disabled
  /-- Polling was scheduled already: `enable_irq`. -/
  | enabling (next : Unmask)
  /-- `do_level_IRQ` unmasks a line that is not disabled. -/
  | leaving (next : Unmask)
  deriving DecidableEq, Repr

/-- Polling with its interrupt. -/
structure WakeWorld where
  /-- The polling side. -/
  poll : PollWorld
  /-- `__LINK_STATE_RX_SCHED` of the polling device. -/
  sched : Bool
  /-- The interrupt controller masks FSRC. -/
  masked : Bool
  /-- An FSRC edge is latched. -/
  latched : Bool
  /-- The interrupt in progress. -/
  isr : IsrPhase
  /-- The `enable_irq` of the poll has cleared the edge. -/
  edgeCleared : Bool

/-- What can happen next. -/
inductive WakeEvent where
  /-- An event of the polling side. -/
  | poll (e : PollEvent)
  /-- The `enable_irq` of the poll clears the edge. -/
  | clearEdge
  /-- The processor takes the interrupt. -/
  | irq
  /-- The next step of the interrupt handler. -/
  | isr

/-- What an event of the polling side does to the interrupt line. -/
def wakePoll (w : WakeWorld) (e : PollEvent) (poll : PollWorld) : Option WakeWorld :=
  match e with
  | .fill _ => some { w with poll := poll, latched := true }
  | .enter _ _ => if w.sched then some { w with poll := poll } else none
  | .complete => some { w with poll := poll, sched := false }
  | .enable =>
    if w.edgeCleared then some { w with poll := poll, masked := false, edgeCleared := false }
    else none
  | _ => some { w with poll := poll }

/-- The next step of `do_level_IRQ` and `star_gsw_receive_isr`. -/
def wakeIsr (w : WakeWorld) : Option WakeWorld :=
  match w.isr with
  | .idle => none
  | .acked => some { w with latched := false, isr := .cleared }
  | .cleared => some { w with masked := true, isr := .disabled }
  | .disabled =>
    -- netif_rx_schedule_prep: test and set
    if w.sched then some { w with isr := .enabling .clear }
    else some { w with sched := true, isr := .idle }
  | .enabling .clear => some { w with latched := false, isr := .enabling .mask }
  | .enabling .mask => some { w with masked := false, isr := .leaving .clear }
  | .leaving .clear => some { w with latched := false, isr := .leaving .mask }
  | .leaving .mask => some { w with masked := false, isr := .idle }

/-- One event. -/
def wakeStep (w : WakeWorld) : WakeEvent → Option WakeWorld
  | .poll e => (pollStep w.poll e).bind fun poll => wakePoll w e poll
  | .clearEdge =>
    if w.poll.phase = .enabling ∧ w.edgeCleared = false then
      some { w with latched := false, edgeCleared := true }
    else none
  | .irq =>
    if w.masked = false ∧ w.latched = true ∧ w.isr = .idle then
      some { w with masked := true, isr := .acked }
    else none
  | .isr => wakeIsr w

/-- Polling with its interrupt, from the state in which `star_gsw_open` leaves it. -/
def wakeSystem : System WakeWorld WakeEvent where
  init w := pollSystem.init w.poll ∧ w.sched = false ∧ w.masked = false ∧ w.latched = false ∧
    w.isr = .idle ∧ w.edgeCleared = false
  step := wakeStep

end Fvs318g.Gsw
