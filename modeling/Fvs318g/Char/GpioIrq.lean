import Fvs318g.Char.Gpio
import Fvs318g.Lib.System

/-!
# The interrupt of the general purpose port

All pins share one interrupt, which the interrupt controller latches on its edge. The handler
clears the latch, masks the interrupt, reads the raw state of the pins once, calls the handlers of
the pins that it shows, clears the raw state of all pins and opens the mask; the level flow of the
interrupt core around it masks the interrupt before, and clears the latch and opens the mask once
more behind. Interrupts are enabled while the handler runs, so that another run can start on top
of one that has opened the mask.

Pins change, and handlers are registered, between any two of these steps. The state keeps the
history that a statement about lost events needs: the pins with an event that no call of their
handler has followed.
-/

namespace Fvs318g.Char

open Lib

/-- `MAX_GPIO_LINE`. -/
def maxGpioLine : Nat := 21

/-- Where a run of the handler is. -/
inductive HandlerPhase where
  /-- `do_level_IRQ` has masked the interrupt. -/
  | entered
  /-- The latch is cleared. -/
  | edgeCleared
  /-- The interrupt is masked again. -/
  | masked
  /-- In the loop at line `i`, with `gpio_intr` shifted so far. -/
  | loop (gpioIntr : Word) (i : Nat)
  /-- The raw state is cleared. -/
  | statusCleared
  /-- The handler has opened the mask and returned. -/
  | unmasked
  /-- The interrupt core has turned interrupts off again. -/
  | irqsOff
  /-- `str9100_unmask_irq` has cleared the latch and will open the mask. -/
  | lineCleared
  deriving DecidableEq, Repr

/-- The registers, the table of handlers and the runs of the interrupt handler. -/
structure GpioIrqState where
  /-- The registers that the one-bit writes set. -/
  regs : GpioRegs
  /-- The entry of `gpio_isr` is not `NULL`. -/
  gpioIsr : Fin 21 → Bool
  /-- `GPIO_INTERRUPT_RAW_STATUS_REG`. -/
  intrRawState : Word
  /-- The interrupt controller has latched an edge. -/
  edgeLatched : Bool
  /-- The bit of the interrupt in `INTC_INTERRUPT_MASK_REG`. -/
  intcMasked : Bool
  /-- The runs of the handler, the innermost one first. -/
  frames : List HandlerPhase
  /-- The pins with an event that no call of their handler has followed. -/
  unserved : Fin 21 → Bool

/-! ## Registering handlers -/

/-- One bit of a register is written, the others are kept. -/
def writeRegBit (pin : Nat) (regs : GpioRegs) (setting : GpioReg × Word) : GpioRegs :=
  let intrtmp := regs setting.1 &&& ~~~((1 : Word) <<< pin)
  Function.update regs setting.1 (intrtmp ||| setting.2 <<< pin)

/-- The entry of a line in `gpio_isr` is written; without a handler nothing is owed to it. -/
def writeGpioIsr (pin : Int) (funcptr : Bool) (s : GpioIrqState) : GpioIrqState :=
  { s with
    gpioIsr := fun p => if (p.val : Int) = pin then funcptr else s.gpioIsr p
    unserved := fun p => s.unserved p && (funcptr || decide ((p.val : Int) ≠ pin)) }

/-- What `str9100_gpio_set_edgeintr` and `str9100_gpio_set_levelintr` do with their settings;
`funcptr` tells whether the handler is not `NULL`. -/
def gpioSetIntr (settings : List (GpioReg × Word)) (funcptr : Bool) (pin : Int)
    (s : GpioIrqState) : GpioIrqState :=
  if pin ≥ 0 ∧ pin < maxGpioLine then
    let regs := settings.foldl (writeRegBit pin.toNat) (gpioWriteDirectionBit 0 pin s.regs)
    let s := writeGpioIsr pin funcptr { s with regs := regs }
    { s with
      regs := Function.update s.regs .intrEnable
        (s.regs .intrEnable ||| (1 : Word) <<< pin.toNat) }
  else s

/-- `str9100_gpio_set_edgeintr`. -/
def gpioSetEdgeintr (funcptr : Bool) (trigBoth trigRising : Word) :=
  gpioSetIntr [(.intrTrigger, 0), (.intrBoth, trigBoth), (.intrRiseNeg, trigRising)] funcptr

/-- `str9100_gpio_set_levelintr`. -/
def gpioSetLevelintr (funcptr : Bool) (trigLevel : Word) :=
  gpioSetIntr [(.intrTrigger, 1), (.intrRiseNeg, trigLevel)] funcptr

/-- `str9100_gpio_clear_intr`. -/
def gpioClearIntr (pin : Int) (s : GpioIrqState) : GpioIrqState :=
  if pin ≥ 0 ∧ pin < maxGpioLine then
    let s := writeGpioIsr pin false s
    { s with
      regs := Function.update s.regs .intrEnable
        (s.regs .intrEnable &&& ~~~((1 : Word) <<< pin.toNat)) }
  else s

/-! ## The handler -/

/-- A pin changes: its raw bit is set and the interrupt is raised. -/
def pinEvent (p : Fin 21) (s : GpioIrqState) : GpioIrqState :=
  { s with
    intrRawState := s.intrRawState ||| (1 : Word) <<< p.val
    edgeLatched := true
    unserved := if s.gpioIsr p then Function.update s.unserved p true else s.unserved }

/-- The processor takes interrupts. -/
def irqsOn : List HandlerPhase → Bool
  | .irqsOff :: _ | .lineCleared :: _ => false
  | _ => true

/-- The interrupt is taken and `do_level_IRQ` masks it. -/
def irqTaken (s : GpioIrqState) : Option GpioIrqState :=
  if s.edgeLatched ∧ s.intcMasked = false ∧ irqsOn s.frames then
    some { s with intcMasked := true, frames := .entered :: s.frames }
  else none

/-- One line of the loop: the handler is called if the bit is set and there is one. -/
def serveLine (gpioIntr : Word) (i : Fin 21) (s : GpioIrqState) : GpioIrqState :=
  if gpioIntr &&& 0x1 = 0x1 ∧ s.gpioIsr i then
    { s with unserved := Function.update s.unserved i false }
  else s

/-- The next step of a run in a phase, inside the runs `outer`. -/
def phaseStep (phase : HandlerPhase) (outer : List HandlerPhase) (s : GpioIrqState) :
    GpioIrqState :=
  match phase with
  | .entered => { s with edgeLatched := false, frames := .edgeCleared :: outer }
  | .edgeCleared => { s with intcMasked := true, frames := .masked :: outer }
  | .masked => { s with frames := .loop s.intrRawState 0 :: outer }
  | .loop gpioIntr i =>
    if inside : i < 21 then
      { serveLine gpioIntr ⟨i, inside⟩ s with frames := .loop (gpioIntr >>> 1) (i + 1) :: outer }
    else
      { s with intrRawState := s.intrRawState &&& ~~~0x1FFFFF, frames := .statusCleared :: outer }
  | .statusCleared => { s with intcMasked := false, frames := .unmasked :: outer }
  | .unmasked => { s with frames := .irqsOff :: outer }
  | .irqsOff => { s with edgeLatched := false, frames := .lineCleared :: outer }
  | .lineCleared => { s with intcMasked := false, frames := outer }

/-- The next step of the innermost run of `str9100_gpio_irq_handler` and the flow around it. -/
def gpioIrqHandler (s : GpioIrqState) : Option GpioIrqState :=
  match s.frames with
  | [] => none
  | phase :: outer => some (phaseStep phase outer s)

/-- What happens to the port. -/
inductive GpioEvent where
  /-- `str9100_gpio_set_edgeintr`. -/
  | setEdge (funcptr : Bool) (trigBoth trigRising : Word) (pin : Int)
  /-- `str9100_gpio_set_levelintr`. -/
  | setLevel (funcptr : Bool) (trigLevel : Word) (pin : Int)
  /-- `str9100_gpio_clear_intr`. -/
  | clear (pin : Int)
  /-- A pin changes. -/
  | pin (p : Fin 21)
  /-- The interrupt is taken. -/
  | irq
  /-- The innermost run of the handler goes on. -/
  | handler

/-- The successor under an event. -/
def gpioStep (s : GpioIrqState) : GpioEvent → Option GpioIrqState
  | .setEdge funcptr trigBoth trigRising pin =>
    some (gpioSetEdgeintr funcptr trigBoth trigRising pin s)
  | .setLevel funcptr trigLevel pin => some (gpioSetLevelintr funcptr trigLevel pin s)
  | .clear pin => some (gpioClearIntr pin s)
  | .pin p => some (pinEvent p s)
  | .irq => irqTaken s
  | .handler => gpioIrqHandler s

/-- The port from `str9100_gpio_init` on: no line has a handler and the interrupt is requested. -/
def gpioIrqSystem : System GpioIrqState GpioEvent where
  init s :=
    (∀ p, s.gpioIsr p = false) ∧ (∀ p, s.unserved p = false) ∧ s.frames = [] ∧ s.intcMasked = false
  step := gpioStep

end Fvs318g.Char
