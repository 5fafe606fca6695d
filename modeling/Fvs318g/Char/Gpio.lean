import Fvs318g.Lib.Register
import Mathlib.Logic.Function.Basic

/-!
# The pins of the general purpose port

The driver writes a single pin in seven registers. The output word is built from what the input
register shows, the direction word from the direction register, and the words of the five
interrupt settings from zero.
-/

namespace Fvs318g.Char

open Lib

/-- The registers that the one-bit writes set. -/
inductive GpioReg where
  /-- `GPIO_DATA_OUT_REG`. -/
  | dataOut
  /-- `GPIO_PIN_DIR_REG`. -/
  | pinDir
  /-- `GPIO_INTERRUPT_ENABLE_REG`. -/
  | intrEnable
  /-- `GPIO_INTERRUPT_MASK_REG`. -/
  | intrMask
  /-- `GPIO_INTERRUPT_TRIGGER_REG`. -/
  | intrTrigger
  /-- `GPIO_INTERRUPT_BOTH_REG`. -/
  | intrBoth
  /-- `GPIO_INTERRUPT_RISE_NEG_REG`. -/
  | intrRiseNeg
  deriving DecidableEq, Repr

/-- The contents of the registers. -/
abbrev GpioRegs := GpioReg → Word

/-- `str9100_gpio_out_bit`, with what `GPIO_DATA_IN_REG` shows. -/
def gpioOutBit (dataIn data : Word) (bit : Int) (regs : GpioRegs) : GpioRegs :=
  if bit ≥ 0 ∧ bit ≤ 20 then
    let temp := dataIn &&& ~~~((1 : Word) <<< bit.toNat)
    Function.update regs .dataOut (temp ||| (data &&& 0x1) <<< bit.toNat)
  else regs

/-- `str9100_gpio_write_direction_bit`. -/
def gpioWriteDirectionBit (data : Word) (bit : Int) (regs : GpioRegs) : GpioRegs :=
  if bit ≥ 0 ∧ bit ≤ 20 then
    let temp := regs .pinDir &&& ~~~((1 : Word) <<< bit.toNat)
    Function.update regs .pinDir (temp ||| (data &&& 0x1) <<< bit.toNat)
  else regs

/-- `GEN_GPIO_WRITE_SCRIPT`. -/
def genGpioWriteScript (reg : GpioReg) (data : Word) (bit : Int) (regs : GpioRegs) : GpioRegs :=
  if bit ≥ 0 ∧ bit ≤ 20 then
    let temp : Word := 0
    Function.update regs reg (temp ||| (data &&& 0x1) <<< bit.toNat)
  else regs

/-- `str9100_gpio_write_intrenable_bit`. -/
def gpioWriteIntrenableBit := genGpioWriteScript .intrEnable

/-- `str9100_gpio_write_intrmask_bit`. -/
def gpioWriteIntrmaskBit := genGpioWriteScript .intrMask

/-- `str9100_gpio_write_intrtrigger_bit`. -/
def gpioWriteIntrtriggerBit := genGpioWriteScript .intrTrigger

/-- `str9100_gpio_write_intrboth_bit`. -/
def gpioWriteIntrbothBit := genGpioWriteScript .intrBoth

/-- `str9100_gpio_write_intrriseneg_bit`. -/
def gpioWriteIntrrisenegBit := genGpioWriteScript .intrRiseNeg

/-- A call of one of the one-bit writes. -/
structure GpioWrite where
  /-- The register that the function is for. -/
  reg : GpioReg
  /-- `data`. -/
  data : Word
  /-- `bit`. -/
  bit : Int
  /-- What the input pins show at the call. -/
  dataIn : Word
  deriving DecidableEq, Repr

/-- The registers behind a call. -/
def gpioWriteBit (regs : GpioRegs) (w : GpioWrite) : GpioRegs :=
  match w.reg with
  | .dataOut => gpioOutBit w.dataIn w.data w.bit regs
  | .pinDir => gpioWriteDirectionBit w.data w.bit regs
  | .intrEnable => gpioWriteIntrenableBit w.data w.bit regs
  | .intrMask => gpioWriteIntrmaskBit w.data w.bit regs
  | .intrTrigger => gpioWriteIntrtriggerBit w.data w.bit regs
  | .intrBoth => gpioWriteIntrbothBit w.data w.bit regs
  | .intrRiseNeg => gpioWriteIntrrisenegBit w.data w.bit regs

end Fvs318g.Char
