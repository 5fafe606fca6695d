import Fvs318g.Char.Gpio
import Fvs318g.Lib.System

/-!
# Writes to a single pin

The bits of the registers stand for the pins. A one-bit write should set its own pin and leave
all others. The direction write does; the output write does as long as the input pins show what
the output register holds for the other pins, and a write of an interrupt setting as long as
the other pins are clear in its register.
-/

namespace Fvs318g.Verif.Gpio

open Lib Fvs318g.Char

/-- The pins in each register. -/
abbrev Pins := GpioReg → Fin 21 → Bool

/-- What the registers hold for the pins. -/
def pinsOf (regs : GpioRegs) : Pins := fun reg pin => (regs reg).getLsbD pin

/-- A write goes to a pin of a register. -/
def GpioWrite.Hits (w : GpioWrite) (reg : GpioReg) (pin : Fin 21) : Prop :=
  w.reg = reg ∧ w.bit = (pin.val : Int)

instance (w : GpioWrite) (reg : GpioReg) (pin : Fin 21) : Decidable (GpioWrite.Hits w reg pin) :=
  inferInstanceAs (Decidable (_ ∧ _))

/-- One pin is written. -/
def setPin (pins : Pins) (w : GpioWrite) : Pins :=
  fun reg pin => if GpioWrite.Hits w reg pin then w.data.getLsbD 0 else pins reg pin

/-- The last value that a sequence of writes has written to a pin. -/
def lastWritten (ws : List GpioWrite) (reg : GpioReg) (pin : Fin 21) : Option Bool :=
  (ws.reverse.find? (fun w => GpioWrite.Hits w reg pin)).map (fun w => w.data.getLsbD 0)

/-- Writing pins one after the other leaves the last value written to each. -/
theorem foldl_setPin (pins : Pins) (ws : List GpioWrite) (reg : GpioReg) (pin : Fin 21) :
    ws.foldl setPin pins reg pin = (lastWritten ws reg pin).getD (pins reg pin) := by
  induction ws using List.reverseRecOn with
  | nil => rfl
  | append_singleton ws w ih =>
    rw [List.foldl_append, lastWritten, List.reverse_append]
    simp only [List.foldl_cons, List.foldl_nil, List.reverse_singleton, List.singleton_append,
      List.find?_cons, setPin]
    by_cases hit : GpioWrite.Hits w reg pin
    · simp [hit]
    · simp only [hit, if_false, decide_false]
      exact ih

/-! ## One write -/

/-- A bit of a word into which one bit is written. -/
theorem getLsbD_writeBit (temp data : Word) {bit pin : Nat} (inside : pin < 32) :
    (setBits temp (ones 32 1) bit (data &&& 0x1)).getLsbD pin =
      if pin = bit then data.getLsbD 0 else temp.getLsbD pin := by
  by_cases below : pin < bit
  · rw [getLsbD_setBits_below temp _ _ below, if_neg (Nat.ne_of_lt below)]
  · rw [getLsbD_setBits_from temp 1 _ inside (by omega), BitVec.getLsbD_and]
    have low : (0x1 : Word).getLsbD (pin - bit) = decide (pin - bit = 0) := by
      simp [BitVec.getLsbD_one]
    by_cases same : pin = bit
    · rw [if_pos same, low, same, Nat.sub_self]
      simp
    · have behind : bit + 1 ≤ pin := by omega
      have beyond : ¬ pin - bit = 0 := by omega
      rw [if_neg same, low, decide_eq_false beyond, decide_eq_true behind]
      simp

/-- The word that a write starts from. -/
def baseWord (regs : GpioRegs) (w : GpioWrite) : Word :=
  match w.reg with
  | .dataOut => w.dataIn
  | .pinDir => regs .pinDir
  | _ => 0

/-- The base of the write agrees with the register on the other pins. -/
def Undisturbed (regs : GpioRegs) (w : GpioWrite) : Prop :=
  0 ≤ w.bit → w.bit ≤ 20 →
    ∀ pin : Fin 21, w.bit ≠ (pin.val : Int) →
      (baseWord regs w).getLsbD pin = (regs w.reg).getLsbD pin

/-- A write sets one bit in its base word. -/
theorem gpioWriteBit_eq (regs : GpioRegs) {w : GpioWrite} (low : 0 ≤ w.bit) (high : w.bit ≤ 20) :
    gpioWriteBit regs w = Function.update regs w.reg
      (setBits (baseWord regs w) (ones 32 1) w.bit.toNat (w.data &&& 0x1)) := by
  have pin : w.bit ≥ 0 ∧ w.bit ≤ 20 := ⟨low, high⟩
  have script : ∀ reg, genGpioWriteScript reg w.data w.bit regs =
      Function.update regs reg (setBits 0 (ones 32 1) w.bit.toNat (w.data &&& 0x1)) := by
    intro reg
    have cleared : (0 : Word) &&& ~~~(ones 32 1 <<< w.bit.toNat) = 0 := BitVec.zero_and
    rw [genGpioWriteScript, if_pos pin, setBits, cleared]
  unfold gpioWriteBit baseWord
  cases reg : w.reg with
  | dataOut =>
    simp only [gpioOutBit, if_pos pin]
    rfl
  | pinDir =>
    simp only [gpioWriteDirectionBit, if_pos pin]
    rfl
  | intrEnable => exact script .intrEnable
  | intrMask => exact script .intrMask
  | intrTrigger => exact script .intrTrigger
  | intrBoth => exact script .intrBoth
  | intrRiseNeg => exact script .intrRiseNeg

/-- A write to no pin changes nothing. -/
theorem gpioWriteBit_outside (regs : GpioRegs) {w : GpioWrite}
    (outside : ¬ (w.bit ≥ 0 ∧ w.bit ≤ 20)) : gpioWriteBit regs w = regs := by
  unfold gpioWriteBit
  cases w.reg with
  | dataOut => exact if_neg outside
  | pinDir => exact if_neg outside
  | _ => exact if_neg outside

/-- A write sets its pin alone exactly if its base word agrees with the register on the other
pins. -/
theorem setsPin_iff (regs : GpioRegs) (w : GpioWrite) :
    pinsOf (gpioWriteBit regs w) = setPin (pinsOf regs) w ↔ Undisturbed regs w := by
  by_cases range : w.bit ≥ 0 ∧ w.bit ≤ 20
  · have shape := gpioWriteBit_eq regs range.1 range.2
    have place : (w.bit.toNat : Int) = w.bit := Int.toNat_of_nonneg range.1
    have bitAt : ∀ pin : Fin 21, pinsOf (gpioWriteBit regs w) w.reg pin =
        if w.bit = (pin.val : Int) then w.data.getLsbD 0 else (baseWord regs w).getLsbD pin := by
      intro pin
      rw [pinsOf, shape, Function.update_self, getLsbD_writeBit _ _ (by omega)]
      by_cases same : w.bit = (pin.val : Int)
      · rw [if_pos same, if_pos (by omega)]
      · rw [if_neg same, if_neg (by omega)]
    -- the own pin is always right; the others come from the base word
    constructor
    · intro sets _ _ pin other
      have bit := congrFun (congrFun sets w.reg) pin
      rw [bitAt, if_neg other, setPin, if_neg (fun hit => other hit.2)] at bit
      exact bit
    · intro undisturbed
      funext reg pin
      by_cases register : w.reg = reg
      · subst register
        rw [bitAt, setPin]
        by_cases same : w.bit = (pin.val : Int)
        · rw [if_pos same, if_pos ⟨rfl, same⟩]
        · rw [if_neg same, if_neg (fun hit => same hit.2)]
          exact undisturbed range.1 range.2 pin same
      · rw [setPin, if_neg (fun hit => register hit.1), pinsOf, shape,
          Function.update_of_ne (Ne.symm register), pinsOf]
  · rw [gpioWriteBit_outside regs range]
    constructor
    · intro _ low high
      exact absurd ⟨low, high⟩ range
    · intro _
      funext reg pin
      have missed : ¬ GpioWrite.Hits w reg pin := by
        rintro ⟨_, place⟩
        omega
      rw [setPin, if_neg missed]

/-! ## Sequences of writes -/

/-- Through a sequence of one-bit writes each pin holds the last value written to it exactly if
each write meets its condition in the registers before it. -/
theorem pins_hold_iff (initial : GpioRegs) (ws : List GpioWrite) :
    (∀ done rest, ws = done ++ rest → ∀ (reg : GpioReg) (pin : Fin 21),
      (done.foldl gpioWriteBit initial reg).getLsbD pin =
        (lastWritten done reg pin).getD ((initial reg).getLsbD pin)) ↔
      ∀ done w rest, ws = done ++ w :: rest → Undisturbed (done.foldl gpioWriteBit initial) w := by
  have along : (∀ done rest, ws = done ++ rest →
      pinsOf (done.foldl gpioWriteBit initial) = done.foldl setPin (pinsOf initial)) ↔
      ∀ done w rest, ws = done ++ w :: rest →
        pinsOf (gpioWriteBit (done.foldl gpioWriteBit initial) w) =
          setPin (pinsOf (done.foldl gpioWriteBit initial)) w :=
    follows_along_iff pinsOf setPin ws initial
  simp only [setsPin_iff] at along
  rw [← along]
  constructor
  · intro holds done rest split
    funext reg pin
    rw [foldl_setPin]
    exact holds done rest split reg pin
  · intro follows done rest split reg pin
    have bit := congrFun (congrFun (follows done rest split) reg) pin
    rw [foldl_setPin] at bit
    exact bit

/-- Pin 3 and then pin 5 are set in one register. -/
def twoPins (reg : GpioReg) : List GpioWrite := [⟨reg, 1, 3, 0⟩, ⟨reg, 1, 5, 0⟩]

/-- In the interrupt enable register, and in the output register while the input pins show zero,
the second write clears pin 3. -/
theorem pins_lost :
    ((twoPins .intrEnable).foldl gpioWriteBit (fun _ => 0) .intrEnable).getLsbD 3 = false ∧
      lastWritten (twoPins .intrEnable) .intrEnable 3 = some true ∧
      ((twoPins .dataOut).foldl gpioWriteBit (fun _ => 0) .dataOut).getLsbD 3 = false ∧
      lastWritten (twoPins .dataOut) .dataOut 3 = some true := by
  decide

end Fvs318g.Verif.Gpio
