import Fvs318g.Lib.Bytes
import Fvs318g.Lib.Register

/-!
# Switch registers behind a pseudo PHY

The switch has a register of up to eight bytes for each page and number. `star_gsw_mdio_rreg` and
`star_gsw_mdio_wreg` reach it through a PHY address of its own: register 16 holds the page, register
17 the number and the operation, registers 24 to 27 the value in four parts. An operation is over
when its bits in register 17 read as zero.

The accesses to the PHY go through the switch's MDIO controller, which reports the end of each in
`GSW_PHY_CONTROL`. How long an access and an operation take is an input, counted in polls; an access
that is not over in time has no effect.
-/

namespace Fvs318g.Gsw

open Lib

/-! ## The pseudo PHY -/

/-- How long things take. -/
structure MdioTiming where
  /-- The polls that find an access unfinished, by the number of the access. -/
  access : Nat → Nat
  /-- The reads of register 17 that find an operation unfinished, by the number of the
  operation. -/
  operation : Nat → Nat

/-- The pseudo PHY. -/
structure PseudoPhy where
  /-- Register 16: page and enable bit. -/
  reg16 : BitVec 16
  /-- Register 17: register number and operation. -/
  reg17 : BitVec 16
  /-- Register 24: bits 0 to 15 of the value. -/
  reg24 : BitVec 16
  /-- Register 25: bits 16 to 31. -/
  reg25 : BitVec 16
  /-- Register 26: bits 32 to 47. -/
  reg26 : BitVec 16
  /-- Register 27: bits 48 to 63. -/
  reg27 : BitVec 16
  /-- The switch registers, by page and number. -/
  stored : BitVec 8 → BitVec 8 → BitVec 64
  /-- The operations begun so far. -/
  operations : Nat
  /-- The reads of register 17 until the operation is over. -/
  busy : Nat

namespace PseudoPhy

/-- The page that is selected. -/
def page (phy : PseudoPhy) : BitVec 8 := phy.reg16.extractLsb' 8 8

/-- The register that is selected. -/
def number (phy : PseudoPhy) : BitVec 8 := phy.reg17.extractLsb' 8 8

/-- The operation bits: 0 when it is over, 1 for a write, 2 for a read. -/
def op (phy : PseudoPhy) : BitVec 2 := phy.reg17.extractLsb' 0 2

/-- The value in registers 24 to 27. -/
def value (phy : PseudoPhy) : BitVec 64 := phy.reg27 ++ phy.reg26 ++ phy.reg25 ++ phy.reg24

/-- Carry the operation out and clear its bits. -/
def finish (phy : PseudoPhy) : PseudoPhy :=
  let done := { phy with reg17 := phy.reg17 &&& ~~~0x3#16 }
  if phy.reg16.getLsbD 0 = true ∧ phy.op = 1 then
    { done with
      stored := Function.update phy.stored phy.page
        (Function.update (phy.stored phy.page) phy.number phy.value) }
  else if phy.reg16.getLsbD 0 = true ∧ phy.op = 2 then
    let v := phy.stored phy.page phy.number
    { done with
      reg24 := v.extractLsb' 0 16
      reg25 := v.extractLsb' 16 16
      reg26 := v.extractLsb' 32 16
      reg27 := v.extractLsb' 48 16 }
  else done

/-- A read of a PHY register. -/
def read (phy : PseudoPhy) (phyReg : BitVec 5) : BitVec 16 × PseudoPhy :=
  if phyReg = 0x10 then (phy.reg16, phy)
  else if phyReg = 0x11 then
    if phy.op = 0 then (phy.reg17, phy)
    else if phy.busy = 0 then (phy.finish.reg17, phy.finish)
    else (phy.reg17, { phy with busy := phy.busy - 1 })
  else if phyReg = 0x18 then (phy.reg24, phy)
  else if phyReg = 0x19 then (phy.reg25, phy)
  else if phyReg = 0x1a then (phy.reg26, phy)
  else if phyReg = 0x1b then (phy.reg27, phy)
  else (0, phy)

/-- A write of a PHY register. -/
def write (t : MdioTiming) (phy : PseudoPhy) (phyReg : BitVec 5) (v : BitVec 16) : PseudoPhy :=
  if phyReg = 0x10 then { phy with reg16 := v }
  else if phyReg = 0x11 then
    { phy with
      reg17 := v, operations := phy.operations + 1, busy := t.operation phy.operations }
  else if phyReg = 0x18 then { phy with reg24 := v }
  else if phyReg = 0x19 then { phy with reg25 := v }
  else if phyReg = 0x1a then { phy with reg26 := v }
  else if phyReg = 0x1b then { phy with reg27 := v }
  else phy

end PseudoPhy

/-! ## The MDIO controller -/

/-- The controller and the pseudo PHY. -/
structure Mdio where
  /-- `GSW_QUEUE_STATUS_TEST_1`. -/
  queueStatusTest1 : Word
  /-- The accesses made so far. -/
  accesses : Nat
  /-- The pseudo PHY. -/
  phy : PseudoPhy

/-- `PSEUDO_PHY_ADDR`. -/
def pseudoPhyAddr : BitVec 8 := 0x1e

/-- The PHY address of an access: four bits in the test register, one in the control word. -/
def wireAddr (queueStatusTest1 control : Word) : BitVec 5 :=
  queueStatusTest1.extractLsb' 16 4 ++ control.extractLsb' 0 1

/-- The test register with the upper bits of a PHY address. -/
def selectPhy (queueStatusTest1 : Word) (phyAddr : BitVec 8) : Word :=
  (queueStatusTest1 &&& ~~~(0xf#32 <<< 16)) ||| (((phyAddr.setWidth 32 >>> 1) &&& 0xf#32) <<< 16)

/-- The first bits of `GSW_PHY_CONTROL`: the lowest bit of the address and the register. -/
def phyControl (phyAddr phyReg : BitVec 8) : Word :=
  (phyAddr.setWidth 32 &&& 0x1#32) ||| ((phyReg.setWidth 32 &&& 0x1f#32) <<< 8)

/-- `star_gsw_read_phy`: what is read, unless the access is not over in time; no PHY but one
answers. -/
def starGswReadPhy (t : MdioTiming) (phyAddr phyReg : BitVec 8) (s : Mdio) :
    Option (BitVec 16) × Mdio :=
  let test1 := selectPhy s.queueStatusTest1 phyAddr
  let control := phyControl phyAddr phyReg ||| (0x1#32 <<< 14)
  let s' := { s with queueStatusTest1 := test1, accesses := s.accesses + 1 }
  if t.access s.accesses < 0x1000 then
    if wireAddr test1 control = 0x1e then
      let (v, phy) := s.phy.read (control.extractLsb' 8 5)
      (some v, { s' with phy := phy })
    else (some 0xffff, s')
  else (none, s')

/-- `star_gsw_write_phy`. -/
def starGswWritePhy (t : MdioTiming) (phyAddr phyReg : BitVec 8) (writeData : BitVec 16)
    (s : Mdio) : Mdio :=
  let test1 := selectPhy s.queueStatusTest1 phyAddr
  let control := phyControl phyAddr phyReg ||| (0x1#32 <<< 13) ||| (writeData.setWidth 32 <<< 16)
  let s' := { s with queueStatusTest1 := test1, accesses := s.accesses + 1 }
  if t.access s.accesses < 0x1000 then
    if wireAddr test1 control = 0x1e then
      { s' with phy := s.phy.write t (control.extractLsb' 8 5) (control.extractLsb' 16 16) }
    else s'
  else s'

/-! ## The functions -/

/-- The wait for register 17, with the retries left; `readData` is what the variable holds, and
keeps when an access is not over in time. -/
def mdioWait (t : MdioTiming) (readData : BitVec 16) (s : Mdio) : Nat → Mdio
  | 0 => (starGswReadPhy t pseudoPhyAddr 0x11 s).2
  | retries + 1 =>
    let (v, s) := starGswReadPhy t pseudoPhyAddr 0x11 s
    let readData := v.getD readData
    if readData &&& 0x3 = 0 then s else mdioWait t readData s retries

/-- A read into a variable that was cleared before. -/
def mdioReadPart (t : MdioTiming) (phyReg : BitVec 8) (s : Mdio) : BitVec 16 × Mdio :=
  let (v, s) := starGswReadPhy t pseudoPhyAddr phyReg s
  (v.getD 0, s)

/-- The bytes that the two `switch (len)` access; the default is four. -/
def mdioWidth (len : BitVec 8) : Nat :=
  match len.toNat with
  | 1 => 1
  | 2 => 2
  | 6 => 6
  | 8 => 8
  | _ => 4

/-- The first `n` bytes of a value, the lowest one first. -/
def valueBytes (v : BitVec 64) (n : Nat) : List UInt8 :=
  (List.range n).map fun i => ⟨v.extractLsb' (8 * i) 8⟩

/-- The value of `n` bytes from `addr` on, the lowest one first. -/
def bytesValue (m : Memory) (addr : Nat) : Nat → BitVec 64
  | 0 => 0
  | n + 1 => bytesValue m addr n ||| ((m (addr + n)).toBitVec.setWidth 64 <<< (8 * n))

/-- `star_gsw_mdio_rreg`; `readData` is what its variable holds at first. -/
def starGswMdioRreg (t : MdioTiming) (readData : BitVec 16) (page reg : BitVec 8) (m : Traced)
    (data : Nat) (len : BitVec 8) (s : Mdio) : Traced × Mdio :=
  let s := starGswWritePhy t pseudoPhyAddr 0x10 ((page.setWidth 16 <<< 8) ||| 0x1#16) s
  let s := starGswWritePhy t pseudoPhyAddr 0x11 ((reg.setWidth 16 <<< 8) ||| 0x2#16) s
  let s := mdioWait t readData s 5
  let (part0, s) := mdioReadPart t 0x18 s
  let (part1, s) := mdioReadPart t 0x19 s
  let (part2, s) := mdioReadPart t 0x1a s
  let (part3, s) := mdioReadPart t 0x1b s
  let ret := part3 ++ part2 ++ part1 ++ part0
  (m.store data (valueBytes ret (mdioWidth len)), s)

/-- `star_gsw_mdio_wreg`: the number of bytes that it takes from `data`, and what it does. -/
def starGswMdioWreg (t : MdioTiming) (readData : BitVec 16) (page reg : BitVec 8) (m : Memory)
    (data : Nat) (len : BitVec 8) (s : Mdio) : Nat × Mdio :=
  let writeData := bytesValue m data (mdioWidth len)
  let s := starGswWritePhy t pseudoPhyAddr 0x10 ((page.setWidth 16 <<< 8) ||| 0x1#16) s
  let s := starGswWritePhy t pseudoPhyAddr 0x18 (writeData.setWidth 16) s
  let s := starGswWritePhy t pseudoPhyAddr 0x19 ((writeData >>> 16).setWidth 16) s
  let s := starGswWritePhy t pseudoPhyAddr 0x1a ((writeData >>> 32).setWidth 16) s
  let s := starGswWritePhy t pseudoPhyAddr 0x1b ((writeData >>> 48).setWidth 16) s
  let s := starGswWritePhy t pseudoPhyAddr 0x11 ((reg.setWidth 16 <<< 8) ||| 0x1#16) s
  (mdioWidth len, mdioWait t readData s 5)

end Fvs318g.Gsw
