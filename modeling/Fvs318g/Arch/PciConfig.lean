import Fvs318g.Lib.Register

/-!
# PCI configuration accesses

The host bridge has an address port and a data port. `CONFIG_CMD` names a bus, a device function and
a word of its configuration space; the data port then reads or writes that word as a whole.
`str9100_pci_read_config` takes a narrow value out of the word, and `str9100_pci_write_config` reads
the word, replaces a part of it and writes it back.

A configuration byte is plain, read-only, or has bits that are cleared by writing ones. The accesses
run with interrupts off, so nothing comes between their port accesses.
-/

namespace Fvs318g.Arch

open Lib

/-! ## The bridge -/

/-- What a write does to a configuration byte. -/
inductive ByteKind where
  /-- The byte is replaced. -/
  | readWrite
  /-- The byte is left alone. -/
  | readOnly
  /-- The bits written as one are cleared. -/
  | writeOneToClear
  deriving DecidableEq, Repr

/-- A configuration byte after a write. -/
def ByteKind.written : ByteKind → BitVec 8 → BitVec 8 → BitVec 8
  | .readWrite, _, new => new
  | .readOnly, old, _ => old
  | .writeOneToClear, old, new => old &&& ~~~new

/-- The place of a configuration byte. -/
structure ConfigByte where
  /-- The bus. -/
  bus : BitVec 8
  /-- Device and function. -/
  devfn : BitVec 8
  /-- The offset in the configuration space of the function. -/
  offset : BitVec 8
  deriving DecidableEq, Repr

/-- The bridge and the configuration spaces behind it. -/
structure PciHost where
  /-- The address port. -/
  configAddr : Word
  /-- The kinds of the configuration bytes. -/
  kind : ConfigByte → ByteKind
  /-- The configuration bytes. -/
  value : ConfigByte → BitVec 8

/-- Byte `k` of a word. -/
def wordByte (v : Word) (k : Nat) : BitVec 8 := v.extractLsb' (8 * k) 8

namespace PciHost

/-- A byte is in the word that the address port names. -/
def Selects (h : PciHost) (a : ConfigByte) : Prop :=
  h.configAddr.getLsbD 31 = true ∧ h.configAddr.extractLsb' 16 8 = a.bus ∧
    h.configAddr.extractLsb' 8 8 = a.devfn ∧ h.configAddr.extractLsb' 2 6 = a.offset.extractLsb' 2 6

instance (h : PciHost) (a : ConfigByte) : Decidable (h.Selects a) :=
  inferInstanceAs (Decidable (_ ∧ _))

/-- Byte `k` of the word that the address port names. -/
def selected (h : PciHost) (k : BitVec 2) : BitVec 8 :=
  h.value ⟨h.configAddr.extractLsb' 16 8, h.configAddr.extractLsb' 8 8,
    h.configAddr.extractLsb' 2 6 ++ k⟩

/-- A write to the address port. -/
def writeAddr (h : PciHost) (v : Word) : PciHost := { h with configAddr := v }

/-- A read of the data port; the bridge answers with ones when it is not enabled. -/
def readData (h : PciHost) : Word :=
  if h.configAddr.getLsbD 31 then
    h.selected 3 ++ h.selected 2 ++ h.selected 1 ++ h.selected 0
  else BitVec.allOnes 32

/-- A write to the data port. -/
def writeData (h : PciHost) (v : Word) : PciHost :=
  { h with value := fun a =>
      if h.Selects a then (h.kind a).written (h.value a) (wordByte v (a.offset.toNat % 4))
      else h.value a }

end PciHost

/-! ## The functions -/

/-- `CONFIG_CMD`. -/
def configCmd (bus deviceFn where_ : BitVec 8) : Word :=
  0x80000000#32 ||| (bus.setWidth 32 <<< 16) ||| (deviceFn.setWidth 32 <<< 8) |||
    (where_.setWidth 32 &&& ~~~3#32)

/-- The shift of a narrow access in its word. -/
def pciShift (where_ : BitVec 8) : Nat := (where_.toNat &&& 0x3) <<< 3

/-- `str9100_pci_read_config`: the value, and the bridge afterwards. -/
def str9100PciReadConfig (bus devfn where_ : BitVec 8) (size : Nat) (h : PciHost) :
    Word × PciHost :=
  match size with
  | 1 =>
    let h := h.writeAddr (configCmd bus devfn where_)
    ((h.readData >>> pciShift where_) &&& 0xff#32, h)
  | 2 =>
    let h := h.writeAddr (configCmd bus devfn where_)
    ((h.readData >>> pciShift where_) &&& 0xffff#32, h)
  | 4 =>
    let h := h.writeAddr (configCmd bus devfn where_)
    (h.readData, h)
  | _ => (0, h)

/-- `str9100_pci_write_config`. -/
def str9100PciWriteConfig (bus devfn where_ : BitVec 8) (size : Nat) (val : Word) (h : PciHost) :
    PciHost :=
  match size with
  | 1 =>
    let h := h.writeAddr (configCmd bus devfn where_)
    let v := h.readData
    h.writeData ((v &&& ~~~(0xff#32 <<< pciShift where_)) ||| (val <<< pciShift where_))
  | 2 =>
    let h := h.writeAddr (configCmd bus devfn where_)
    let v := h.readData
    h.writeData ((v &&& ~~~(0xffff#32 <<< pciShift where_)) ||| (val <<< pciShift where_))
  | 4 => (h.writeAddr (configCmd bus devfn where_)).writeData val
  | _ => h

end Fvs318g.Arch
