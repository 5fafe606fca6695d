import Fvs318g.Kernel.SkBuff
import Fvs318g.Lib.DmaChannel
import Fvs318g.Lib.Register

/-!
# Addresses of the processor and of the bus

`virt_to_phys` adds a constant in 32-bit arithmetic. A driver gives a controller the addresses on
the bus; what a copy has done is said of the addresses of the processor.
-/

namespace Fvs318g.Kernel

open Lib

/-- `virt_to_phys` on words. -/
def busAddress (x : Word) : Word := BitVec.ofNat 32 (virtToPhys x.toNat)

/-- The difference of the two kinds of addresses. -/
def busOffset : Word := 0x40000000

/-- The translation adds a constant. -/
theorem busAddress_eq (x : Word) : busAddress x = x + busOffset := by
  apply BitVec.eq_of_toNat_eq
  have bound := x.isLt
  rw [busAddress, virtToPhys, busOffset, BitVec.toNat_ofNat, BitVec.toNat_add]
  show (x.toNat + (2 ^ 32 - 0xC0000000) + 0) % 2 ^ 32 % 2 ^ 32 = (x.toNat + 0x40000000) % 2 ^ 32
  omega

/-- The memory as the processor sees it. -/
def cpuView (m : BusMemory 32) : BusMemory 32 := m.translated busOffset

/-- A copy on the bus is one for the processor. -/
theorem copied_cpuView_iff {m m' : BusMemory 32} {dst src : Word} {count : Nat} :
    Copied (cpuView m) (cpuView m') dst src count ↔
      Copied m m' (busAddress dst) (busAddress src) count := by
  rw [busAddress_eq, busAddress_eq]
  exact copied_translated_iff busOffset

/-- Buffers that are apart for the processor are apart on the bus. -/
theorem rangesApart_busAddress {a b : Word} {count : Nat} (apart : RangesApart a b count) :
    RangesApart (busAddress a) (busAddress b) count := by
  rw [busAddress_eq, busAddress_eq]
  exact apart.translate busOffset

end Fvs318g.Kernel
