import Mathlib.Tactic.IntervalCases
import Fvs318g.Gsw.Mdio

/-!
# What is written to a switch register is read back

With every access and operation over in time, a write through the pseudo PHY replaces one register
of the switch and a read takes it back. The bytes agree for the lengths that the two functions know;
a length of three, five or seven falls into the default of four bytes on both sides.
-/

namespace Fvs318g.Verif.Mdio

open Lib Gsw

/-- Accesses and operations are over within the polling limits. -/
structure Timely (t : MdioTiming) : Prop where
  /-- An access, within its 4096 polls. -/
  access : ∀ n, t.access n < 0x1000
  /-- An operation, within the first read of register 17 and five retries. -/
  operation : ∀ n, t.operation n ≤ 5

/-! ## Accesses -/

/-- The upper bits of the pseudo PHY's address are selected. -/
theorem selectPhy_pseudo (test1 : Word) :
    (selectPhy test1 pseudoPhyAddr).extractLsb' 16 4 = 0xf#4 := by
  have cleared : (~~~(0xf#32 <<< 16)).extractLsb' 16 4 = 0#4 := by decide
  have set : (((pseudoPhyAddr.setWidth 32 >>> 1) &&& 0xf#32) <<< 16).extractLsb' 16 4 = 0xf#4 := by
    decide
  rw [selectPhy, BitVec.extractLsb'_or, BitVec.extractLsb'_and, cleared, set, BitVec.and_zero,
    BitVec.zero_or]

/-- The register number of an access. -/
theorem phyControl_reg (phyReg : BitVec 8) :
    (phyControl pseudoPhyAddr phyReg).extractLsb' 8 5 = phyReg.setWidth 5 := by
  apply BitVec.eq_of_getLsbD_eq
  intro i inside
  interval_cases i <;> simp [phyControl, pseudoPhyAddr]

/-- The lowest bit of the pseudo PHY's address is clear. -/
theorem phyControl_addr (phyReg : BitVec 8) :
    (phyControl pseudoPhyAddr phyReg).extractLsb' 0 1 = 0#1 := by
  apply BitVec.eq_of_getLsbD_eq
  intro i inside
  interval_cases i
  simp [phyControl, pseudoPhyAddr]

/-! ## Operations -/

/-- The operation bits are two bits of register 17. -/
theorem op_eq_zero_iff (phy : PseudoPhy) : phy.op = 0 ↔ phy.reg17 &&& 0x3 = 0 := by
  rw [PseudoPhy.op, ← BitVec.toNat_inj, ← BitVec.toNat_inj, BitVec.extractLsb'_toNat,
    Nat.shiftRight_zero, BitVec.toNat_and]
  have low : phy.reg17.toNat &&& (0x3 : BitVec 16).toNat = phy.reg17.toNat % 2 ^ 2 :=
    Nat.and_two_pow_sub_one_eq_mod _ 2
  rw [low]
  rfl

/-- An operation that is carried out has no bits left in register 17. -/
theorem finish_reg17 (phy : PseudoPhy) : phy.finish.reg17 &&& 0x3 = 0 := by
  have same : phy.finish.reg17 = phy.reg17 &&& ~~~0x3#16 := by
    unfold PseudoPhy.finish
    split
    · rfl
    · split
      · rfl
      · rfl
  rw [same, BitVec.and_assoc]
  exact BitVec.and_zero

variable {phy : PseudoPhy}

/-- Register 17 while an operation runs. -/
theorem read_running {k : Nat} (runs : phy.op ≠ 0) (busy : phy.busy = k + 1) :
    phy.read 0x11 = (phy.reg17, { phy with busy := k }) := by
  have left : phy.busy - 1 = k := by omega
  rw [PseudoPhy.read, if_neg (by decide), if_pos rfl, if_neg runs, if_neg (by omega), left]

/-- Register 17 when an operation comes to its end. -/
theorem read_ending (runs : phy.op ≠ 0) (busy : phy.busy = 0) :
    phy.read 0x11 = (phy.finish.reg17, phy.finish) := by
  rw [PseudoPhy.read, if_neg (by decide), if_pos rfl, if_neg runs, if_pos busy]

/-- The pseudo PHY once its operation is carried out. -/
def completed (phy : PseudoPhy) : PseudoPhy := ({ phy with busy := 0 } : PseudoPhy).finish

/-- An operation that needs no more time. -/
theorem completed_of_idle (busy : phy.busy = 0) : completed phy = phy.finish := by
  rw [completed, ← busy]

/-! ## Commands and values -/

/-- A page or register number in a command. -/
theorem command_number (x : BitVec 8) {low : BitVec 16} (short : low.extractLsb' 8 8 = 0#8) :
    ((x.setWidth 16 <<< 8) ||| low).extractLsb' 8 8 = x := by
  have shifted : (x.setWidth 16 <<< 8).extractLsb' 8 8 = x := by
    apply BitVec.eq_of_getLsbD_eq
    intro i inside
    have fits : 8 + i < 16 := by omega
    simp [inside, fits]
  rw [BitVec.extractLsb'_or, shifted, short, BitVec.or_zero]

/-- The bits below the number in a command. -/
theorem command_low (x : BitVec 8) (low : BitVec 16) {len : Nat} (inside : len ≤ 8) :
    ((x.setWidth 16 <<< 8) ||| low).extractLsb' 0 len = low.extractLsb' 0 len := by
  have shifted : (x.setWidth 16 <<< 8).extractLsb' 0 len = BitVec.ofNat len 0 := by
    apply BitVec.eq_of_getLsbD_eq
    intro i below
    have under : i < 8 := by omega
    simp [under]
  rw [BitVec.extractLsb'_or, shifted, BitVec.zero_or]

/-- A value is put together from its four parts. -/
theorem append_parts (v : BitVec 64) :
    v.extractLsb' 48 16 ++ v.extractLsb' 32 16 ++ v.extractLsb' 16 16 ++ v.extractLsb' 0 16 =
      v := by
  apply BitVec.eq_of_getLsbD_eq
  intro i inside
  rw [BitVec.getLsbD_append, BitVec.getLsbD_append, BitVec.getLsbD_append]
  split
  · rename_i first
    rw [BitVec.getLsbD_extractLsb', decide_eq_true first, Bool.true_and, Nat.zero_add]
  · split
    · rename_i second
      rw [BitVec.getLsbD_extractLsb', decide_eq_true second, Bool.true_and]
      congr 1
      omega
    · split
      · rename_i third
        rw [BitVec.getLsbD_extractLsb', decide_eq_true third, Bool.true_and]
        congr 1
        omega
      · have fourth : i - 16 - 16 - 16 < 16 := by omega
        rw [BitVec.getLsbD_extractLsb', decide_eq_true fourth, Bool.true_and]
        congr 1
        omega

/-- What the commands in registers 16 and 17 select. -/
theorem addressed {page reg : BitVec 8} {low : BitVec 16}
    (reg16 : phy.reg16 = (page.setWidth 16 <<< 8) ||| 0x1#16)
    (reg17 : phy.reg17 = (reg.setWidth 16 <<< 8) ||| low) (short : low.extractLsb' 8 8 = 0#8) :
    phy.reg16.getLsbD 0 = true ∧ phy.page = page ∧ phy.number = reg ∧
      phy.op = low.extractLsb' 0 2 := by
  refine ⟨?_, ?_, ?_, ?_⟩
  · rw [reg16]
    simp
  · rw [PseudoPhy.page, reg16]
    exact command_number page (by decide)
  · rw [PseudoPhy.number, reg17]
    exact command_number reg short
  · rw [PseudoPhy.op, reg17]
    exact command_low reg low (by decide)

/-- Carry a write out. -/
theorem completed_write (enabled : phy.reg16.getLsbD 0 = true) (op : phy.op = 1) :
    (completed phy).stored = Function.update phy.stored phy.page
      (Function.update (phy.stored phy.page) phy.number phy.value) := by
  have writes : ({ phy with busy := 0 } : PseudoPhy).reg16.getLsbD 0 = true ∧
      ({ phy with busy := 0 } : PseudoPhy).op = 1 := ⟨enabled, op⟩
  rw [completed, PseudoPhy.finish, if_pos writes]
  rfl

/-- Carry a read out. -/
theorem completed_read (enabled : phy.reg16.getLsbD 0 = true) (op : phy.op = 2) :
    (completed phy).value = phy.stored phy.page phy.number ∧
      (completed phy).stored = phy.stored := by
  have other : ¬ (({ phy with busy := 0 } : PseudoPhy).reg16.getLsbD 0 = true ∧
      ({ phy with busy := 0 } : PseudoPhy).op = 1) := by
    intro both
    have one : phy.op = 1 := both.2
    rw [op] at one
    exact absurd one (by decide)
  have reads : ({ phy with busy := 0 } : PseudoPhy).reg16.getLsbD 0 = true ∧
      ({ phy with busy := 0 } : PseudoPhy).op = 2 := ⟨enabled, op⟩
  rw [completed, PseudoPhy.finish, if_neg other, if_pos reads]
  exact ⟨append_parts _, rfl⟩

section Timely

variable {t : MdioTiming} (timely : Timely t)
include timely

/-- A read of the pseudo PHY. -/
theorem Timely.readPhy (phyReg : BitVec 8) (s : Mdio) :
    (starGswReadPhy t pseudoPhyAddr phyReg s).1 = some (s.phy.read (phyReg.setWidth 5)).1 ∧
      (starGswReadPhy t pseudoPhyAddr phyReg s).2.phy = (s.phy.read (phyReg.setWidth 5)).2 := by
  have addr : (phyControl pseudoPhyAddr phyReg ||| 0x1#32 <<< 14).extractLsb' 0 1 = 0#1 := by
    rw [BitVec.extractLsb'_or, phyControl_addr]
    decide
  have reg : (phyControl pseudoPhyAddr phyReg ||| 0x1#32 <<< 14).extractLsb' 8 5 =
      phyReg.setWidth 5 := by
    have strobe : (0x1#32 <<< 14).extractLsb' 8 5 = 0#5 := by decide
    rw [BitVec.extractLsb'_or, phyControl_reg, strobe, BitVec.or_zero]
  have wire : wireAddr (selectPhy s.queueStatusTest1 pseudoPhyAddr)
      (phyControl pseudoPhyAddr phyReg ||| 0x1#32 <<< 14) = 0x1e := by
    rw [wireAddr, selectPhy_pseudo, addr]
    decide
  simp only [starGswReadPhy, if_pos (timely.access s.accesses), if_pos wire, reg, and_self]

/-- A write to the pseudo PHY. -/
theorem Timely.writePhy (phyReg : BitVec 8) (v : BitVec 16) (s : Mdio) :
    (starGswWritePhy t pseudoPhyAddr phyReg v s).phy = s.phy.write t (phyReg.setWidth 5) v := by
  have part (start len : Nat) :
      (phyControl pseudoPhyAddr phyReg ||| 0x1#32 <<< 13 ||| v.setWidth 32 <<< 16).extractLsb' start
          len =
        (phyControl pseudoPhyAddr phyReg).extractLsb' start len |||
          (0x1#32 <<< 13).extractLsb' start len |||
            (v.setWidth 32 <<< 16).extractLsb' start len := by
    rw [BitVec.extractLsb'_or, BitVec.extractLsb'_or]
  have below (start len : Nat) (low : start + len ≤ 16) :
      (v.setWidth 32 <<< 16).extractLsb' start len = 0 := by
    apply BitVec.eq_of_getLsbD_eq
    intro i inside
    have under : start + i < 16 := by omega
    simp [under]
  have above : (v.setWidth 32 <<< 16).extractLsb' 16 16 = v := by
    apply BitVec.eq_of_getLsbD_eq
    intro i inside
    have fits : 16 + i < 32 := by omega
    simp [inside, fits]
  have high : (phyControl pseudoPhyAddr phyReg).extractLsb' 16 16 = 0#16 := by
    apply BitVec.eq_of_getLsbD_eq
    intro i inside
    interval_cases i <;> simp [phyControl, pseudoPhyAddr]
  have strobe : (0x1#32 <<< 13).extractLsb' 0 1 = 0#1 ∧ (0x1#32 <<< 13).extractLsb' 8 5 = 0#5 ∧
      (0x1#32 <<< 13).extractLsb' 16 16 = 0#16 := by decide
  have wire : wireAddr (selectPhy s.queueStatusTest1 pseudoPhyAddr)
      (phyControl pseudoPhyAddr phyReg ||| 0x1#32 <<< 13 ||| v.setWidth 32 <<< 16) = 0x1e := by
    rw [wireAddr, selectPhy_pseudo, part, phyControl_addr, strobe.1, below 0 1 (by decide)]
    decide
  have reg := part 8 5
  rw [phyControl_reg, strobe.2.1, below 8 5 (by decide), BitVec.or_zero] at reg
  have data := part 16 16
  rw [high, strobe.2.2, above, BitVec.or_zero, BitVec.zero_or] at data
  simp only [starGswWritePhy, if_pos (timely.access s.accesses), if_pos wire]
  rw [reg, data]
  exact congrArg (fun r => s.phy.write t r v) BitVec.or_zero

/-- The wait ends with the operation carried out. -/
theorem Timely.wait (readData : BitVec 16) {s : Mdio} {retries : Nat} (runs : s.phy.op ≠ 0)
    (soon : s.phy.busy ≤ retries) : (mdioWait t readData s retries).phy = completed s.phy := by
  have status : (0x11 : BitVec 8).setWidth 5 = 0x11 := by decide
  induction retries generalizing s readData with
  | zero =>
    have idle : s.phy.busy = 0 := Nat.le_zero.mp soon
    have read := (timely.readPhy 0x11 s).2
    rw [status, read_ending runs idle] at read
    rw [mdioWait, read, completed_of_idle idle]
  | succ retries later =>
    obtain ⟨seen, read⟩ := timely.readPhy 0x11 s
    rw [status] at seen read
    rw [mdioWait]
    simp only [seen, Option.getD_some]
    cases busy : s.phy.busy with
    | zero =>
      rw [read_ending runs busy] at read ⊢
      rw [if_pos (finish_reg17 _), read, completed_of_idle busy]
    | succ k =>
      rw [read_running runs busy] at read ⊢
      have unfinished : ¬ s.phy.reg17 &&& 0x3 = 0 := fun zero => runs ((op_eq_zero_iff _).mpr zero)
      rw [if_neg unfinished]
      have still : (starGswReadPhy t pseudoPhyAddr 0x11 s).2.phy.op ≠ 0 := by
        rw [read]
        exact runs
      have sooner : (starGswReadPhy t pseudoPhyAddr 0x11 s).2.phy.busy ≤ retries := by
        rw [read]
        show k ≤ retries
        omega
      rw [later s.phy.reg17 still sooner, read]
      rfl

/-- A write through the pseudo PHY replaces one register. -/
theorem Timely.wreg (readData : BitVec 16) (page reg : BitVec 8) (m : Memory) (data : Nat)
    (len : BitVec 8) (s : Mdio) :
    (starGswMdioWreg t readData page reg m data len s).2.phy.stored =
      Function.update s.phy.stored page
        (Function.update (s.phy.stored page) reg (bytesValue m data (mdioWidth len))) := by
  simp only [starGswMdioWreg]
  generalize bytesValue m data (mdioWidth len) = v
  generalize ended :
    starGswWritePhy t pseudoPhyAddr 0x11 ((reg.setWidth 16 <<< 8) ||| 0x1#16) _ = s'
  -- the pseudo PHY when the operation begins
  have begun : s'.phy =
      { s.phy with
        reg16 := (page.setWidth 16 <<< 8) ||| 0x1#16
        reg17 := (reg.setWidth 16 <<< 8) ||| 0x1#16
        reg24 := v.setWidth 16
        reg25 := (v >>> 16).setWidth 16
        reg26 := (v >>> 32).setWidth 16
        reg27 := (v >>> 48).setWidth 16
        operations := s.phy.operations + 1
        busy := t.operation s.phy.operations } := by
    rw [← ended, timely.writePhy, timely.writePhy, timely.writePhy, timely.writePhy,
      timely.writePhy, timely.writePhy]
    rfl
  have reg16 : s'.phy.reg16 = (page.setWidth 16 <<< 8) ||| 0x1#16 := by rw [begun]
  have reg17 : s'.phy.reg17 = (reg.setWidth 16 <<< 8) ||| 0x1#16 := by rw [begun]
  obtain ⟨enabled, samePage, sameReg, op⟩ := addressed reg16 reg17 (by decide)
  have soon : s'.phy.busy ≤ 5 := by
    rw [begun]
    exact timely.operation _
  have runs : s'.phy.op ≠ 0 := by
    rw [op]
    decide
  have value : s'.phy.value = v := by
    rw [begun]
    exact append_parts v
  have stored : s'.phy.stored = s.phy.stored := by rw [begun]
  rw [timely.wait readData runs soon, completed_write enabled op, samePage, sameReg, value, stored]

/-- A part of the value is read without a change. -/
theorem Timely.readPart (s : Mdio) :
    ((mdioReadPart t 0x18 s).1 = s.phy.reg24 ∧ (mdioReadPart t 0x18 s).2.phy = s.phy) ∧
    ((mdioReadPart t 0x19 s).1 = s.phy.reg25 ∧ (mdioReadPart t 0x19 s).2.phy = s.phy) ∧
    ((mdioReadPart t 0x1a s).1 = s.phy.reg26 ∧ (mdioReadPart t 0x1a s).2.phy = s.phy) ∧
    ((mdioReadPart t 0x1b s).1 = s.phy.reg27 ∧ (mdioReadPart t 0x1b s).2.phy = s.phy) := by
  have part (phyReg : BitVec 8) :
      (mdioReadPart t phyReg s).1 = (s.phy.read (phyReg.setWidth 5)).1 ∧
        (mdioReadPart t phyReg s).2.phy = (s.phy.read (phyReg.setWidth 5)).2 := by
    obtain ⟨seen, after⟩ := timely.readPhy phyReg s
    rw [mdioReadPart]
    simp only [seen, Option.getD_some, after, and_self]
  exact ⟨part 0x18, part 0x19, part 0x1a, part 0x1b⟩

/-- A read through the pseudo PHY stores the bytes of one register. -/
theorem Timely.rreg (readData : BitVec 16) (page reg : BitVec 8) (m : Traced) (data : Nat)
    (len : BitVec 8) (s : Mdio) :
    (starGswMdioRreg t readData page reg m data len s).1 =
        m.store data (valueBytes (s.phy.stored page reg) (mdioWidth len)) ∧
      (starGswMdioRreg t readData page reg m data len s).2.phy.stored = s.phy.stored := by
  simp only [starGswMdioRreg]
  generalize ended :
    starGswWritePhy t pseudoPhyAddr 0x11 ((reg.setWidth 16 <<< 8) ||| 0x2#16) _ = s'
  have begun : s'.phy =
      { s.phy with
        reg16 := (page.setWidth 16 <<< 8) ||| 0x1#16
        reg17 := (reg.setWidth 16 <<< 8) ||| 0x2#16
        operations := s.phy.operations + 1
        busy := t.operation s.phy.operations } := by
    rw [← ended, timely.writePhy, timely.writePhy]
    rfl
  have reg16 : s'.phy.reg16 = (page.setWidth 16 <<< 8) ||| 0x1#16 := by rw [begun]
  have reg17 : s'.phy.reg17 = (reg.setWidth 16 <<< 8) ||| 0x2#16 := by rw [begun]
  obtain ⟨enabled, samePage, sameReg, op⟩ := addressed reg16 reg17 (by decide)
  have soon : s'.phy.busy ≤ 5 := by
    rw [begun]
    exact timely.operation _
  have runs : s'.phy.op ≠ 0 := by
    rw [op]
    decide
  have stored : s'.phy.stored = s.phy.stored := by rw [begun]
  have waited := timely.wait readData runs soon
  generalize mdioWait t readData s' 5 = s₀ at waited ⊢
  obtain ⟨⟨part0, after0⟩, _⟩ := timely.readPart s₀
  obtain ⟨_, ⟨part1, after1⟩, _⟩ := timely.readPart (mdioReadPart t 0x18 s₀).2
  obtain ⟨_, _, ⟨part2, after2⟩, _⟩ := timely.readPart
    (mdioReadPart t 0x19 (mdioReadPart t 0x18 s₀).2).2
  obtain ⟨_, _, _, ⟨part3, after3⟩⟩ := timely.readPart
    (mdioReadPart t 0x1a (mdioReadPart t 0x19 (mdioReadPart t 0x18 s₀).2).2).2
  obtain ⟨value, kept⟩ := completed_read enabled op
  rw [after3, after2, after1, after0, part3, part2, part1, part0, after2, after1, after0, waited,
    kept, stored]
  rw [PseudoPhy.value, samePage, sameReg, stored] at value
  rw [value]
  exact ⟨rfl, rfl⟩

end Timely

/-! ## Bytes -/

/-- A byte that was shifted to a place. -/
theorem extract_shifted (x : BitVec 8) {j k : Nat} (small : k < 8) :
    (x.setWidth 64 <<< (8 * j)).extractLsb' (8 * k) 8 = if k = j then x else 0#8 := by
  apply BitVec.eq_of_getLsbD_eq
  intro i below
  rw [BitVec.getLsbD_extractLsb', decide_eq_true below, Bool.true_and, BitVec.getLsbD_shiftLeft,
    BitVec.getLsbD_setWidth, decide_eq_true (by omega : 8 * k + i < 64)]
  split
  · rename_i same
    have index : 8 * k + i - 8 * j = i := by omega
    rw [index, decide_eq_false (by omega), decide_eq_true (by omega : i < 64)]
    rfl
  · rename_i other
    rw [BitVec.getLsbD_zero]
    by_cases before : 8 * k + i < 8 * j
    · rw [decide_eq_true before]
      rfl
    · rw [BitVec.getLsbD_of_ge x _ (by omega), Bool.and_false, Bool.and_false]

/-- A byte of the value of some bytes. -/
theorem extract_bytesValue (m : Memory) (addr n : Nat) {k : Nat} (small : k < 8) :
    (bytesValue m addr n).extractLsb' (8 * k) 8 =
      if k < n then (m (addr + k)).toBitVec else 0#8 := by
  induction n with
  | zero =>
    rw [bytesValue, if_neg (Nat.not_lt_zero k)]
    apply BitVec.eq_of_getLsbD_eq
    intro i _
    simp
  | succ n before =>
    rw [bytesValue, BitVec.extractLsb'_or, extract_shifted _ small, before]
    by_cases last : k = n
    · rw [if_neg (by omega), if_pos last, if_pos (by omega), BitVec.zero_or, last]
    · have same : k < n + 1 ↔ k < n := by omega
      simp only [if_neg last, same, BitVec.or_zero]

/-- The bytes of a value of bytes. -/
theorem valueBytes_bytesValue (m : Memory) (addr : Nat) {n : Nat} (fits : n ≤ 8) :
    valueBytes (bytesValue m addr n) n = bytes m addr n := by
  apply List.map_congr_left
  intro i member
  have inside := List.mem_range.mp member
  rw [extract_bytesValue m addr n (by omega), if_pos inside]

/-! ## Write and read -/

/-- A read after a write with the same page, register and length. -/
structure WriteReadAgree (t : MdioTiming) (readData readData' : BitVec 16) (page reg : BitVec 8)
    (m : Memory) (data buffer : Nat) (len : BitVec 8) (s : Mdio) : Prop where
  /-- The write takes as many bytes as were asked for. -/
  taken : (starGswMdioWreg t readData page reg m data len s).1 = len.toNat
  /-- The read stores as many bytes as were asked for. -/
  stored : (starGswMdioRreg t readData' page reg ⟨m, []⟩ buffer len
    (starGswMdioWreg t readData page reg m data len s).2).1.writes = [(buffer, len.toNat)]
  /-- They are the bytes that were written. -/
  same : bytes (starGswMdioRreg t readData' page reg ⟨m, []⟩ buffer len
    (starGswMdioWreg t readData page reg m data len s).2).1.memory buffer len.toNat =
      bytes m data len.toNat
  /-- No other register changes. -/
  others : ∀ p r, ¬ (p = page ∧ r = reg) →
    (starGswMdioRreg t readData' page reg ⟨m, []⟩ buffer len
      (starGswMdioWreg t readData page reg m data len s).2).2.phy.stored p r = s.phy.stored p r

/-- The lengths that the functions know. -/
theorem mdioWidth_eq_iff {len : BitVec 8} (range : 1 ≤ len.toNat ∧ len.toNat ≤ 8) :
    mdioWidth len = len.toNat ↔ len.toNat ∈ [1, 2, 4, 6, 8] := by
  obtain ⟨low, high⟩ := range
  unfold mdioWidth
  interval_cases len.toNat <;> decide

/-- Write and read agree exactly for the lengths one, two, four, six and eight. -/
theorem mdio_write_read_iff {t : MdioTiming} (timely : Timely t) (readData readData' : BitVec 16)
    (page reg : BitVec 8) (m : Memory) (data buffer : Nat) {len : BitVec 8} (s : Mdio)
    (range : 1 ≤ len.toNat ∧ len.toNat ≤ 8) :
    WriteReadAgree t readData readData' page reg m data buffer len s ↔
      len.toNat ∈ [1, 2, 4, 6, 8] := by
  rw [← mdioWidth_eq_iff range]
  constructor
  · intro agree
    exact agree.taken
  · intro known
    have written := timely.wreg readData page reg m data len s
    obtain ⟨stores, kept⟩ := timely.rreg readData' page reg ⟨m, []⟩ buffer len
      (starGswMdioWreg t readData page reg m data len s).2
    have value : (starGswMdioWreg t readData page reg m data len s).2.phy.stored page reg =
        bytesValue m data len.toNat := by
      rw [written, Function.update_self, Function.update_self, known]
    rw [value, known, valueBytes_bytesValue m data range.2] at stores
    have length : (bytes m data len.toNat).length = len.toNat := length_bytes ..
    refine ⟨known, ?_, ?_, ?_⟩
    · rw [stores, Traced.store, length]
    · rw [stores, Traced.store]
      have back := bytes_store m buffer (bytes m data len.toNat)
      rw [length] at back
      exact back
    · intro p r other
      rw [kept, written]
      by_cases samePage : p = page
      · have apart : r ≠ reg := fun sameReg => other ⟨samePage, sameReg⟩
        rw [samePage, Function.update_self, Function.update_of_ne apart]
      · rw [Function.update_of_ne samePage]

/-- Accesses that are over at once and operations that take three reads. -/
def threeReads : MdioTiming := ⟨fun _ => 0, fun _ => 2⟩

/-- A switch with all registers zero. -/
def zeroSwitch : Mdio := ⟨0, 0, ⟨0, 0, 0, 0, 0, 0, fun _ _ => 0, 0, 0⟩⟩

/-- Memory with the bytes 1, 2, 3 and so on from 0x100 on. -/
def counted : Memory := fun a => UInt8.ofNat (a - 0xff)

/-- Six bytes. -/
theorem mdio_write_read_six :
    WriteReadAgree threeReads 0 0 0x2 0x40 counted 0x100 0x200 6 zeroSwitch := by
  have timely : Timely threeReads :=
    ⟨fun _ => (by decide : 0 < 0x1000), fun _ => (by decide : 2 ≤ 5)⟩
  exact (mdio_write_read_iff timely 0 0 _ _ _ _ _ _ (by decide)).mpr (by decide)

/-- Three bytes: four are taken and four are stored. -/
theorem mdio_write_read_three :
    (starGswMdioWreg threeReads 0 0x2 0x40 counted 0x100 3 zeroSwitch).1 = 4 ∧
      (starGswMdioRreg threeReads 0 0x2 0x40 ⟨counted, []⟩ 0x200 3
        (starGswMdioWreg threeReads 0 0x2 0x40 counted 0x100 3 zeroSwitch).2).1.writes =
          [(0x200, 4)] := by
  decide +kernel

end Fvs318g.Verif.Mdio
