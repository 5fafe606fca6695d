import Fvs318g.Mtd.SpiFlash

/-!
# What the commands of the flash driver do

A command of the driver asks for write access and sends its bytes only if it was granted, so one
call takes one answer of the chip. The chip sees the low three bytes of the address.
-/

namespace Fvs318g.Verif.SpiFlash

open Lib Mtd

/-- The chip behind one call: an answer is used up and write access is gone. -/
def answered (chip : SerialFlash) (contents : Memory) : SerialFlash where
  contents := contents
  writeEnabled := false
  shifted := chip.shifted
  obeys n := chip.obeys (n + 1)

variable {chip : SerialFlash}

/-- It waits for a command again. -/
theorem answered_idle (idle : chip.Idle) (contents : Memory) : (answered chip contents).Idle := idle

/-- It still obeys. -/
theorem answered_accepting (accepting : chip.Accepting) (contents : Memory) :
    (answered chip contents).Accepting := fun n => accepting (n + 1)

section Transfers

variable {info : SpiFlashInfo} {chip : SerialFlash}

/-- A byte in the middle of a command is kept. -/
theorem transmitReceive_more (byte : UInt8) :
    (transmitReceive info false byte chip).2 =
      { chip with shifted := chip.shifted ++ [byte] } := rfl

/-- The last byte of a command. -/
theorem transmitReceive_last (byte : UInt8) :
    (transmitReceive info true byte chip).2 =
      { chip with shifted := [] }.execute info.mtdSize info.sectorSize
        (chip.shifted ++ [byte]) := rfl

/-- Reading the status changes nothing. -/
theorem readStatusRegister_eq (idle : chip.Idle) :
    readStatusRegister info chip = (chip.status, chip) := by
  have same : { chip with shifted := [] } = chip := by rw [← idle]
  have command : { chip with shifted := [] }.execute info.mtdSize info.sectorSize
      (chip.shifted ++ [spiFlashRdsrOpcode] ++ [0xFF]) = chip := by
    rw [idle, same]
    simp only [SerialFlash.execute, spiFlashRdsrOpcode, List.nil_append, List.cons_append]
    rw [if_neg (by decide)]
    split <;> rfl
  have received : ([] : List UInt8) ++ [spiFlashRdsrOpcode] = [0x05] := rfl
  rw [readStatusRegister, transmitReceive_more]
  apply Prod.ext
  · show (if chip.shifted ++ [spiFlashRdsrOpcode] = [0x05] then _ else _) = _
    rw [idle, if_pos received]
    rfl
  · exact command

/-- Asking for write access shows whether the chip obeyed. -/
theorem setWriteEnable_eq (idle : chip.Idle) :
    setWriteEnable info chip = (chip.obeys 0, chip.enable) := by
  have asked : (transmitReceive info true spiFlashWrenOpcode chip).2 = chip.enable := by
    rw [transmitReceive_last, idle]
    simp only [SerialFlash.execute, spiFlashWrenOpcode, List.nil_append, if_true]
    rw [SerialFlash.enable, ← idle]
  have still := idle.enable
  rw [setWriteEnable, readStatusRegister_eq idle]
  simp only [asked, readStatusRegister_eq still]
  have shown : (chip.enable.status &&& spiFlashWelBit != 0) = chip.obeys 0 := by
    show ((if chip.obeys 0 then (0x02 : UInt8) else 0x00) &&& spiFlashWelBit != 0) = _
    cases chip.obeys 0 <;> decide
  rw [shown]

/-- The bytes in front of the data. -/
def addressBytes (opcode : UInt8) (address : Nat) : List UInt8 :=
  [opcode, UInt8.ofNat ((address >>> 16) &&& 0xFF), UInt8.ofNat ((address >>> 8) &&& 0xFF),
    UInt8.ofNat ((address >>> 0) &&& 0xFF)]

/-- The address of a command that has data. -/
theorem sendAddress_more (idle : chip.Idle) (opcode : UInt8) (address : Nat) :
    sendAddress info opcode address false chip =
      { chip with shifted := addressBytes opcode address } := by
  simp only [sendAddress, transmitReceive_more]
  rw [idle]
  rfl

/-- The address of a command without data. -/
theorem sendAddress_last (idle : chip.Idle) (opcode : UInt8) (address : Nat) :
    sendAddress info opcode address true chip =
      chip.execute info.mtdSize info.sectorSize (addressBytes opcode address) := by
  have same : { chip with shifted := [] } = chip := by rw [← idle]
  simp only [sendAddress, transmitReceive_more, transmitReceive_last]
  rw [idle, same]
  rfl

/-- The data bytes follow the bytes that the chip has. -/
theorem sendData_eq (buf : Nat → UInt8) (ii left : Nat) :
    sendData info buf ii chip left =
      { chip with shifted := [] }.execute info.mtdSize info.sectorSize
        (chip.shifted ++ (List.range (left + 1)).map fun k => buf (ii + k)) := by
  induction left generalizing chip ii with
  | zero => rfl
  | succ left ih =>
    have order : chip.shifted ++ (List.range (left + 1 + 1)).map (fun k => buf (ii + k)) =
        chip.shifted ++ [buf ii] ++ (List.range (left + 1)).map fun k => buf (ii + 1 + k) := by
      rw [List.range_succ_eq_map, List.map_cons, List.map_map, List.append_assoc]
      congr 2
      apply List.map_congr_left
      intro k _
      show buf (ii + (k + 1)) = buf (ii + 1 + k)
      rw [Nat.add_assoc, Nat.add_comm 1 k]
    rw [sendData, ih, transmitReceive_more, order]

end Transfers

/-! ## The two routines -/

variable (info : SpiFlashInfo)

/-- The size of the device. -/
theorem mtdSize_eq : info.mtdSize = info.sectors * info.sectorSize := Nat.mod_eq_of_lt info.size_lt

/-- Erasing the sector at an address of the device, or right behind it. -/
theorem sectorErase_eq (idle : chip.Idle) {a : Nat} (inside : a ≤ info.mtdSize) :
    sectorErase info a chip = (chip.obeys 0, answered chip
      (if chip.obeys 0 then eraseSector info.mtdSize info.sectorSize chip.contents (a % 2 ^ 24)
      else chip.contents)) := by
  have within : ¬ a > u32 (info.sectors * info.sectorSize) := Nat.not_lt_of_le inside
  have still := idle.enable
  rw [sectorErase, if_neg within]
  simp only [setWriteEnable_eq idle]
  cases obeyed : chip.obeys 0 with
  | false =>
    simp only [Bool.false_eq_true, if_false]
    rw [SerialFlash.enable, obeyed]
    rfl
  | true =>
    have latched : chip.enable.writeEnabled = true := obeyed
    simp only [if_true]
    rw [sendAddress_last still, addressBytes]
    simp only [SerialFlash.execute, spiFlashSeOpcode, latched, if_true, flashAddress_bytes]
    rw [if_neg (by decide)]
    rfl

/-- Programming a piece that stays in its page. -/
theorem pageProgramDataBytes_eq (idle : chip.Idle) {a len : Nat} (buf : Nat → UInt8)
    (some_ : 0 < len) (short : len ≤ info.pageSize) (inside : a + len ≤ info.pages * info.pageSize)
    (small : info.pages * info.pageSize < 2 ^ 32)
    (onePage : a / info.pageSize = (a + len - 1) / info.pageSize) :
    pageProgramDataBytes info a buf len chip = (chip.obeys 0, answered chip
      (if chip.obeys 0 then
        programPage chip.contents (a % 2 ^ 24 / 256 * 256) (a % 2 ^ 24 % 256)
          ((List.range len).map buf)
      else chip.contents)) := by
  have sum : u32 (a + len) = a + len := Nat.mod_eq_of_lt (by omega)
  have total : u32 (info.pages * info.pageSize) = info.pages * info.pageSize :=
    Nat.mod_eq_of_lt small
  have last : u32Pred (a + len) = a + len - 1 := by
    rw [u32Pred, u32]
    omega
  have count : u32Pred len = len - 1 := by
    rw [u32Pred, u32]
    omega
  have still := idle.enable
  rw [pageProgramDataBytes, if_neg (by omega), sum, total, if_neg (by omega), last,
    if_neg (not_not_intro onePage)]
  simp only [setWriteEnable_eq idle]
  cases obeyed : chip.obeys 0 with
  | false =>
    simp only [Bool.false_eq_true, if_false]
    rw [SerialFlash.enable, obeyed]
    rfl
  | true =>
    have latched : chip.enable.writeEnabled = true := obeyed
    simp only [if_true]
    rw [sendAddress_more still, sendData_eq, count, Nat.sub_add_cancel some_]
    simp only [addressBytes, SerialFlash.execute, spiFlashPpOpcode, List.cons_append,
      List.nil_append, latched, if_true, flashAddress_bytes, Nat.zero_add]
    rw [if_neg (by decide), if_neg (by decide), answered, idle]
    rfl

/-- A piece that crosses a page boundary is refused. -/
theorem pageProgramDataBytes_crossing (chip : SerialFlash) {a len : Nat} (buf : Nat → UInt8)
    (some_ : 0 < len) (small : a + len < 2 ^ 32)
    (crossing : a / info.pageSize ≠ (a + len - 1) / info.pageSize) :
    pageProgramDataBytes info a buf len chip = (false, chip) := by
  have last : u32Pred (a + len) = a + len - 1 := by
    rw [u32Pred, u32]
    omega
  rw [pageProgramDataBytes, last, if_pos crossing]
  split
  · rfl
  · split <;> rfl

end Fvs318g.Verif.SpiFlash
