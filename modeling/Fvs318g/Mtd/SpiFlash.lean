import Fvs318g.Kernel.Base
import Fvs318g.Lib.SerialFlash

/-!
# The serial flash driver

`str8100_spiflash_erase` and `str8100_spiflash_write` on the bytes that they send to the chip.
Erasing looks for the first and the last sector of the request in two loops and erases the
sectors in between; writing cuts the data into pieces of a page, and the page routine refuses a
piece that crosses a page boundary.

`u32` numbers are natural numbers, reduced where the arithmetic of the source can wrap. The wait
loops in front of a command end when the chip is ready, so the model has the last poll of each.
A loop that need not end takes the number of rounds that it is given, and no result stands for a
call that has not returned by then.
-/

namespace Fvs318g.Mtd

open Kernel Lib

/-- A number as a `u32`. -/
def u32 (x : Nat) : Nat := x % 2 ^ 32

/-- `x - 1` on a `u32`. -/
def u32Pred (x : Nat) : Nat := u32 (x + 2 ^ 32 - 1)

/-- `SPI_FLASH_WREN_OPCODE`. -/
def spiFlashWrenOpcode : UInt8 := 0x06

/-- `SPI_FLASH_RDSR_OPCODE`. -/
def spiFlashRdsrOpcode : UInt8 := 0x05

/-- `SPI_FLASH_PP_OPCODE`. -/
def spiFlashPpOpcode : UInt8 := 0x02

/-- `SPI_FLASH_SE_OPCODE`. -/
def spiFlashSeOpcode : UInt8 := 0xD8

/-- `SPI_FLASH_WEL_BIT`. -/
def spiFlashWelBit : UInt8 := 0x02

/-- `SPI_FLASH_SECTOR_SIZE`. -/
def spiFlashSectorSize : Nat := 0x10000

/-- `SPI_FLASH_PAGE_SIZE`. -/
def spiFlashPageSize : Nat := 256

/-- `SPI_FLASH_MAX_PAGE_NUM`. -/
def spiFlashMaxPageNum : Nat := 32768

/-- The geometry in `struct spi_flash_info`. The size of the device is a `u32`. -/
structure SpiFlashInfo where
  /-- Number of sectors. -/
  sectors : Nat
  /-- Bytes of a sector. -/
  sectorSize : Nat
  /-- Number of pages. -/
  pages : Nat
  /-- Bytes of a page. -/
  pageSize : Nat
  /-- Sectors are not empty. -/
  sectorSize_pos : 0 < sectorSize
  /-- The size fits. -/
  size_lt : sectors * sectorSize < 2 ^ 32

/-- `mtd->size`, as `str8100_spiflash_init` sets it. -/
def SpiFlashInfo.mtdSize (info : SpiFlashInfo) : Nat := u32 (info.sectors * info.sectorSize)

/-- `mtd->erasesize`. -/
def SpiFlashInfo.mtdErasesize (info : SpiFlashInfo) : Nat := info.sectorSize

/-- The geometries of 4 MiB and 8 MiB fit. -/
theorem probe_size_lt {sectors : Nat} (few : sectors ≤ 128) :
    sectors * spiFlashSectorSize < 2 ^ 32 := by
  simp only [spiFlashSectorSize]
  omega

/-- A geometry with the sector and page sizes of the header. -/
def SpiFlashInfo.ofSectors (sectors pages : Nat) (few : sectors ≤ 128) : SpiFlashInfo where
  sectors := sectors
  sectorSize := spiFlashSectorSize
  pages := pages
  pageSize := spiFlashPageSize
  sectorSize_pos := Nat.succ_pos _
  size_lt := probe_size_lt few

/-- 64 sectors are few enough. -/
theorem sectors32_le : 64 ≤ 128 := by decide

/-- `spiflash_probe`: the chips of two makers, with 4 MiB and 8 MiB. -/
def spiflashProbe (manufacturerId deviceId : Nat) : Option SpiFlashInfo :=
  if manufacturerId = 0x20 ∧ deviceId = 0x2016 then some (.ofSectors 64 16384 sectors32_le)
  else if manufacturerId = 0x20 ∧ deviceId = 0x2017 then
    some (.ofSectors 128 32768 (Nat.le_refl _))
  else if manufacturerId = 0xC2 ∧ deviceId = 0x2016 then
    some (.ofSectors 64 16384 sectors32_le)
  else if manufacturerId = 0xC2 ∧ deviceId = 0x2017 then
    some (.ofSectors 128 32768 (Nat.le_refl _))
  else none

/-! ## Commands -/

/-- `Spi_Flash_Buffer_Transmit_Receive`: what is received, and the chip behind it. -/
def transmitReceive (info : SpiFlashInfo) (txEofFlag : Bool) (txData : UInt8)
    (chip : SerialFlash) : UInt8 × SerialFlash :=
  chip.transfer info.mtdSize info.sectorSize txEofFlag txData

/-- `Spi_Flash_Read_Status_Register`. -/
def readStatusRegister (info : SpiFlashInfo) (chip : SerialFlash) : UInt8 × SerialFlash :=
  let chip := (transmitReceive info false spiFlashRdsrOpcode chip).2
  transmitReceive info true 0xFF chip

/-- `Spi_Flash_Set_Write_Enable`. -/
def setWriteEnable (info : SpiFlashInfo) (chip : SerialFlash) : Bool × SerialFlash :=
  -- the poll that finds the chip ready
  let chip := (readStatusRegister info chip).2
  let chip := (transmitReceive info true spiFlashWrenOpcode chip).2
  let (statusReg, chip) := readStatusRegister info chip
  (statusReg &&& spiFlashWelBit != 0, chip)

/-- The opcode and the three address bytes; the last one closes the command if nothing follows. -/
def sendAddress (info : SpiFlashInfo) (opcode : UInt8) (address : Nat) (last : Bool)
    (chip : SerialFlash) : SerialFlash :=
  let chip := (transmitReceive info false opcode chip).2
  let chip := (transmitReceive info false (UInt8.ofNat ((address >>> 16) &&& 0xFF)) chip).2
  let chip := (transmitReceive info false (UInt8.ofNat ((address >>> 8) &&& 0xFF)) chip).2
  (transmitReceive info last (UInt8.ofNat ((address >>> 0) &&& 0xFF)) chip).2

/-- `Spi_Flash_Sector_Erase`. -/
def sectorErase (info : SpiFlashInfo) (sectorAddr : Nat) (chip : SerialFlash) :
    Bool × SerialFlash :=
  if sectorAddr > u32 (info.sectors * info.sectorSize) then (false, chip)
  else
    let (enabled, chip) := setWriteEnable info chip
    if enabled then (true, sendAddress info spiFlashSeOpcode sectorAddr true chip)
    else (false, chip)

/-- The data bytes of a page, from `ii` on; the last one closes the command. -/
def sendData (info : SpiFlashInfo) (writeBuffer : Nat → UInt8) (ii : Nat) (chip : SerialFlash) :
    Nat → SerialFlash
  | 0 => (transmitReceive info true (writeBuffer ii) chip).2
  | left + 1 =>
    sendData info writeBuffer (ii + 1) (transmitReceive info false (writeBuffer ii) chip).2 left

/-- `Spi_Flash_Page_Program_Data_Bytes`. The check of the range is two conditions, one inside the
other. -/
def pageProgramDataBytes (info : SpiFlashInfo) (address : Nat) (writeBuffer : Nat → UInt8)
    (len : Nat) (chip : SerialFlash) : Bool × SerialFlash :=
  if len > info.pageSize then (false, chip)
  else if u32 (address + len) > u32 (info.pages * info.pageSize) ∧
      u32 (address + len) > spiFlashMaxPageNum * spiFlashPageSize then (false, chip)
  else if address / info.pageSize ≠ u32Pred (address + len) / info.pageSize then (false, chip)
  else
    let (enabled, chip) := setWriteEnable info chip
    if enabled then
      let chip := sendAddress info spiFlashPpOpcode address false chip
      (true, sendData info writeBuffer 0 chip (u32Pred len))
    else (false, chip)

/-! ## Erasing -/

/-- `-EIO`. -/
def eio : Int := -5

/-- `instr->state`. -/
inductive MtdEraseState where
  /-- `MTD_ERASE_DONE`. -/
  | done
  /-- `MTD_ERASE_FAILED`. -/
  | failed
  deriving DecidableEq, Repr

/-- The request in `struct erase_info`. -/
structure EraseInfo where
  /-- First byte. -/
  addr : Nat
  /-- Number of bytes. -/
  len : Nat
  /-- `addr` is a `u32`. -/
  addr_lt : addr < 2 ^ 32
  /-- `len` is a `u32`. -/
  len_lt : len < 2 ^ 32

/-- What a call of `str8100_spiflash_erase` leaves. -/
structure EraseResult where
  /-- The return value. -/
  ret : Int
  /-- What is written to `instr->state`; the callback, if there is one, is called with it. -/
  state : Option MtdEraseState
  /-- The chip. -/
  chip : SerialFlash

/-- The sanity checks. -/
def eraseRefused (info : SpiFlashInfo) (instr : EraseInfo) : Bool :=
  u32 (instr.addr + instr.len) > info.mtdSize ||
    (instr.len % info.mtdErasesize != 0 || instr.len % info.sectorSize != 0) ||
    instr.addr % info.sectorSize != 0

/-- The two loops over the sectors, from `i` with `left` rounds to go: the index before the first
one that is not skipped, or the initial zero. -/
def searchSector (skip : Nat → Bool) (i : Nat) : Nat → Nat
  | 0 => 0
  | left + 1 => if skip i then searchSector skip (i + 1) left else u32Pred i

/-- `start_sector`. -/
def startSector (info : SpiFlashInfo) (instr : EraseInfo) : Nat :=
  searchSector (fun i => instr.addr ≥ u32 (i * info.sectorSize)) 0 info.sectors

/-- `end_sector`. -/
def endSector (info : SpiFlashInfo) (instr : EraseInfo) : Nat :=
  let start := startSector info instr
  searchSector (fun i => u32 (instr.addr + instr.len) > u32 (i * info.sectorSize)) start
    (info.sectors - start)

/-- The loop over the sectors to erase: whether it came to its end, and the chip. -/
def eraseLoop (info : SpiFlashInfo) (endSector i : Nat) (chip : SerialFlash) :
    Nat → Option (Bool × SerialFlash)
  | 0 => none
  | rounds + 1 =>
    if i ≤ endSector then
      let (erased, chip) := sectorErase info (u32 (i * info.sectorSize)) chip
      if erased then eraseLoop info endSector (u32 (i + 1)) chip rounds else some (false, chip)
    else some (true, chip)

/-- `str8100_spiflash_erase`. -/
def spiflashErase (info : SpiFlashInfo) (instr : EraseInfo) (chip : SerialFlash) (rounds : Nat) :
    Option EraseResult :=
  if eraseRefused info instr then some ⟨-einval, none, chip⟩
  else
    (eraseLoop info (endSector info instr) (startSector info instr) chip rounds).map
      fun (complete, chip) =>
        if complete then ⟨0, some .done, chip⟩ else ⟨eio, some .failed, chip⟩

/-! ## Writing -/

/-- What a call of `str8100_spiflash_write` leaves. -/
structure WriteResult where
  /-- The return value. -/
  ret : Int
  /-- What is written to `*retlen`. -/
  retlen : Option Nat
  /-- The chip. -/
  chip : SerialFlash

/-- The loop over the pieces: `left` bytes to go, `total` bytes programmed. -/
def writeLoop (info : SpiFlashInfo) (to_ : Int) (buf : Nat → UInt8) (left total : Nat)
    (chip : SerialFlash) : Nat → Option WriteResult
  | 0 => none
  | rounds + 1 =>
    if left = 0 then some ⟨0, some total, chip⟩
    else
      let progSize := if left ≥ info.pageSize then info.pageSize else left
      let address := ((to_ + total) % 2 ^ 32).toNat
      let (programmed, chip) :=
        pageProgramDataBytes info address (fun i => buf (total + i)) progSize chip
      if programmed then
        writeLoop info to_ buf (left - progSize) (total + progSize) chip rounds
      else some ⟨eio, some total, chip⟩

/-- `str8100_spiflash_write`; `to_` is a 64-bit offset and `len` a `u32`. -/
def spiflashWrite (info : SpiFlashInfo) (to_ : Int) (len : Nat) (buf : Nat → UInt8)
    (chip : SerialFlash) (rounds : Nat) : Option WriteResult :=
  if len = 0 then some ⟨0, none, chip⟩
  else if to_ + len > info.mtdSize then some ⟨-einval, none, chip⟩
  else writeLoop info to_ buf len 0 chip rounds

end Fvs318g.Mtd
