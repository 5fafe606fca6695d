import Mathlib.Logic.Function.Basic
import Fvs318g.Lib.Bytes

/-!
# A serial flash chip

The master of a serial bus shifts bytes into the chip. The byte that carries the end mark closes
a command, and the chip carries the command out. A command that changes the memory is carried
out once behind a write enable command that the chip has obeyed; which of these it obeys is left
open. Addresses have three bytes.

Erasing sets every byte of the sector that contains the address. Programming can only clear bits,
and it stays inside a page of 256 bytes: what is sent beyond the end of the page goes to its
start.
-/

namespace Fvs318g.Lib

/-! ## What commands do to the memory -/

/-- The number that three address bytes stand for. -/
def flashAddress (high mid low : UInt8) : Nat := high.toNat * 65536 + mid.toNat * 256 + low.toNat

/-- The bytes of an address give it back below 16 MiB. -/
theorem flashAddress_bytes (a : Nat) :
    flashAddress (UInt8.ofNat ((a >>> 16) &&& 0xFF)) (UInt8.ofNat ((a >>> 8) &&& 0xFF))
      (UInt8.ofNat ((a >>> 0) &&& 0xFF)) = a % 2 ^ 24 := by
  have byte (x : Nat) : (UInt8.ofNat (x &&& 0xFF)).toNat = x % 256 := by
    rw [show (0xFF : Nat) = 2 ^ 8 - 1 from rfl, Nat.and_two_pow_sub_one_eq_mod,
      UInt8.toNat_ofNat', Nat.mod_mod]
  rw [flashAddress, byte, byte, byte, Nat.shiftRight_eq_div_pow, Nat.shiftRight_eq_div_pow,
    Nat.shiftRight_zero]
  omega

/-- Erase the sector that contains an address. An address behind the memory has no sector. -/
def eraseSector (size sectorSize : Nat) (m : Memory) (a : Nat) : Memory :=
  if a < size then memset m (a / sectorSize * sectorSize) 0xFF sectorSize else m

/-- Program bytes from an offset in a page on, around its end. -/
def programPage (m : Memory) (page offset : Nat) : List UInt8 → Memory
  | [] => m
  | byte :: rest =>
    let a := page + offset % 256
    programPage (Function.update m a (m a &&& byte)) page (offset + 1) rest

/-- Programming leaves the other pages alone. -/
theorem programPage_outside (m : Memory) (page offset : Nat) (data : List UInt8) {a : Nat}
    (outside : a < page ∨ page + 256 ≤ a) : programPage m page offset data a = m a := by
  induction data generalizing m offset with
  | nil => rfl
  | cons byte rest ih =>
    rw [programPage, ih, Function.update_of_ne]
    have inside := Nat.mod_lt offset (show 0 < 256 by decide)
    omega

/-- What fits the page is programmed in order, and nothing else changes. -/
theorem programPage_apply (m : Memory) (page offset : Nat) (data : List UInt8) (a : Nat)
    (fits : offset + data.length ≤ 256) :
    programPage m page offset data a =
      if page + offset ≤ a ∧ a < page + offset + data.length then
        m a &&& data.getD (a - (page + offset)) 0
      else m a := by
  induction data generalizing m offset with
  | nil =>
    rw [programPage, if_neg]
    simp only [List.length_nil]
    omega
  | cons byte rest ih =>
    simp only [List.length_cons] at fits ⊢
    have place : offset % 256 = offset := Nat.mod_eq_of_lt (by omega)
    rw [programPage, ih _ _ (by omega), place]
    by_cases first : a = page + offset
    · rw [if_neg (by omega), if_pos (by omega), first, Function.update_self, Nat.sub_self]
      rfl
    · rw [Function.update_of_ne first]
      by_cases later : page + (offset + 1) ≤ a ∧ a < page + (offset + 1) + rest.length
      · rw [if_pos later, if_pos (by omega),
          show a - (page + offset) = a - (page + (offset + 1)) + 1 by omega, List.getD_cons_succ]
      · rw [if_neg later, if_neg (by omega)]

/-! ## The chip -/

/-- A chip between two bytes. -/
structure SerialFlash where
  /-- The memory. -/
  contents : Memory
  /-- The write enable latch. -/
  writeEnabled : Bool
  /-- The bytes of the command in progress. -/
  shifted : List UInt8
  /-- Whether the chip obeys the write enable commands to come. -/
  obeys : Nat → Bool

namespace SerialFlash

variable {size sectorSize : Nat} {chip : SerialFlash}

/-- The status register: only the write enable latch shows, because a chip that is asked has
finished what it did. -/
def status (chip : SerialFlash) : UInt8 := if chip.writeEnabled then 0x02 else 0x00

/-- Carry out a command. Reading commands and unknown ones change nothing. -/
def execute (size sectorSize : Nat) (chip : SerialFlash) : List UInt8 → SerialFlash
  | [] => chip
  | opcode :: arguments =>
    if opcode = 0x06 then
      { chip with writeEnabled := chip.obeys 0, obeys := fun n => chip.obeys (n + 1) }
    else if chip.writeEnabled then
      match arguments with
      | high :: mid :: low :: data =>
        let a := flashAddress high mid low
        if opcode = 0xD8 then
          { chip with
            writeEnabled := false, contents := eraseSector size sectorSize chip.contents a }
        else if opcode = 0x02 then
          { chip with
            writeEnabled := false
            contents := programPage chip.contents (a / 256 * 256) (a % 256) data }
        else chip
      | _ => chip
    else chip

/-- Exchange one byte with the chip. The second byte of a status command comes back as the
status. -/
def transfer (size sectorSize : Nat) (last : Bool) (byte : UInt8) (chip : SerialFlash) :
    UInt8 × SerialFlash :=
  let received := if chip.shifted = [0x05] then chip.status else 0xFF
  let shifted := chip.shifted ++ [byte]
  (received,
    if last then execute size sectorSize { chip with shifted := [] } shifted
    else { chip with shifted := shifted })

/-- The chip waits for a command. -/
def Idle (chip : SerialFlash) : Prop := chip.shifted = []

/-- The chip obeys every command. -/
def Accepting (chip : SerialFlash) : Prop := ∀ n, chip.obeys n = true

/-- The chip behind a write enable command. -/
def enable (chip : SerialFlash) : SerialFlash :=
  { chip with writeEnabled := chip.obeys 0, obeys := fun n => chip.obeys (n + 1) }

/-- The command is over. -/
theorem Idle.enable (idle : chip.Idle) : chip.enable.Idle := idle

end SerialFlash

end Fvs318g.Lib
