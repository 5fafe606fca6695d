import Fvs318g.Lib.OnesComplement
import Fvs318g.Kernel.SkBuff

/-!
# Internet checksums of the ARM port

`csum_partial` of `arch/arm/lib/csumpartial.S` and the inline assembly of `asm-arm/checksum.h`. The
sum is built by `adcs` instructions that hand the carry flag on from one to the next; no instruction
between them changes the flag. A buffer is its address, of which only the alignment matters, and its
bytes. Words are read in the order of a little-endian machine.
-/

namespace Fvs318g.Kernel

open Lib

/-! ## Loads -/

/-- `ldrh`: the half-word at the head of the bytes. -/
def halfword (b c : UInt8) : UInt32 := UInt32.ofNat (b.toNat + 256 * c.toNat)

/-- `ldr`: the word at the head of the bytes. -/
def loadWord (b c d e : UInt8) : UInt32 :=
  UInt32.ofNat (b.toNat + 256 * c.toNat + 2 ^ 16 * (d.toNat + 256 * e.toNat))

/-- The bytes that are left at `buf`, with `sum` and the carry flag. -/
structure CsumRegs where
  /-- The bytes from `buf` on. -/
  data : List UInt8
  /-- `sum` and the flag. -/
  acc : Accumulator

namespace CsumRegs

/-- `ldrb` and `adcs`, with the byte shifted to its place in the half-word: `put_byte_0` or
`put_byte_1`. -/
def byte (r : CsumRegs) (shift : UInt32) : CsumRegs :=
  match r.data with
  | b :: rest => ⟨rest, r.acc.adc (b.toUInt32 <<< shift)⟩
  | [] => r

/-- `ldrh` and `adcs`. -/
def half (r : CsumRegs) : CsumRegs :=
  match r.data with
  | b :: c :: rest => ⟨rest, r.acc.adc (halfword b c)⟩
  | _ => r

/-- `ldr` and `adcs`. -/
def word (r : CsumRegs) : CsumRegs :=
  match r.data with
  | b :: c :: d :: e :: rest => ⟨rest, r.acc.adc (loadWord b c d e)⟩
  | _ => r

/-- One round at `2:`, two `ldmia` of four registers each. -/
def block (r : CsumRegs) : CsumRegs := word^[8] r

/-- From `.Lless4` on: half-words while bits 1 and 2 of `len` are set, then an odd byte. -/
def less4 (r : CsumRegs) : CsumRegs :=
  let r := half^[r.data.length % 8 / 2] r
  if r.data.length % 2 = 1 then r.byte 0 else r

/-- `.Lnot_aligned`: a byte up to an even address, then a half-word up to a multiple of four. -/
def notAligned (r : CsumRegs) (buf : Nat) : CsumRegs :=
  let odd := buf % 2 = 1
  let r := if odd then r.byte 8 else r
  let buf := if odd then buf + 1 else buf
  if buf / 2 % 2 = 1 then r.half else r

/-- From `1:` on: blocks of 32 bytes, then words while bits 2 to 4 of `len` are set. -/
def aligned (r : CsumRegs) : CsumRegs :=
  let r := block^[r.data.length / 32] r
  let r := word^[r.data.length % 32 / 4] r
  r.less4

/-- `.Ldone`: the last carry, and the rotation back for an odd address. -/
def done (r : CsumRegs) (buf : Nat) : UInt32 :=
  if buf % 2 = 1 then rotateByte r.acc.finish else r.acc.finish

end CsumRegs

/-- `csum_partial`. For an odd address the sum is rotated at the start. -/
def csumPartial (buf : Nat) (data : List UInt8) (sum : UInt32) : UInt32 :=
  let sum' := if buf % 2 = 1 then rotateByte sum else sum
  let r : CsumRegs := ⟨data, .start sum'⟩
  if data.length < 8 then
    -- `.Lless8`
    if data.length = 0 then sum
    else
      let r := if buf % 2 = 1 then r.byte 8 else r
      r.less4.done buf
  else
    let r := if buf % 4 ≠ 0 then r.notAligned buf else r
    r.aligned.done buf

/-! ## Folding -/

/-- `csum_fold`: the upper half of `adds sum, sum, sum, lsl #16` with the carry, complemented. -/
def csumFold (sum : UInt32) : UInt16 :=
  let shifted := sum.toNat % 2 ^ 16 * 2 ^ 16
  let folded :=
    if 2 ^ 32 ≤ sum.toNat + shifted then (sum.toNat + shifted + 0x10000) % 2 ^ 32
    else sum.toNat + shifted
  UInt16.ofNat (0xffff - folded / 2 ^ 16)

/-- `ip_fast_csum` of a header of at least five words. -/
def ipFastCsum (header : List UInt8) : UInt16 :=
  match header with
  | b :: c :: d :: e :: rest =>
    let r : CsumRegs := ⟨rest, .start (loadWord b c d e)⟩
    csumFold (CsumRegs.word^[rest.length / 4] r).acc.finish
  | _ => 0

/-- `csum_tcpudp_magic`. -/
def csumTcpudpMagic (saddr daddr : UInt32) (len proto : UInt16) (sum : UInt32) : UInt16 :=
  csumFold
    ([saddr, (htons len).toUInt32, (htons proto).toUInt32].foldl Accumulator.adc
      ((Accumulator.start sum).adc daddr)).finish

end Fvs318g.Kernel
