import Fvs318g.Lib.CString

/-!
# Looking up a name in the environment block

`fmg_get` searches a copy of the environment area of the flash for a name, at the start of the
block and behind every NUL, and gives the address and the length of what follows the name up to an
end character. The memory is the block with whatever lies behind it: there is no result when a
search does not come to its end in it.
-/

namespace Fvs318g.Gsw

open Lib

/-- The characters of a C string, without the NUL that closes it. -/
structure CString where
  /-- The characters. -/
  chars : List UInt8
  /-- None of them is NUL. -/
  nonzero : 0 ∉ chars

/-- `strlen`. -/
def CString.strlen (s : CString) : Nat := s.chars.length

/-- `!memcmp(n, name, strlen(name))`. -/
def nameAt (memory : List UInt8) (name : CString) (n : Nat) : Bool :=
  (memory.drop n).take name.strlen == name.chars

/-- The search loop from `n` on, with `left` rounds before the end of the block is too close. -/
def fmgScan (memory : List UInt8) (name : CString) (n : Nat) : Nat → Option Nat
  | 0 => none
  | left + 1 =>
    if memory.getD n 0 = 0 then
      if nameAt memory name (n + 1) then some (n + 1) else fmgScan memory name (n + 1) left
    else fmgScan memory name (n + 1) left

/-- Where the name is found. -/
def fmgFind (size : Nat) (memory : List UInt8) (name : CString) : Option Nat :=
  if nameAt memory name 0 then some 0 else fmgScan memory name 0 (size - name.strlen)

/-- What a call of `fmg_get` leaves. -/
structure FmgResult where
  /-- The return value. -/
  ret : Int
  /-- `*ret_value`, as an offset into the block, and `*ret_len`, when they are written. -/
  value : Option (Nat × Int)
  deriving DecidableEq, Repr

/-- The result for a name found at `n`, from how far behind `n` the end character is. -/
def fmgResult (name : CString) (n : Nat) : Option Nat → FmgResult
  | none => ⟨-2, none⟩
  | some distance => ⟨0, some (n + name.strlen, (distance : Int) - name.strlen)⟩

/-- `fmg_get`. `mtdBuf` is the block of `CONFIG_STAR_NIC_PARAM_MTD_SIZE` bytes, `behind` the memory
that follows it and `valueEnd` is `CONFIG_STAR_NIC_PARAM_MAC_VALUE_END`. -/
def fmgGet {size : Nat} (mtdBuf : Vector UInt8 size) (behind : List UInt8) (valueEnd : UInt8)
    (name : CString) : Option FmgResult :=
  let memory := mtdBuf.toList ++ behind
  match fmgFind size memory name with
  | none => some ⟨-1, none⟩
  | some n =>
    -- The search for the end starts at the name, not behind it.
    (strchr valueEnd (memory.drop n)).map (fmgResult name n)

end Fvs318g.Gsw
