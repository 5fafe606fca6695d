import Fvs318g.Kernel.Base
import Mathlib.Data.Nat.Bitwise
import Mathlib.Logic.Function.Basic

/-!
# MAC addresses from the flash

At the start `star_gsw_init_module` copies twelve characters from the manufacturing area of the
flash to a buffer on the stack, reads them as a hexadecimal number and derives the addresses of
the four VLAN devices from it. The buffer has no closing NUL: the number parser reads on in the
memory that follows it.
-/

namespace Fvs318g.Gsw

/-! ## Characters and numbers -/

/-- `isdigit`. -/
def isdigit (c : UInt8) : Bool := 48 ≤ c && c ≤ 57

/-- `isxdigit`. -/
def isxdigit (c : UInt8) : Bool := isdigit c || (65 ≤ c && c ≤ 70) || (97 ≤ c && c ≤ 102)

/-- `toupper`. -/
def toupper (c : UInt8) : UInt8 := if Kernel.islower c then c - 32 else c

/-- `value` in `simple_strtoull`, for a hexadecimal digit. -/
def digitValue (c : UInt8) : Nat :=
  if isdigit c then c.toNat - 48 else (toupper c).toNat - 65 + 10

/-- The loop of `simple_strtoull` over the characters from `cp` on, with an `unsigned long long`
result. There is no result when it does not meet its end in the given memory. -/
def parseDigits (base result : Nat) : List UInt8 → Option Nat
  | [] => none
  | c :: cp =>
    if isxdigit c ∧ digitValue c < base then
      parseDigits base ((result * base + digitValue c) % 2 ^ 64) cp
    else some result

/-- `simple_strtoull` on the characters from `cp` on. -/
def simpleStrtoull (cp : List UInt8) (base : Nat) : Option Nat :=
  if base = 0 then
    match cp with
    | [] => none
    | c :: rest =>
      if c = 48 then
        match rest with
        | [] => none
        | [x] => if toupper x = 88 then none else parseDigits 8 0 rest
        | x :: next :: more =>
          if toupper x = 88 ∧ isxdigit next then parseDigits 16 0 (next :: more)
          else parseDigits 8 0 rest
      else parseDigits 10 0 cp
  else if base = 16 then
    match cp with
    | [] => none
    | [c] => if c = 48 then none else parseDigits 16 0 cp
    | c :: x :: more =>
      if c = 48 ∧ toupper x = 88 then parseDigits 16 0 more else parseDigits 16 0 cp
  else parseDigits base 0 cp

/-! ## Addresses -/

/-- A MAC address, first byte first. -/
abbrev Mac := Fin 6 → UInt8

/-- `reverse_mac`. -/
def reverseMac (mac : Mac) : Mac := fun i => mac (Fin.rev i)

/-- `memcpy(mac, &number, 6)`, with the low byte first. -/
def macOfNumber (number : Nat) : Mac := fun i => UInt8.ofNat (number / 256 ^ i.val)

/-- `my_vlan0_mac` to `my_vlan3_mac`. -/
structure VlanMacs where
  /-- `my_vlan0_mac`. -/
  vlan0 : Mac
  /-- `my_vlan1_mac`: the LAN address. -/
  vlan1 : Mac
  /-- `my_vlan2_mac`: the WAN address. -/
  vlan2 : Mac
  /-- `my_vlan3_mac`. -/
  vlan3 : Mac

/-- An address that differs from the others of the board header in its last byte. -/
def boardMac (last : UInt8) : Mac
  | 0 => 0x00
  | 1 => 0xaa
  | 2 => 0xbb
  | 3 => 0xcc
  | 4 => 0xcc
  | 5 => last

/-- The initial values in the board header `vela.h`. -/
def boardMacs : VlanMacs := ⟨boardMac 0x11, boardMac 0x21, boardMac 0x31, boardMac 0x41⟩

/-- The first six characters are all NUL, or all of erased flash: `hasmac` stays 0. -/
def blankMac (vMac : List UInt8) : Bool :=
  vMac.take 6 == List.replicate 6 0 || vMac.take 6 == List.replicate 6 0xFF

/-- `++mac[5]`. -/
def nextMac (mac : Mac) : Mac := Function.update mac 5 (mac 5 + 1)

/-- The addresses from the parsed number. -/
def deriveMacs (tmp : Nat) : VlanMacs :=
  let lan := reverseMac (macOfNumber tmp)
  -- `wan` is an `unsigned long` of which three bytes are copied from and to the number.
  let wan := (tmp % 2 ^ 24 + 2) % 2 ^ 32
  let tmp := tmp / 2 ^ 24 * 2 ^ 24 + wan % 2 ^ 24
  let mac := reverseMac (macOfNumber tmp)
  let third := nextMac mac
  ⟨nextMac third, lan, mac, third⟩

/-- The address setup of `star_gsw_init_module`: `vMac` are the characters from the flash and
`behind` is the memory that follows their copy. -/
def flashMacs (vMac : Vector UInt8 12) (behind : List UInt8) : Option VlanMacs :=
  if blankMac vMac.toList then some boardMacs
  else (simpleStrtoull (vMac.toList ++ behind) 16).map deriveMacs

end Fvs318g.Gsw
