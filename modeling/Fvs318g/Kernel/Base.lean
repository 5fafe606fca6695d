import Mathlib.Data.List.Basic

/-!
# What the kernel code shares

Constants of the kernel, and its comparison of strings, which drivers and helpers use alike.
-/

namespace Fvs318g.Kernel

/-- `HZ`. -/
def hz : Nat := 100

/-- `EFAULT`. -/
def efault : Int := 14

/-- `EINVAL`. -/
def einval : Int := 22

/-- `IPPROTO_ICMP`. -/
def ipprotoIcmp : UInt8 := 1

/-- `IPPROTO_TCP`. -/
def ipprotoTcp : UInt8 := 6

/-- `IPPROTO_UDP`. -/
def ipprotoUdp : UInt8 := 17

/-- `isupper`, by the table `_ctype` for Latin-1. -/
def isupper (c : UInt8) : Bool := (65 ≤ c && c ≤ 90) || (192 ≤ c && c ≤ 214) || (216 ≤ c && c ≤ 222)

/-- `islower`, by the same table. -/
def islower (c : UInt8) : Bool := (97 ≤ c && c ≤ 122) || (223 ≤ c && c ≤ 246) || 248 ≤ c

/-- `isalpha`. -/
def isalpha (c : UInt8) : Bool := isupper c || islower c

/-- `tolower`. -/
def tolower (c : UInt8) : UInt8 := if isupper c then c + 32 else c

/-- `strnicmp`; it has no result when it leaves one of the arrays. -/
def strnicmp : List UInt8 → List UInt8 → Nat → Option Int
  | _, _, 0 => some 0
  | c1 :: s1, c2 :: s2, n + 1 =>
    if c1 = 0 ∨ c2 = 0 then some (c1.toNat - c2.toNat)
    else if c1 = c2 ∨ tolower c1 = tolower c2 then strnicmp s1 s2 n
    else some ((tolower c1).toNat - (tolower c2).toNat)
  | _, _, _ => none

end Fvs318g.Kernel
