import Mathlib.Algebra.Order.Group.Unbundled.Int
import Mathlib.Algebra.BigOperators.Group.List.Basic
import Mathlib.Data.UInt

/-!
# Positions of an edited stream

Bytes of a stream are numbered by integers. An edit at a position makes the stream longer or shorter
from there on, so a position behind it is shifted. On the wire a position is its residue modulo
2^32, and two positions are compared by the sign of the difference of their residues; within half of
the range this is the order of the positions.
-/

namespace Fvs318g.Lib

/-! ## Residues -/

/-- The sign of the difference, as a 32-bit number, is negative. -/
def before (a b : UInt32) : Bool := decide (2 ^ 31 ≤ (a - b).toNat)

/-- An integer as a word, modulo `2 ^ 32`. -/
theorem toNat_ofInt (n : Int) : ((UInt32.ofInt n).toNat : Int) = n % 2 ^ 32 := by
  have low : 0 ≤ n % 2 ^ 32 := Int.emod_nonneg _ (by decide)
  have high : n % 2 ^ 32 < 2 ^ 32 := Int.emod_lt_of_pos _ (by decide)
  rw [UInt32.ofInt, UInt32.toNat_ofNat', Nat.mod_eq_of_lt (by omega), Int.toNat_of_nonneg low]

/-- Words of integers subtract as the integers do. -/
theorem ofInt_sub (m n : Int) : UInt32.ofInt (m - n) = UInt32.ofInt m - UInt32.ofInt n := by
  rw [Int.sub_eq_add_neg, UInt32.ofInt_add, UInt32.ofInt_neg, UInt32.sub_eq_add_neg]

/-- Residues are compared like the positions, if these are less than half of the range apart. -/
theorem before_ofInt {m n : Int} (low : n - m < 2 ^ 31) (high : m - n < 2 ^ 31) :
    before (UInt32.ofInt m) (UInt32.ofInt n) = decide (m < n) := by
  have residue := toNat_ofInt (m - n)
  rw [before, ← ofInt_sub, decide_eq_decide]
  omega

/-- A position is determined by its residue up to the range. -/
theorem ofInt_eq_iff (m n : Int) : UInt32.ofInt m = UInt32.ofInt n ↔ m % 2 ^ 32 = n % 2 ^ 32 := by
  rw [← UInt32.toNat_inj, ← toNat_ofInt, ← toNat_ofInt]
  omega

/-! ## Edits -/

/-- The stream changes its length at a position. -/
structure Edit where
  /-- The position. -/
  pos : Int
  /-- The difference of the lengths. -/
  change : Int
  deriving DecidableEq, Repr

/-- By how much the edits before a position shift it. -/
def shift (edits : List Edit) (n : Int) : Int :=
  ((edits.filter fun e => e.pos < n).map Edit.change).sum

/-- By how much all edits together shift. -/
def totalShift (edits : List Edit) : Int := (edits.map Edit.change).sum

/-- Without edits nothing is shifted. -/
@[simp] theorem shift_nil (n : Int) : shift [] n = 0 := rfl

/-- An edit shifts what lies behind it. -/
theorem shift_cons (e : Edit) (edits : List Edit) (n : Int) :
    shift (e :: edits) n = (if e.pos < n then e.change else 0) + shift edits n := by
  unfold shift
  by_cases earlier : e.pos < n
  · rw [List.filter_cons_of_pos (by simpa using earlier), if_pos earlier, List.map_cons,
      List.sum_cons]
  · rw [List.filter_cons_of_neg (by simpa using earlier), if_neg earlier, Int.zero_add]

/-- Behind all edits the whole shift applies. -/
theorem shift_of_forall_lt {edits : List Edit} {n : Int} (behind : ∀ e ∈ edits, e.pos < n) :
    shift edits n = totalShift edits := by
  rw [shift, List.filter_eq_self.mpr (by simpa using behind), totalShift]

/-- An edit adds its change to the whole shift. -/
theorem totalShift_cons (e : Edit) (edits : List Edit) :
    totalShift (e :: edits) = e.change + totalShift edits := by
  rw [totalShift, List.map_cons, List.sum_cons, totalShift]

end Fvs318g.Lib
