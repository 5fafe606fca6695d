import Mathlib.Data.Nat.ModEq
import Mathlib.Data.UInt

/-!
# One's complement sums

The sum of bytes in memory as 16-bit words, with the carry added back at the low end. Such a sum is
determined by the plain sum of the words: it is its remainder modulo 65535, except that only a plain
sum of zero has the representation zero. A processor adds wider words and keeps the carry in a flag;
the accumulator here holds a word and that flag, with the fact that adding the flag cannot overflow.
-/

namespace Fvs318g.Lib

/-! ## The folded sum -/

/-- The 16-bit one's complement representation of a plain sum. -/
def fold16 (n : Nat) : Nat := if n = 0 then 0 else (n - 1) % 65535 + 1

/-- Two plain sums have the same representation when they agree modulo 65535 and are zero
together. -/
theorem fold16_eq_iff (m n : Nat) :
    fold16 m = fold16 n ↔ m % 65535 = n % 65535 ∧ (m = 0 ↔ n = 0) := by
  unfold fold16
  split <;> split <;> omega

/-- The representation of a sum depends on its parts by their representations. -/
theorem fold16_add {m m' n n' : Nat} (left : fold16 m = fold16 m') (right : fold16 n = fold16 n') :
    fold16 (m + n) = fold16 (m' + n') := by
  rw [fold16_eq_iff] at left right ⊢
  omega

/-! ## Sums of bytes -/

/-- The sum of bytes as little-endian 16-bit words; a last odd byte is a low byte. -/
def wordSum : List UInt8 → Nat
  | [] => 0
  | [b] => b.toNat
  | b :: c :: rest => b.toNat + 256 * c.toNat + wordSum rest

/-- Bytes behind an even number of others are summed on their own. -/
theorem wordSum_append {front : List UInt8} (back : List UInt8) (even : front.length % 2 = 0) :
    wordSum (front ++ back) = wordSum front + wordSum back := by
  induction front using wordSum.induct with
  | case1 => simp [wordSum]
  | case2 b => simp at even
  | case3 b c rest ih =>
    have restEven : rest.length % 2 = 0 := by
      simp only [List.length_cons] at even
      omega
    simp only [List.cons_append, wordSum, ih restEven]
    omega

/-- Bytes behind an odd one change places in their words: this multiplies their sum by 256. -/
theorem fold16_wordSum_cons (b : UInt8) (rest : List UInt8) :
    fold16 (b.toNat + 256 * wordSum rest) = fold16 (wordSum (b :: rest)) := by
  induction rest using wordSum.induct generalizing b with
  | case1 => simp [wordSum]
  | case2 c => simp [wordSum]
  | case3 c d rest ih =>
    have tail := ih d
    rw [fold16_eq_iff] at tail ⊢
    simp only [wordSum] at tail ⊢
    omega

/-! ## Addition with the carry kept in a flag -/

/-- A 32-bit word and a carry that is still to be added to it. -/
structure Accumulator where
  /-- The word. -/
  sum : UInt32
  /-- The carry flag. -/
  carry : Bool
  /-- Adding the carry does not overflow. -/
  room : sum.toNat + carry.toNat < 2 ^ 32

namespace Accumulator

/-- The word without a carry. -/
theorem room_start (sum : UInt32) : sum.toNat + false.toNat < 2 ^ 32 := sum.toNat_lt

/-- Start from a word, with the flag clear. -/
def start (sum : UInt32) : Accumulator := ⟨sum, false, room_start sum⟩

variable (a : Accumulator)

/-- The word with the carry added. -/
def value : Nat := a.sum.toNat + a.carry.toNat

/-- A sum starts as the word it is given. -/
@[simp] theorem value_start (sum : UInt32) : (start sum).value = sum.toNat := rfl

/-- The sum of two words and the flag, before it is cut to 32 bits. -/
def total (v : UInt32) : Nat := a.sum.toNat + v.toNat + a.carry.toNat

/-- A word that was just cut has room for the carry. -/
theorem room_adc (v : UInt32) :
    (UInt32.ofNat (a.total v)).toNat + (decide (2 ^ 32 ≤ a.total v)).toNat < 2 ^ 32 := by
  have word : v.toNat < 2 ^ 32 := v.toNat_lt
  have room := a.room
  rw [UInt32.toNat_ofNat']
  unfold total
  by_cases wraps : 2 ^ 32 ≤ a.sum.toNat + v.toNat + a.carry.toNat
  · simp only [wraps, decide_true, Bool.toNat_true]
    omega
  · simp only [wraps, decide_false, Bool.toNat_false]
    omega

/-- Add a word and the flag; the flag takes the carry of the sum. -/
def adc (v : UInt32) : Accumulator :=
  ⟨UInt32.ofNat (a.total v), decide (2 ^ 32 ≤ a.total v), a.room_adc v⟩

/-- Addition keeps the representation of the sum. -/
theorem fold16_value_adc (v : UInt32) : fold16 (a.adc v).value = fold16 (a.value + v.toNat) := by
  have word : v.toNat < 2 ^ 32 := v.toNat_lt
  have room := a.room
  rw [fold16_eq_iff]
  simp only [value, adc, UInt32.toNat_ofNat']
  unfold total
  by_cases wraps : 2 ^ 32 ≤ a.sum.toNat + v.toNat + a.carry.toNat
  · simp only [wraps, decide_true, Bool.toNat_true]
    omega
  · simp only [wraps, decide_false, Bool.toNat_false]
    omega

/-- Add the flag a last time. -/
def finish : UInt32 := UInt32.ofNat a.value

/-- The final word is the value of the sum. -/
@[simp] theorem toNat_finish : a.finish.toNat = a.value := UInt32.toNat_ofNat_of_lt a.room

/-- A chain of additions keeps the representation of the sum. -/
theorem fold16_value_foldl (words : List UInt32) (a : Accumulator) :
    fold16 (words.foldl adc a).value = fold16 (a.value + (words.map UInt32.toNat).sum) := by
  induction words generalizing a with
  | nil => simp
  | cons v words ih =>
    rw [List.foldl_cons, ih, List.map_cons, List.sum_cons, ← Nat.add_assoc]
    exact fold16_add (a.fold16_value_adc v) rfl

end Accumulator

/-- Rotate a word right by one byte. -/
def rotateByte (x : UInt32) : UInt32 := (x >>> 8) ||| (x <<< 24)

/-- The value after the rotation. -/
theorem toNat_rotateByte (x : UInt32) :
    (rotateByte x).toNat = x.toNat / 256 + x.toNat % 256 * 2 ^ 24 := by
  have bound : x.toNat < 2 ^ 32 := x.toNat_lt
  have high : x.toNat <<< 24 % 2 ^ 32 = (x.toNat % 256) <<< 24 := by
    rw [Nat.shiftLeft_eq, Nat.shiftLeft_eq]
    omega
  have low : x.toNat >>> 8 < 2 ^ 24 := by
    rw [Nat.shiftRight_eq_div_pow]
    omega
  unfold rotateByte
  rw [UInt32.toNat_or, UInt32.toNat_shiftLeft, UInt32.toNat_shiftRight]
  show x.toNat >>> 8 ||| x.toNat <<< 24 % 2 ^ 32 = _
  rw [high, Nat.or_comm, ← Nat.shiftLeft_add_eq_or_of_lt low, Nat.shiftLeft_eq,
    Nat.shiftRight_eq_div_pow, Nat.add_comm]

/-- Rotation by a byte multiplies the sum by 256. -/
theorem fold16_rotateByte (x : UInt32) : fold16 (rotateByte x).toNat = fold16 (256 * x.toNat) := by
  rw [fold16_eq_iff, toNat_rotateByte]
  omega

end Fvs318g.Lib
