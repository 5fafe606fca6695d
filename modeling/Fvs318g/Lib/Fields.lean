import Fvs318g.Lib.OnesComplement

/-!
# Fields of a buffer

A field is a number of bytes at an offset of a buffer, read and written in little-endian order. A
field that was written is read back, fields elsewhere keep their values, and the sum of the buffer
as 16-bit words changes by the difference of the field, at even and at odd offsets.
-/

namespace Fvs318g.Lib

/-! ## Bytes -/

/-- Byte `i` of a buffer. -/
def byteAt (data : List UInt8) (i : Nat) : Nat := (data.getD i 0).toNat

variable (data : List UInt8)

/-- A byte is below 256. -/
theorem byteAt_lt (i : Nat) : byteAt data i < 256 := UInt8.toNat_lt _

/-- A byte that is set reads back. -/
theorem byteAt_set_self {data : List UInt8} {i : Nat} (inside : i < data.length) (b : UInt8) :
    byteAt (data.set i b) i = b.toNat := by
  simp [byteAt, List.getElem?_set_self inside]

/-- Setting a byte leaves the others. -/
theorem byteAt_set_ne {i j : Nat} (other : i ≠ j) (b : UInt8) :
    byteAt (data.set i b) j = byteAt data j := by
  simp [byteAt, List.getElem?_set_ne other]

/-- What a byte at an offset counts in the sum of 16-bit words. -/
def weight (i : Nat) : Nat := if i % 2 = 0 then 1 else 256

/-- Weights depend on the parity only. -/
theorem weight_add_two (i : Nat) : weight (i + 2) = weight i := by
  simp [weight]

/-- The next byte counts 256 times as much. -/
theorem weight_succ (i : Nat) : weight (i + 1) ≡ 256 * weight i [MOD 65535] := by
  by_cases even : i % 2 = 0
  · have odd : ¬(i + 1) % 2 = 0 := by omega
    rw [weight, weight, if_neg odd, if_pos even]
  · have odd : (i + 1) % 2 = 0 := by omega
    rw [weight, weight, if_pos odd, if_neg even]
    rfl

/-- A sum in which one byte was exchanged. -/
theorem wordSum_set {i : Nat} (inside : i < data.length) (b : UInt8) :
    wordSum (data.set i b) + weight i * byteAt data i = wordSum data + weight i * b.toNat := by
  induction data using wordSum.induct generalizing i with
  | case1 => simp at inside
  | case2 c =>
    have first : i = 0 := by simpa using inside
    subst first
    simp [wordSum, weight, byteAt, Nat.add_comm]
  | case3 c d rest ih =>
    rcases i with _ | _ | i
    · show b.toNat + 256 * d.toNat + wordSum rest + 1 * c.toNat =
        c.toNat + 256 * d.toNat + wordSum rest + 1 * b.toNat
      omega
    · show c.toNat + 256 * b.toNat + wordSum rest + 256 * d.toNat =
        c.toNat + 256 * d.toNat + wordSum rest + 256 * b.toNat
      omega
    · have later := ih (i := i) (by simpa using inside)
      have same : byteAt (c :: d :: rest) (i + 2) = byteAt rest i := rfl
      rw [weight_add_two, same]
      simp only [List.set_cons_succ, wordSum]
      omega

/-! ## Fields -/

/-- The field of `n` bytes at `off`. -/
def fieldAt (data : List UInt8) (off : Nat) : Nat → Nat
  | 0 => 0
  | n + 1 => byteAt data off + 256 * fieldAt data (off + 1) n

/-- Write a field of `n` bytes at `off`. -/
def setField (data : List UInt8) (off : Nat) : Nat → Nat → List UInt8
  | 0, _ => data
  | n + 1, v => setField (data.set off (UInt8.ofNat v)) (off + 1) n (v / 256)

/-- A field of `n` bytes is below `256 ^ n`. -/
theorem fieldAt_lt (off n : Nat) : fieldAt data off n < 256 ^ n := by
  induction n generalizing off with
  | zero => exact Nat.one_pos
  | succ n ih =>
    have low := byteAt_lt data off
    have high := ih (off + 1)
    rw [fieldAt, Nat.pow_succ]
    omega

/-- Setting a field keeps the length. -/
@[simp] theorem length_setField (off n v : Nat) : (setField data off n v).length = data.length := by
  induction n generalizing data off v with
  | zero => rfl
  | succ n ih => rw [setField, ih, List.length_set]

/-- A byte outside a field that is written. -/
theorem byteAt_setField {off n i : Nat} (v : Nat) (outside : i < off ∨ off + n ≤ i) :
    byteAt (setField data off n v) i = byteAt data i := by
  induction n generalizing data off v with
  | zero => rfl
  | succ n ih =>
    rw [setField, ih _ _ (by omega), byteAt_set_ne _ (by omega)]

/-- A field elsewhere keeps its value. -/
theorem fieldAt_setField_of_disjoint {off n off' n' : Nat} (v : Nat)
    (apart : off' + n' ≤ off ∨ off + n ≤ off') :
    fieldAt (setField data off n v) off' n' = fieldAt data off' n' := by
  induction n' generalizing off' with
  | zero => rfl
  | succ n' ih =>
    rw [fieldAt, fieldAt, byteAt_setField _ _ (by omega), ih (by omega)]

/-- A field that was written is read back. -/
theorem fieldAt_setField {data : List UInt8} {off n : Nat} (v : Nat)
    (inside : off + n ≤ data.length) : fieldAt (setField data off n v) off n = v % 256 ^ n := by
  induction n generalizing data off v with
  | zero => rw [Nat.pow_zero, Nat.mod_one]; rfl
  | succ n ih =>
    have first : byteAt (setField data off (n + 1) v) off = v % 256 := by
      rw [setField, byteAt_setField _ _ (by omega), byteAt_set_self (by omega), UInt8.toNat_ofNat']
    have rest := @ih (data.set off (UInt8.ofNat v)) (off + 1) (v / 256)
      (by rw [List.length_set]; omega)
    rw [fieldAt, first, setField, rest, Nat.pow_succ, Nat.mul_comm (256 ^ n), Nat.mod_mul]

/-! ## Parts of a buffer -/

/-- Dropping moves the offsets. -/
theorem byteAt_drop (k i : Nat) : byteAt (data.drop k) i = byteAt data (k + i) := by
  simp [byteAt]

/-- A field of the rest of a buffer. -/
theorem fieldAt_drop (k off n : Nat) : fieldAt (data.drop k) off n = fieldAt data (k + off) n := by
  induction n generalizing off with
  | zero => rfl
  | succ n ih => rw [fieldAt, fieldAt, byteAt_drop, ih, Nat.add_assoc]

/-- Cutting the end keeps the bytes before it. -/
theorem byteAt_take {k i : Nat} (inside : i < k) : byteAt (data.take k) i = byteAt data i := by
  simp [byteAt, inside]

/-- A field of the beginning of a buffer. -/
theorem fieldAt_take {k off n : Nat} (inside : off + n ≤ k) :
    fieldAt (data.take k) off n = fieldAt data off n := by
  induction n generalizing off with
  | zero => rfl
  | succ n ih => rw [fieldAt, fieldAt, byteAt_take _ (by omega), ih (by omega)]

/-- Writing a field and cutting a buffer. -/
theorem take_setField (k off n v : Nat) :
    (setField data off n v).take k = setField (data.take k) off n v := by
  induction n generalizing data off v with
  | zero => rfl
  | succ n ih => rw [setField, setField, ih, List.take_set]

/-- A field behind the beginning of a buffer does not change the beginning. -/
theorem take_setField_of_le {k off : Nat} (n v : Nat) (behind : k ≤ off) :
    (setField data off n v).take k = data.take k := by
  induction n generalizing data off v with
  | zero => rfl
  | succ n ih => rw [setField, ih _ _ (by omega), List.take_set_of_le behind]

/-- Writing a field behind the part that is dropped. -/
theorem drop_setField (k off n v : Nat) :
    (setField data (k + off) n v).drop k = setField (data.drop k) off n v := by
  induction n generalizing data off v with
  | zero => rfl
  | succ n ih =>
    rw [setField, setField, Nat.add_assoc, ih, List.drop_set, if_neg (by omega),
      Nat.add_sub_cancel_left]

/-- A field in the part that is dropped. -/
theorem drop_setField_of_le {k off n : Nat} (v : Nat) (before : off + n ≤ k) :
    (setField data off n v).drop k = data.drop k := by
  induction n generalizing data off v with
  | zero => rfl
  | succ n ih => rw [setField, ih _ _ (by omega), List.drop_set_of_lt (by omega)]

/-! ## The sum of a buffer with a field -/

/-- A byte counts in the sum. -/
theorem byteAt_le_wordSum (i : Nat) : byteAt data i ≤ wordSum data := by
  induction data using wordSum.induct generalizing i with
  | case1 => simp [byteAt, wordSum]
  | case2 c => cases i <;> simp [byteAt, wordSum]
  | case3 c d rest ih =>
    rcases i with _ | _ | i
    · show c.toNat ≤ c.toNat + 256 * d.toNat + wordSum rest
      omega
    · show d.toNat ≤ c.toNat + 256 * d.toNat + wordSum rest
      omega
    · exact Nat.le_trans (ih i) (Nat.le_add_left _ _)

/-- The sum of a buffer changes by the difference of a field that is written. -/
theorem wordSum_setField {data : List UInt8} {off n : Nat} (v : Nat)
    (inside : off + n ≤ data.length) :
    wordSum (setField data off n v) + weight off * fieldAt data off n ≡
      wordSum data + weight off * (v % 256 ^ n) [MOD 65535] := by
  induction n generalizing data off v with
  | zero => simp [setField, fieldAt, Nat.mod_one, Nat.ModEq]
  | succ n ih =>
    have rest := @ih (data.set off (UInt8.ofNat v)) (off + 1) (v / 256)
      (by rw [List.length_set]; omega)
    have first := wordSum_set data (show off < data.length by omega) (UInt8.ofNat v)
    have same : fieldAt (data.set off (UInt8.ofNat v)) (off + 1) n = fieldAt data (off + 1) n :=
      fieldAt_setField_of_disjoint data (n := 1) v (.inr (Nat.le_refl _))
    have higher : ∀ x, weight (off + 1) * x ≡ weight off * (256 * x) [MOD 65535] := fun x => by
      have step := (weight_succ off).mul_right x
      rwa [Nat.mul_comm 256, Nat.mul_assoc] at step
    rw [same] at rest
    rw [setField, fieldAt, Nat.pow_succ, Nat.mul_comm (256 ^ n), Nat.mod_mul, Nat.mul_add,
      Nat.mul_add]
    have byte : (UInt8.ofNat v).toNat = v % 256 := UInt8.toNat_ofNat'
    rw [byte] at first
    have low := higher (fieldAt data (off + 1) n)
    have high := higher (v / 256 % 256 ^ n)
    unfold Nat.ModEq at rest low high ⊢
    omega

end Fvs318g.Lib
