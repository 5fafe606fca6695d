import Mathlib.Data.Nat.Bitwise

/-!
# Fields of a register

Reading a field and the two idioms that write one: clear a mask and set a value, or set a
value without clearing. Every statement is about single bits, for words of any width, so a
value that does not fit its field is followed into the bits it spills over. A result of signed
arithmetic is defined in the range of its 32 bits only.
-/

namespace Fvs318g.Lib

/-- A register of 32 bits. -/
abbrev Word := BitVec 32

/-- A result of signed arithmetic on 32 bits. An overflow has no result. -/
def checked (x : Int) : Option Int :=
  if -0x80000000 ≤ x ∧ x < 0x80000000 then some x else none

/-- A result in the range is defined. -/
theorem checked_of_mem {x : Int} (low : -0x80000000 ≤ x) (high : x < 0x80000000) :
    checked x = some x := if_pos ⟨low, high⟩

variable {n : Nat}

/-- The word whose low `width` bits are set. -/
def ones (n width : Nat) : BitVec n := BitVec.ofNat n (2 ^ width - 1)

/-- A bit of a mask. -/
theorem getLsbD_ones {i : Nat} (width : Nat) (inside : i < n) :
    (ones n width).getLsbD i = decide (i < width) := by
  rw [ones, BitVec.getLsbD_ofNat, Nat.testBit_two_pow_sub_one]
  simp [inside]

/-- The field of `width` bits from bit `shift` on. -/
def field (reg : BitVec n) (shift width : Nat) : BitVec n := (reg >>> shift) &&& ones n width

variable (reg : BitVec n)

/-- A bit of a field. -/
theorem getLsbD_field (shift width i : Nat) :
    (field reg shift width).getLsbD i = (decide (i < width) && reg.getLsbD (shift + i)) := by
  rw [field, BitVec.getLsbD_and, BitVec.getLsbD_ushiftRight, Bool.and_comm]
  by_cases inside : i < n
  · rw [getLsbD_ones width inside]
  · have beyond : reg.getLsbD (shift + i) = false := BitVec.getLsbD_of_ge _ _ (by omega)
    rw [beyond, Bool.and_false, Bool.and_false]

/-- A field depends on its own bits only. -/
theorem field_congr {reg reg' : BitVec n} {shift width : Nat}
    (same : ∀ i, shift ≤ i → i < shift + width → reg'.getLsbD i = reg.getLsbD i) :
    field reg' shift width = field reg shift width := by
  apply BitVec.eq_of_getLsbD_eq
  intro i _
  rw [getLsbD_field, getLsbD_field]
  by_cases inside : i < width
  · rw [same (shift + i) (by omega) (by omega)]
  · simp [inside]

/-- No bit outside the field changes. -/
def Keeps (reg reg' : BitVec n) (shift width : Nat) : Prop :=
  ∀ i, ¬ (shift ≤ i ∧ i < shift + width) → reg'.getLsbD i = reg.getLsbD i

/-- The bits of a shifted value beyond the field are set in the register anyway. -/
def Covered (reg value : BitVec n) (shift width : Nat) : Prop :=
  ∀ i, i < n → shift + width ≤ i → value.getLsbD (i - shift) = true → reg.getLsbD i = true

/-- Clear the masked bits, then set those of the value. -/
def setBits (reg mask : BitVec n) (shift : Nat) (value : BitVec n) : BitVec n :=
  (reg &&& ~~~(mask <<< shift)) ||| (value <<< shift)

/-! ## Values that fit -/

variable {value : BitVec n}

/-- A value below `2 ^ width` has no bit from `width` on. -/
theorem getLsbD_of_fits {width i : Nat} (fits : value.toNat < 2 ^ width) (beyond : width ≤ i) :
    value.getLsbD i = false := by
  apply Nat.testBit_lt_two_pow
  exact lt_of_lt_of_le fits (Nat.pow_le_pow_right (by omega) beyond)

/-- Masking keeps a value that fits. -/
theorem and_ones_of_fits {width : Nat} (fits : value.toNat < 2 ^ width) :
    value &&& ones n width = value := by
  apply BitVec.eq_of_getLsbD_eq
  intro i inside
  rw [BitVec.getLsbD_and, getLsbD_ones width inside]
  by_cases below : i < width
  · simp [below]
  · rw [getLsbD_of_fits fits (by omega), Bool.false_and]

/-- A value that fits does not spill. -/
theorem covered_of_fits (shift : Nat) {width : Nat} (fits : value.toNat < 2 ^ width) :
    Covered reg value shift width := by
  intro i _ beyond set
  rw [getLsbD_of_fits fits (by omega)] at set
  exact absurd set Bool.false_ne_true

/-- Without a mask a value is read back when nothing stands behind its field. -/
theorem ushiftRight_eq_iff (shift : Nat) {width : Nat} (fits : value.toNat < 2 ^ width) :
    reg >>> shift = value ↔ field reg shift width = value ∧ reg >>> (shift + width) = 0#n := by
  constructor
  · intro read
    constructor
    · rw [field, read, and_ones_of_fits fits]
    · apply BitVec.eq_of_getLsbD_eq
      intro i _
      have bit : (reg >>> shift).getLsbD (width + i) = false := by
        rw [read]
        exact getLsbD_of_fits fits (by omega)
      rw [BitVec.getLsbD_ushiftRight, ← Nat.add_assoc] at bit
      rw [BitVec.getLsbD_ushiftRight, bit, BitVec.getLsbD_zero]
  · intro parts
    apply BitVec.eq_of_getLsbD_eq
    intro i _
    rw [BitVec.getLsbD_ushiftRight]
    by_cases below : i < width
    · rw [← parts.1, getLsbD_field]
      simp [below]
    · have bit := congrArg (fun word => word.getLsbD (i - width)) parts.2
      have place : shift + width + (i - width) = shift + i := by omega
      rw [getLsbD_of_fits fits (by omega)]
      simpa [BitVec.getLsbD_ushiftRight, place] using bit

/-! ## Clearing and setting -/

/-- Bits in front of the shift stay. -/
theorem getLsbD_setBits_below (reg mask : BitVec n) {shift i : Nat} (value : BitVec n)
    (below : i < shift) : (setBits reg mask shift value).getLsbD i = reg.getLsbD i := by
  by_cases inside : i < n
  · simp [setBits, inside, below]
  · rw [BitVec.getLsbD_of_ge _ _ (by omega), BitVec.getLsbD_of_ge _ _ (by omega)]

/-- Bits from the shift on are those of the value, together with the register's behind the
mask. -/
theorem getLsbD_setBits_from (width : Nat) {shift i : Nat} (value : BitVec n) (inside : i < n)
    (reached : shift ≤ i) : (setBits reg (ones n width) shift value).getLsbD i =
      (decide (shift + width ≤ i) && reg.getLsbD i || value.getLsbD (i - shift)) := by
  have mask : (ones n width).getLsbD (i - shift) = decide (i - shift < width) :=
    getLsbD_ones width (by omega)
  have place : decide (i - shift < width) = !decide (shift + width ≤ i) := by
    rw [← decide_not]
    exact decide_eq_decide.mpr (by omega)
  have behind : ¬ i < shift := by omega
  simp only [setBits, BitVec.getLsbD_or, BitVec.getLsbD_and, BitVec.getLsbD_not,
    BitVec.getLsbD_shiftLeft, inside, behind, decide_true, decide_false, Bool.not_false,
    Bool.true_and, mask, place, Bool.not_not]
  rw [Bool.and_comm]

/-- The value of a field after a write through a mask at least as wide. -/
theorem field_setBits {shift width wide : Nat} (value : BitVec n) (inside : shift + width ≤ n)
    (masked : width ≤ wide) :
    field (setBits reg (ones n wide) shift value) shift width = value &&& ones n width := by
  apply BitVec.eq_of_getLsbD_eq
  intro i bound
  rw [getLsbD_field, BitVec.getLsbD_and, getLsbD_ones width bound]
  by_cases below : i < width
  · have front : ¬ shift + wide ≤ shift + i := by omega
    rw [getLsbD_setBits_from reg wide value (by omega) (by omega), Nat.add_sub_cancel_left]
    simp [below, front]
  · simp [below]

/-- A field inside a written mask holds the bits of the value at its place. -/
theorem field_setBits_inside {shift wide place width : Nat} (value : BitVec n)
    (inside : shift + wide ≤ n) (from_ : shift ≤ place) (covered : place + width ≤ shift + wide) :
    field (setBits reg (ones n wide) shift value) place width =
      field value (place - shift) width := by
  apply BitVec.eq_of_getLsbD_eq
  intro i _
  rw [getLsbD_field, getLsbD_field]
  by_cases below : i < width
  · have front : ¬ shift + wide ≤ place + i := by omega
    have source : place + i - shift = place - shift + i := by omega
    rw [getLsbD_setBits_from reg wide value (by omega) (by omega), source]
    simp [front]
  · simp [below]

/-- A write through a mask of the field's width keeps the other bits exactly when the value
does not spill. -/
theorem keeps_setBits_iff (shift width : Nat) (value : BitVec n) :
    Keeps reg (setBits reg (ones n width) shift value) shift width ↔
      Covered reg value shift width := by
  constructor
  · intro keeps i inside beyond set
    have bit := keeps i (by omega)
    rw [getLsbD_setBits_from reg width value inside (by omega), set, Bool.or_true] at bit
    exact bit.symm
  · intro covered i outside
    by_cases below : i < shift
    · exact getLsbD_setBits_below reg _ value below
    · by_cases inside : i < n
      · have beyond : shift + width ≤ i := by omega
        rw [getLsbD_setBits_from reg width value inside (by omega)]
        cases set : value.getLsbD (i - shift) with
        | true => rw [covered i inside beyond set, Bool.or_true]
        | false => simp [beyond]
      · rw [BitVec.getLsbD_of_ge _ _ (by omega), BitVec.getLsbD_of_ge _ _ (by omega)]

/-- A value that fits, written through a wider mask, keeps the other bits exactly when the
rest of the mask is clear. -/
theorem keeps_setBits_wide_iff {shift width wide : Nat} (fits : value.toNat < 2 ^ width)
    (inside : shift + wide ≤ n) : Keeps reg (setBits reg (ones n wide) shift value) shift width ↔
      ∀ i, shift + width ≤ i → i < shift + wide → reg.getLsbD i = false := by
  constructor
  · intro keeps i beyond masked
    have bit := keeps i (by omega)
    have front : ¬ shift + wide ≤ i := by omega
    rw [getLsbD_setBits_from reg wide value (by omega) (by omega),
      getLsbD_of_fits fits (by omega)] at bit
    simpa [front] using bit.symm
  · intro clear i outside
    by_cases below : i < shift
    · exact getLsbD_setBits_below reg _ value below
    · by_cases bound : i < n
      · rw [getLsbD_setBits_from reg wide value bound (by omega),
          getLsbD_of_fits fits (by omega), Bool.or_false]
        by_cases masked : i < shift + wide
        · rw [clear i (by omega) masked, Bool.and_false]
        · have behind : shift + wide ≤ i := by omega
          simp [behind]
      · rw [BitVec.getLsbD_of_ge _ _ (by omega), BitVec.getLsbD_of_ge _ _ (by omega)]

/-! ## Setting without clearing -/

/-- A field after bits were set in it. -/
theorem field_or_shiftLeft {shift width : Nat} (value : BitVec n) (inside : shift + width ≤ n) :
    field (reg ||| value <<< shift) shift width =
      field reg shift width ||| (value &&& ones n width) := by
  apply BitVec.eq_of_getLsbD_eq
  intro i bound
  rw [getLsbD_field, BitVec.getLsbD_or, BitVec.getLsbD_or, getLsbD_field, BitVec.getLsbD_and,
    getLsbD_ones width bound, BitVec.getLsbD_shiftLeft, Nat.add_sub_cancel_left]
  by_cases below : i < width
  · have reached : shift + i < n := by omega
    have behind : ¬ shift + i < shift := by omega
    simp [below, reached, behind]
  · simp [below]

/-- Setting bits keeps the other bits exactly when the value does not spill. -/
theorem keeps_or_iff (shift width : Nat) (value : BitVec n) :
    Keeps reg (reg ||| value <<< shift) shift width ↔ Covered reg value shift width := by
  constructor
  · intro keeps i inside beyond set
    have bit := keeps i (by omega)
    have behind : ¬ i < shift := by omega
    rw [BitVec.getLsbD_or, BitVec.getLsbD_shiftLeft, set] at bit
    simpa [inside, behind] using bit.symm
  · intro covered i outside
    rw [BitVec.getLsbD_or, BitVec.getLsbD_shiftLeft]
    by_cases reached : i < n ∧ shift ≤ i
    · cases set : value.getLsbD (i - shift) with
      | true =>
        rw [covered i reached.1 (by omega) set]
        rfl
      | false => simp
    · by_cases inside : i < n
      · have below : i < shift := by omega
        simp [below]
      · simp [inside]

end Fvs318g.Lib
