import Mathlib.Data.Nat.Notation

/-!
# Words under a mask

Two words agree under a mask if they have the same bits where the mask has ones. Words that both
agree with a third one, each under its own mask, agree with each other under both masks.
-/

namespace Fvs318g.Lib

/-- The words have the same bits under the mask. -/
def Agree {n : Nat} (mask x y : BitVec n) : Prop := (x ^^^ y) &&& mask = 0#n

/-- Agreement bit by bit. -/
theorem agree_iff {n : Nat} {mask x y : BitVec n} :
    Agree mask x y ↔ ∀ i, i < n → mask.getLsbD i = true → x.getLsbD i = y.getLsbD i := by
  constructor
  · intro agree i inside masked
    have bit := congrArg (BitVec.getLsbD · i) agree
    simp only [BitVec.getLsbD_and, BitVec.getLsbD_xor, masked, Bool.and_true,
      BitVec.getLsbD_zero] at bit
    simpa using bit
  · intro same
    apply BitVec.eq_of_getLsbD_eq
    intro i inside
    rw [BitVec.getLsbD_and, BitVec.getLsbD_xor, BitVec.getLsbD_zero]
    cases masked : mask.getLsbD i with
    | false => exact Bool.and_false _
    | true => rw [same i inside masked, Bool.xor_self, Bool.false_and]

/-- Two patterns that one word meets agree where both of them look. -/
theorem Agree.meet {n : Nat} {mask mask' t x y : BitVec n} (first : Agree mask t x)
    (second : Agree mask' t y) : Agree (mask &&& mask') x y := by
  rw [agree_iff] at first second ⊢
  intro i inside masked
  rw [BitVec.getLsbD_and, Bool.and_eq_true] at masked
  rw [← first i inside masked.1, second i inside masked.2]

end Fvs318g.Lib
