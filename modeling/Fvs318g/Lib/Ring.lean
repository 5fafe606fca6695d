import Mathlib.Data.List.Nodup
import Mathlib.Data.Nat.ModEq
import Mathlib.Logic.Function.Basic

/-!
# Rings shared with a device

A ring of `n` slots is used in order by two parties that each keep a position. Counting
the positions without wrapping turns the ring into a window on an unbounded sequence:
position `p` lives in slot `p % n`, and the `n` positions of a window occupy distinct
slots. `Owned` is the ownership discipline of a ring with one flag for each slot: of the
positions `lo, …, lo + n - 1` exactly those below `hi` are flagged. The party that takes
flagged slots advances `lo`, the party that returns them advances `hi`.

The slots themselves are vectors, read and written at natural-number indices.
-/

namespace Fvs318g.Lib

/-! ## Positions and slots -/

/-- The index after `i` in a ring of `n` slots. -/
def wrap (n i : Nat) : Nat := if i + 1 = n then 0 else i + 1

/-- Stepping the slot of a position gives the slot of the next position. -/
theorem wrap_mod {n : Nat} (positive : 0 < n) (p : Nat) : wrap n (p % n) = (p + 1) % n := by
  have below : p % n < n := Nat.mod_lt p positive
  rw [← Nat.mod_add_mod p n 1]
  unfold wrap
  split
  · rename_i last
    rw [last, Nat.mod_self]
  · exact (Nat.mod_eq_of_lt (by omega)).symm

/-- Two positions of one window that share a slot are equal. -/
theorem window_inj {n p q : Nat} (lo : Nat) (hp : lo ≤ p) (hp' : p < lo + n) (hq : lo ≤ q)
    (hq' : q < lo + n) (same : p % n = q % n) : p = q := by
  have congruent : p ≡ q [MOD n] := same
  rcases Nat.le_total p q with le | le
  · have divides := (Nat.modEq_iff_dvd' le).mp congruent
    have zero := Nat.eq_zero_of_dvd_of_lt divides (by omega)
    omega
  · have divides := (Nat.modEq_iff_dvd' le).mp congruent.symm
    have zero := Nat.eq_zero_of_dvd_of_lt divides (by omega)
    omega

/-- Every slot holds a position of the window. -/
theorem window_surj {n i : Nat} (lo : Nat) (inside : i < n) :
    ∃ p, lo ≤ p ∧ p < lo + n ∧ p % n = i := by
  have below : lo % n < n := Nat.mod_lt lo (by omega)
  have whole := Nat.div_add_mod lo n
  by_cases ahead : lo % n ≤ i
  · refine ⟨n * (lo / n) + i, by omega, by omega, ?_⟩
    rw [Nat.mul_add_mod, Nat.mod_eq_of_lt inside]
  · refine ⟨n * (lo / n + 1) + i, ?_, ?_, ?_⟩
    · rw [Nat.mul_add]
      omega
    · rw [Nat.mul_add]
      omega
    · rw [Nat.mul_add_mod, Nat.mod_eq_of_lt inside]

/-- A position and the one a full turn later share a slot. -/
theorem turn_mod (n p : Nat) : (p + n) % n = p % n := Nat.add_mod_right p n

/-- Moving a window of `n` past `m` more entries of a list drops those that were in the
first `m` places of the window. -/
theorem take_window {α : Type} (l : List (Option α)) (m n : Nat) :
    (l.take (l.length + m - n)).filterMap id = (l.take (l.length - n)).filterMap id ++
      (List.range m).filterMap fun k =>
        if l.length + k < n then none else l[l.length + k - n]?.join := by
  induction m with
  | zero => simp
  | succ m ih =>
    rw [List.range_succ, List.filterMap_append, ← List.append_assoc, ← ih]
    by_cases early : l.length + m < n
    · simp only [show l.length + (m + 1) - n = 0 by omega, show l.length + m - n = 0 by omega]
      simp [early]
    · rw [show l.length + (m + 1) - n = l.length + m - n + 1 by omega, List.take_add_one,
        List.filterMap_append]
      congr 1
      simp only [List.filterMap_cons, early, ↓reduceIte, List.filterMap_nil]
      cases l[l.length + m - n]? with
      | none => rfl
      | some entry => cases entry <;> rfl

/-! ## Counting slots -/

/-- The slots below a bound. -/
theorem countP_range_lt (n m : Nat) :
    (List.range n).countP (fun i => decide (i < m)) = min n m := by
  induction n with
  | zero => simp
  | succ n ih =>
    rw [List.range_succ, List.countP_append, ih, List.countP_singleton]
    by_cases below : n < m
    · simp only [below, decide_true, ↓reduceIte]
      omega
    · simp only [below, decide_false, Bool.false_eq_true, ↓reduceIte]
      omega

/-- A property of one slot only. -/
theorem countP_range_single {n i : Nat} {p : Nat → Bool} (inside : i < n)
    (only : ∀ j, j < n → p j = decide (j = i)) : (List.range n).countP p = 1 := by
  have same : ∀ j ∈ List.range n, p j = true ↔ (j == i) = true := by
    intro j member
    rw [only j (List.mem_range.mp member), decide_eq_true_eq, beq_iff_eq]
  rw [List.countP_congr same]
  exact List.count_eq_one_of_mem List.nodup_range (List.mem_range.mpr inside)

/-! ## Ownership flags -/

/-- Of the positions `lo, …, lo + n - 1`, exactly those below `hi` are flagged. -/
structure Owned (n lo hi : Nat) (flag : Nat → Bool) : Prop where
  /-- The taking party never passes the returning party. -/
  le : lo ≤ hi
  /-- The returning party is at most one turn ahead. -/
  turn : hi ≤ lo + n
  /-- The flags of one window. -/
  flags : ∀ p, lo ≤ p → p < lo + n → flag (p % n) = decide (p < hi)

namespace Owned

variable {n lo hi : Nat} {flag flag' : Nat → Bool}

/-- A ring whose flags are all set is taken from the start and is a full turn ahead. -/
theorem full (set : ∀ i, i < n → flag i = true) : Owned n 0 n flag where
  le := Nat.zero_le n
  turn := by omega
  flags p _ inside := by
    rw [Nat.mod_eq_of_lt (by omega), set p (by omega)]
    simp only [decide_eq_true_eq.mpr (show p < n by omega)]

/-- A ring whose flags are all clear has returned nothing. -/
theorem empty (clear : ∀ i, i < n → flag i = false) : Owned n 0 0 flag where
  le := Nat.le_refl 0
  turn := Nat.zero_le _
  flags p _ inside := by
    rw [Nat.mod_eq_of_lt (by omega), clear p (by omega)]
    simp only [Nat.not_lt_zero, decide_false]

section

variable (owned : Owned n lo hi flag)
include owned

/-- The flag at the taking position says whether anything is left to take. -/
theorem taker (positive : 0 < n) :
    flag (lo % n) = decide (lo < hi) := owned.flags lo (Nat.le_refl lo) (by omega)

/-- The flag at the returning position is clear unless the ring is a full turn ahead. -/
theorem returner (positive : 0 < n) : flag (hi % n) = decide (hi = lo + n) := by
  have le := owned.le
  have turn := owned.turn
  by_cases full : hi = lo + n
  · rw [full, turn_mod, owned.taker positive]
    simp only [decide_true, decide_eq_true_eq]
    omega
  · rw [owned.flags hi le (by omega)]
    simp [full]

/-- Taking the slot at `lo` clears its flag and advances the taker. -/
theorem take (ready : lo < hi) (cleared : flag' (lo % n) = false)
    (others : ∀ i, i < n → i ≠ lo % n → flag' i = flag i) : Owned n (lo + 1) hi flag' where
  le := ready
  turn := by
    have turn := owned.turn
    omega
  flags p above below := by
    have turn := owned.turn
    have positive : 0 < n := by omega
    by_cases last : p = lo + n
    · rw [last, turn_mod, cleared]
      simp only [Bool.false_eq, decide_eq_false_iff_not]
      omega
    · have different : p % n ≠ lo % n := fun same =>
        absurd (window_inj lo (by omega) (by omega) (Nat.le_refl lo) (by omega) same) (by omega)
      rw [others _ (Nat.mod_lt p positive) different]
      exact owned.flags p (by omega) (by omega)

/-- Returning the slot at `hi` sets its flag and advances the returner. -/
theorem give (room : hi < lo + n) (set : flag' (hi % n) = true)
    (others : ∀ i, i < n → i ≠ hi % n → flag' i = flag i) : Owned n lo (hi + 1) flag' where
  le := by
    have le := owned.le
    omega
  turn := room
  flags p above below := by
    have positive : 0 < n := by omega
    by_cases here : p = hi
    · rw [here, set]
      simp only [decide_eq_true_eq.mpr (show hi < hi + 1 by omega)]
    · have different : p % n ≠ hi % n := fun same =>
        here (window_inj lo above below owned.le room same)
      rw [others _ (Nat.mod_lt p positive) different, owned.flags p above below]
      simp only [decide_eq_decide]
      omega

/-- Taking `count` slots at once clears their flags and advances the taker. -/
theorem takeRun {count : Nat} (ready : lo + count ≤ hi)
    (cleared : ∀ k, k < count → flag' ((lo + k) % n) = false)
    (others : ∀ i, (∀ k, k < count → i ≠ (lo + k) % n) → flag' i = flag i) :
    Owned n (lo + count) hi flag' where
  le := ready
  turn := by
    have turn := owned.turn
    omega
  flags p above below := by
    have turn := owned.turn
    by_cases wrapped : lo + n ≤ p
    · obtain ⟨k, rfl⟩ := Nat.exists_eq_add_of_le wrapped
      rw [show lo + n + k = lo + k + n by omega, turn_mod, cleared k (by omega)]
      simp only [Bool.false_eq, decide_eq_false_iff_not]
      omega
    · rw [others]
      · exact owned.flags p (by omega) (by omega)
      · intro k inside same
        have := window_inj lo (by omega) (by omega) (by omega) (by omega) same
        omega

/-- As many slots are flagged as there are positions to take. -/
theorem count : (List.range n).countP flag = hi - lo := by
  have le := owned.le
  have turn := owned.turn
  -- going around the ring from `lo` visits every slot once
  have around : List.Perm ((List.range n).map fun k => (lo + k) % n) (List.range n) := by
    rw [List.perm_ext_iff_of_nodup _ List.nodup_range]
    · intro i
      rw [List.mem_map, List.mem_range]
      constructor
      · rintro ⟨k, inside, same⟩
        have below := List.mem_range.mp inside
        rw [← same]
        exact Nat.mod_lt _ (by omega)
      · intro inside
        obtain ⟨p, above, below, same⟩ := window_surj lo inside
        refine ⟨p - lo, List.mem_range.mpr (by omega), ?_⟩
        rw [Nat.add_sub_cancel' above]
        exact same
    · refine List.Nodup.map_on ?_ List.nodup_range
      intro j first k second same
      have below := List.mem_range.mp first
      have below' := List.mem_range.mp second
      have := window_inj lo (by omega) (by omega) (by omega) (by omega) same
      omega
  rw [← around.countP_eq, List.countP_map]
  have flags : ∀ k ∈ List.range n,
      (flag ∘ fun k => (lo + k) % n) k = true ↔ decide (k < hi - lo) = true := by
    intro k inside
    have below := List.mem_range.mp inside
    rw [Function.comp_apply, owned.flags (lo + k) (by omega) (by omega), decide_eq_true_eq,
      decide_eq_true_eq]
    omega
  rw [List.countP_congr flags, countP_range_lt]
  omega

/-- Flags that agree on the ring describe the same ownership. -/
theorem congr (same : ∀ i, i < n → flag' i = flag i) : Owned n lo hi flag' where
  le := owned.le
  turn := owned.turn
  flags p above below := by
    rw [same _ (Nat.mod_lt p (by omega))]
    exact owned.flags p above below

end

end Owned

/-! ## Slot vectors -/

section Slots

variable {α : Type} {n : Nat} [Inhabited α]

/-- The value in a slot. -/
def slot (slots : Vector α n) (i : Nat) : α := slots[i]?.getD default

/-- Overwrite a slot. -/
def setSlot (slots : Vector α n) (i : Nat) (value : α) : Vector α n := slots.setIfInBounds i value

/-- Reading after a write inside the vector. -/
theorem slot_setSlot (slots : Vector α n) {i : Nat} (inside : i < n) (value : α) (j : Nat) :
    slot (setSlot slots i value) j = if j = i then value else slot slots j := by
  unfold slot setSlot
  rw [Vector.getElem?_setIfInBounds]
  by_cases same : j = i
  · simp [same, inside]
  · simp [same, Ne.symm same]

/-- A write is read back. -/
@[simp] theorem slot_setSlot_self (slots : Vector α n) {i : Nat} (inside : i < n) (value : α) :
    slot (setSlot slots i value) i = value := by
  rw [slot_setSlot slots inside, if_pos rfl]

/-- A write leaves the other slots alone, inside the vector or not. -/
theorem slot_setSlot_ne (slots : Vector α n) {i j : Nat} (different : j ≠ i) (value : α) :
    slot (setSlot slots i value) j = slot slots j := by
  unfold slot setSlot
  rw [Vector.getElem?_setIfInBounds, if_neg (Ne.symm different)]

/-- A write that keeps an observation of its slot keeps that observation everywhere. -/
theorem slot_setSlot_congr {β : Type} (slots : Vector α n) (i : Nat) (observe : α → β) {value : α}
    (same : observe value = observe (slot slots i)) (j : Nat) :
    observe (slot (setSlot slots i value) j) = observe (slot slots j) := by
  by_cases here : j = i
  · by_cases inside : i < n
    · rw [here, slot_setSlot_self slots inside, same]
    · -- a write outside the vector is lost
      rw [setSlot, Vector.setIfInBounds_eq_of_size_le (by omega)]
  · rw [slot_setSlot_ne slots here]

/-- Reading a vector given by a function of the index. -/
@[simp] theorem slot_ofFn (f : Fin n → α) {i : Nat} (inside : i < n) :
    slot (Vector.ofFn f) i = f ⟨i, inside⟩ := by
  simp [slot, inside]

/-- A loop over `count` successive slots from index `i`, with its own counter from `j`:
each slot is replaced by a function of the counter and of its old value. -/
def updateRun (f : Nat → α → α) (slots : Vector α n) (i j : Nat) : Nat → Vector α n
  | 0 => slots
  | count + 1 => updateRun f (setSlot slots i (f j (slot slots i))) (wrap n i) (j + 1) count

/-- A loop leaves every slot outside its run alone. -/
theorem slot_updateRun_ne (f : Nat → α → α) (slots : Vector α n) (p j count : Nat) {i : Nat}
    (positive : 0 < n) (outside : ∀ k, k < count → i ≠ (p + k) % n) :
    slot (updateRun f slots (p % n) j count) i = slot slots i := by
  induction count generalizing slots p j with
  | zero => rfl
  | succ count ih =>
    rw [updateRun, wrap_mod positive, ih]
    · exact slot_setSlot_ne _ (by simpa using outside 0 (by omega)) _
    · intro k below
      have apart := outside (k + 1) (by omega)
      rwa [show p + (k + 1) = p + 1 + k by omega] at apart

/-- A loop over at most one turn rewrites each slot of its run once, from the old value. -/
theorem slot_updateRun (f : Nat → α → α) (slots : Vector α n) (p j : Nat) {count k : Nat}
    (turn : count ≤ n) (inside : k < count) :
    slot (updateRun f slots (p % n) j count) ((p + k) % n) =
      f (j + k) (slot slots ((p + k) % n)) := by
  induction count generalizing slots p j k with
  | zero => omega
  | succ count ih =>
    have positive : 0 < n := by omega
    rw [updateRun, wrap_mod positive]
    cases k with
    | zero =>
      -- the first slot is written now and lies outside the rest of the run
      rw [slot_updateRun_ne _ _ _ _ _ positive, Nat.add_zero, Nat.add_zero,
        slot_setSlot_self _ (Nat.mod_lt p positive)]
      intro k below same
      have := window_inj p (by omega) (by omega) (by omega) (by omega) same
      omega
    | succ k =>
      have later : p + (k + 1) = p + 1 + k := by omega
      rw [later, ih _ _ _ (by omega) (by omega), show j + 1 + k = j + (k + 1) by omega,
        slot_setSlot_ne]
      intro same
      have := window_inj p (by omega) (by omega) (Nat.le_refl p) (by omega) same
      omega

end Slots

end Fvs318g.Lib
