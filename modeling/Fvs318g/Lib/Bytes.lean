import Mathlib.Data.Nat.Bitwise

/-!
# Bytes in memory and fields in words

Memory maps addresses to bytes. `memmove` and `memset` are given by what they leave at
every address, so overlapping moves need no order of copying. The contents of a range are
a list, and the lemmas say how such a list changes under a move or is put together. A traced
memory also remembers the ranges that were written, for bounds on what a function touches.

The second part reads back fields that were packed into a word by shifts and disjunctions.
-/

namespace Fvs318g.Lib

/-! ## Memory -/

/-- Byte-addressed memory. -/
abbrev Memory := Nat → UInt8

/-- Move `count` bytes from `src` to `dst`; the ranges may overlap. -/
def memmove (m : Memory) (dst src count : Nat) : Memory := fun a =>
  if dst ≤ a ∧ a < dst + count then m (src + (a - dst)) else m a

/-- Set `count` bytes from `dst` on. -/
def memset (m : Memory) (dst : Nat) (value : UInt8) (count : Nat) : Memory := fun a =>
  if dst ≤ a ∧ a < dst + count then value else m a

/-- Write the bytes of a list from `dst` on. -/
def store (m : Memory) (dst : Nat) (values : List UInt8) : Memory := fun a =>
  if dst ≤ a then values[a - dst]?.getD (m a) else m a

/-- The `count` bytes from `addr` on. -/
def bytes (m : Memory) (addr count : Nat) : List UInt8 :=
  (List.range count).map fun i => m (addr + i)

variable (m : Memory)

/-- A moved byte. -/
theorem memmove_inside (dst src : Nat) {count i : Nat} (inside : i < count) :
    memmove m dst src count (dst + i) = m (src + i) := by
  have range : dst ≤ dst + i ∧ dst + i < dst + count := by omega
  rw [memmove, if_pos range, Nat.add_sub_cancel_left]

/-- A byte outside the destination. -/
theorem memmove_outside {dst count a : Nat} (src : Nat) (outside : a < dst ∨ dst + count ≤ a) :
    memmove m dst src count a = m a :=
  if_neg (by omega)

/-- A byte that was set. -/
theorem memset_inside (dst : Nat) (value : UInt8) {count i : Nat} (inside : i < count) :
    memset m dst value count (dst + i) = value :=
  if_pos (by omega)

/-- A byte outside the range that was set. -/
theorem memset_outside {dst count a : Nat} (value : UInt8) (outside : a < dst ∨ dst + count ≤ a) :
    memset m dst value count a = m a :=
  if_neg (by omega)

/-- A stored byte. -/
theorem store_inside (dst : Nat) (values : List UInt8) {i : Nat} (inside : i < values.length) :
    store m dst values (dst + i) = values[i] := by
  rw [store, if_pos (by omega), Nat.add_sub_cancel_left, List.getElem?_eq_getElem inside]
  rfl

/-- A byte outside the stored range. -/
theorem store_outside {dst a : Nat} (values : List UInt8)
    (outside : a < dst ∨ dst + values.length ≤ a) : store m dst values a = m a := by
  unfold store
  split
  · have none : values[a - dst]? = none := List.getElem?_eq_none (by omega)
    rw [none]
    rfl
  · rfl

/-- Reading gives as many bytes as asked for. -/
@[simp] theorem length_bytes (addr count : Nat) : (bytes m addr count).length = count := by
  simp [bytes]

/-- Byte `i` of a range. -/
theorem getElem?_bytes (addr : Nat) {count i : Nat} (inside : i < count) :
    (bytes m addr count)[i]? = some (m (addr + i)) := by
  rw [bytes, List.getElem?_map, List.getElem?_range inside]
  rfl

/-- Ranges that agree byte by byte have the same contents. -/
theorem bytes_congr {m m' : Memory} {addr addr' count : Nat}
    (same : ∀ i, i < count → m (addr + i) = m' (addr' + i)) :
    bytes m addr count = bytes m' addr' count := by
  apply List.map_congr_left
  intro i member
  exact same i (List.mem_range.mp member)

/-- A range in two parts. -/
theorem bytes_add (addr first second : Nat) :
    bytes m addr (first + second) = bytes m addr first ++ bytes m (addr + first) second := by
  rw [bytes, List.range_add, List.map_append, List.map_map]
  congr 1
  apply List.map_congr_left
  intro i _
  rw [Function.comp, Nat.add_assoc]

/-- The beginning of a range. -/
theorem take_bytes (addr : Nat) {count k : Nat} (inside : k ≤ count) :
    (bytes m addr count).take k = bytes m addr k := by
  have parts := bytes_add m addr k (count - k)
  rw [Nat.add_sub_cancel' inside] at parts
  rw [parts, List.take_left' (length_bytes ..)]

/-- The end of a range. -/
theorem drop_bytes (addr : Nat) {count k : Nat} (inside : k ≤ count) :
    (bytes m addr count).drop k = bytes m (addr + k) (count - k) := by
  have parts := bytes_add m addr k (count - k)
  rw [Nat.add_sub_cancel' inside] at parts
  rw [parts, List.drop_left' (length_bytes ..)]

/-- A range that holds one value. -/
theorem bytes_eq_replicate {m : Memory} {addr count : Nat} {value : UInt8}
    (all : ∀ i, i < count → m (addr + i) = value) :
    bytes m addr count = List.replicate count value := by
  rw [List.eq_replicate_iff]
  refine ⟨length_bytes .., ?_⟩
  intro b member
  obtain ⟨i, inside, rfl⟩ := List.mem_map.mp member
  exact all i (List.mem_range.mp inside)

/-- A stored list is read back. -/
theorem bytes_store (dst : Nat) (values : List UInt8) :
    bytes (store m dst values) dst values.length = values := by
  apply List.ext_getElem?
  intro i
  by_cases inside : i < values.length
  · rw [getElem?_bytes _ _ inside, store_inside _ _ _ inside, List.getElem?_eq_getElem inside]
  · have left : values.length ≤ i := Nat.le_of_not_lt inside
    rw [List.getElem?_eq_none (by simpa using left), List.getElem?_eq_none left]

/-! ## Traced memory -/

/-- Memory with the ranges that were written, as start and length. -/
structure Traced where
  /-- The contents. -/
  memory : Memory
  /-- The ranges written so far. -/
  writes : List (Nat × Nat)

namespace Traced

/-- `memmove`, traced. -/
def memmove (t : Traced) (dst src count : Nat) : Traced :=
  ⟨Lib.memmove t.memory dst src count, (dst, count) :: t.writes⟩

/-- `memset`, traced. -/
def memset (t : Traced) (dst : Nat) (value : UInt8) (count : Nat) : Traced :=
  ⟨Lib.memset t.memory dst value count, (dst, count) :: t.writes⟩

/-- `store`, traced. -/
def store (t : Traced) (dst : Nat) (values : List UInt8) : Traced :=
  ⟨Lib.store t.memory dst values, (dst, values.length) :: t.writes⟩

end Traced

/-- Every byte of the ranges lies in `[low, high)`. -/
def RangesIn (ranges : List (Nat × Nat)) (low high : Nat) : Prop :=
  ∀ range ∈ ranges, ∀ a, range.1 ≤ a → a < range.1 + range.2 → low ≤ a ∧ a < high

/-- One more range is inside when it is empty or its ends are. -/
theorem rangesIn_cons {dst count low high : Nat} {ranges : List (Nat × Nat)} :
    RangesIn ((dst, count) :: ranges) low high ↔
      (count = 0 ∨ low ≤ dst ∧ dst + count ≤ high) ∧ RangesIn ranges low high := by
  simp only [RangesIn, List.forall_mem_cons]
  refine and_congr_left fun _ => ?_
  constructor
  · intro inside
    by_cases empty : count = 0
    · exact .inl empty
    · have first := inside dst (Nat.le_refl _) (by omega)
      have last := inside (dst + (count - 1)) (by omega) (by omega)
      exact .inr ⟨first.1, by omega⟩
  · intro fits a after before
    omega

/-! ## Packed words -/

/-- Adding a field above the bits in use is addition. -/
theorem or_shiftLeft {low k : Nat} (field : Nat) (fits : low < 2 ^ k) :
    low ||| field <<< k = low + field * 2 ^ k := by
  rw [Nat.or_comm, ← Nat.shiftLeft_add_eq_or_of_lt fits, Nat.shiftLeft_eq, Nat.add_comm]

/-- Masking with a run of ones is a remainder. -/
theorem and_ones (word width : Nat) : word &&& (2 ^ width - 1) = word % 2 ^ width :=
  Nat.and_two_pow_sub_one_eq_mod word width

/-- A loop that collects one bit for each index. -/
theorem testBit_collect (hit : Nat → Bool) (n p : Nat) :
    ((List.range n).foldl (fun word i => if hit i then word ||| 1 <<< i else word) 0).testBit p =
      (decide (p < n) && hit p) := by
  induction n with
  | zero => simp
  | succ n ih =>
    rw [List.range_succ, List.foldl_append, List.foldl_cons, List.foldl_nil]
    by_cases last : p = n
    · subst last
      cases found : hit p <;> simp [ih, found, Nat.testBit_shiftLeft]
    · have same : decide (p < n + 1) = decide (p < n) := by
        rw [decide_eq_decide]
        omega
      have other : (1 <<< n).testBit p = false := by
        rw [Nat.one_shiftLeft, Nat.testBit_two_pow]
        exact decide_eq_false (Ne.symm last)
      rw [same]
      cases found : hit n <;> simp [ih, other]

/-- The collected bits stay below the number of indices. -/
theorem collect_lt (hit : Nat → Bool) (n : Nat) :
    (List.range n).foldl (fun word i => if hit i then word ||| 1 <<< i else word) 0 < 2 ^ n := by
  apply Nat.lt_pow_two_of_testBit
  intro p above
  rw [testBit_collect]
  simp [Nat.not_lt.mpr above]

/-- A byte is read back from its place in a word. -/
theorem ofNat_toNat_mod (b : UInt8) {word : Nat} (place : word % 256 = b.toNat) :
    UInt8.ofNat word = b := by
  apply UInt8.toNat_inj.mp
  rw [UInt8.toNat_ofNat', ← place]

/-- A mask is read past another one. -/
theorem or_and_of_disjoint (x : UInt32) {mask other : UInt32} (disjoint : mask &&& other = 0) :
    (x ||| mask) &&& other = x &&& other := by
  apply UInt32.toNat_inj.mp
  apply Nat.eq_of_testBit_eq
  intro i
  have apart := congrArg (fun w => w.toNat.testBit i) disjoint
  simp only [UInt32.toNat_and, UInt32.toNat_or, Nat.testBit_and, Nat.testBit_or,
    UInt32.toNat_zero, Nat.zero_testBit] at apart ⊢
  rw [Bool.and_or_distrib_right, apart, Bool.or_false]

/-- Words that are clear under a mask are told apart after the mask is set. -/
theorem or_mask_inj {x y mask : UInt32} (clear : x &&& mask = 0) (clear' : y &&& mask = 0)
    (same : x ||| mask = y ||| mask) : x = y := by
  apply UInt32.toNat_inj.mp
  apply Nat.eq_of_testBit_eq
  intro i
  have x0 := congrArg (fun w => w.toNat.testBit i) clear
  have y0 := congrArg (fun w => w.toNat.testBit i) clear'
  have either := congrArg (fun w => w.toNat.testBit i) same
  simp only [UInt32.toNat_and, UInt32.toNat_or, Nat.testBit_and, Nat.testBit_or,
    UInt32.toNat_zero, Nat.zero_testBit] at x0 y0 either
  cases masked : mask.toNat.testBit i with
  | true =>
    rw [masked, Bool.and_true] at x0 y0
    rw [x0, y0]
  | false =>
    rw [masked, Bool.or_false, Bool.or_false] at either
    exact either

end Fvs318g.Lib
