import Mathlib.Data.BitVec
import Mathlib.Logic.Function.Iterate

/-!
# Memory behind a DMA channel

Addresses are words of `n` bits, so a step below zero or beyond the last address wraps as it does
on a bus. A channel moves units of one width from a source to a destination and steps the two
addresses after each unit. A channel that increments both copies a range, unit by unit; whatever
the modes, the units written are those that the destination address has come to.
-/

namespace Fvs318g.Lib

variable {n : Nat}

/-- Memory with addresses of `n` bits. -/
abbrev BusMemory (n : Nat) := BitVec n → UInt8

/-! ## Copies -/

/-- The address lies among the `count` bytes from `start` on. -/
def InRange (a start : BitVec n) (count : Nat) : Prop := (a - start).toNat < count

instance (a start : BitVec n) (count : Nat) : Decidable (InRange a start count) :=
  inferInstanceAs (Decidable (_ < _))

/-- No address is in both ranges. -/
def RangesApart (a b : BitVec n) (count : Nat) : Prop :=
  ∀ x, InRange x a count → ¬ InRange x b count

/-- Copy `count` bytes. -/
def copyRange (m : BusMemory n) (dst src : BitVec n) (count : Nat) : BusMemory n := fun a =>
  if InRange a dst count then m (src + (a - dst)) else m a

/-- `m'` holds at `dst` the `count` bytes that `m` holds at `src`, and is `m` everywhere else. -/
structure Copied (m m' : BusMemory n) (dst src : BitVec n) (count : Nat) : Prop where
  /-- The destination has the bytes of the source. -/
  inside : ∀ i : BitVec n, i.toNat < count → m' (dst + i) = m (src + i)
  /-- No other byte changes. -/
  outside : ∀ a, ¬ InRange a dst count → m' a = m a

/-- The bytes of a range are those with a small offset. -/
theorem inRange_add (start i : BitVec n) (count : Nat) :
    InRange (start + i) start count ↔ i.toNat < count := by
  have offset : start + i - start = i := by rw [BitVec.add_comm, BitVec.add_sub_cancel]
  rw [InRange, offset]

/-- Every address has an offset from a start. -/
theorem add_sub_self (a start : BitVec n) : start + (a - start) = a := by
  rw [BitVec.add_comm, BitVec.sub_add_cancel]

variable {dst src : BitVec n}

/-- A copy is the only memory with the copied bytes. -/
theorem copied_iff {m m' : BusMemory n} {count : Nat} :
    Copied m m' dst src count ↔ m' = copyRange m dst src count := by
  constructor
  · intro copied
    funext a
    unfold copyRange
    split
    next inside =>
      have moved := copied.inside (a - dst) inside
      rw [add_sub_self] at moved
      exact moved
    next outside => exact copied.outside a outside
  · rintro rfl
    apply Copied.mk
    · intro i inside
      have offset : dst + i - dst = i := by rw [BitVec.add_comm, BitVec.add_sub_cancel]
      rw [copyRange, if_pos ((inRange_add dst i count).mpr inside), offset]
    · intro a outside
      exact if_neg outside

/-- The byte that goes to an address, some way in. -/
theorem source_behind (a dst src k : BitVec n) : src + k + (a - (dst + k)) = src + (a - dst) := by
  rw [sub_add_eq_sub_sub, BitVec.add_assoc, add_sub_self]

variable {a start : BitVec n}

/-- An offset from a later start. -/
theorem toNat_sub_behind {k : Nat} (small : k < 2 ^ n) (behind : ¬ InRange a start k) :
    (a - (start + BitVec.ofNat n k)).toNat = (a - start).toNat - k := by
  have value : (BitVec.ofNat n k).toNat = k := by rw [BitVec.toNat_ofNat, Nat.mod_eq_of_lt small]
  have le : BitVec.ofNat n k ≤ a - start := by
    rw [BitVec.le_def, value]
    exact Nat.le_of_not_lt behind
  rw [sub_add_eq_sub_sub, BitVec.toNat_sub_of_le le, value]

/-- The bytes behind the first `k` ones. -/
theorem inRange_behind {k count : Nat} (fits : k + count ≤ 2 ^ n) (positive : 0 < count) :
    InRange a (start + BitVec.ofNat n k) count ↔
      ¬ InRange a start k ∧ InRange a start (k + count) := by
  have small : (BitVec.ofNat n k).toNat = k := by
    rw [BitVec.toNat_ofNat, Nat.mod_eq_of_lt (by omega)]
  have offset : a - (start + BitVec.ofNat n k) = a - start - BitVec.ofNat n k := by
    rw [sub_add_eq_sub_sub]
  unfold InRange
  rw [offset]
  by_cases before : (a - start).toNat < k
  · have less : a - start < BitVec.ofNat n k := by rw [BitVec.lt_def, small]; exact before
    rw [BitVec.toNat_sub_of_lt less, small]
    omega
  · have away := @toNat_sub_behind n a start k (by omega) before
    rw [offset] at away
    omega

/-- Copying a range in two parts, when the source is not written to in between. -/
theorem copyRange_add {m : BusMemory n} {k count : Nat} (fits : k + count ≤ 2 ^ n)
    (apart : RangesApart src dst (k + count)) :
    copyRange (copyRange m dst src k) (dst + BitVec.ofNat n k) (src + BitVec.ofNat n k) count =
      copyRange m dst src (k + count) := by
  rcases Nat.eq_zero_or_pos count with rfl | positive
  · funext a
    exact if_neg (Nat.not_lt_zero _)
  · funext a
    unfold copyRange
    rw [source_behind]
    by_cases behind : InRange a (dst + BitVec.ofNat n k) count
    · have parts := (inRange_behind fits positive).mp behind
      -- the byte that is read belongs to the source, which the first part does not write
      have unwritten : ¬ InRange (src + (a - dst)) dst k := by
        intro written
        have inside := (inRange_add src (a - dst) (k + count)).mpr parts.2
        exact apart _ inside (Nat.lt_of_lt_of_le written (Nat.le_add_right k count))
      rw [if_pos behind, if_pos parts.2, if_neg unwritten]
    · rw [if_neg behind]
      by_cases first : InRange a dst k
      · have whole : InRange a dst (k + count) := Nat.lt_of_lt_of_le first (Nat.le_add_right ..)
        rw [if_pos first, if_pos whole]
      · have outside : ¬ InRange a dst (k + count) := by
          intro whole
          exact behind ((inRange_behind fits positive).mpr ⟨first, whole⟩)
        rw [if_neg first, if_neg outside]

/-- Ranges that are apart have parts that are apart. -/
theorem RangesApart.mono {a b : BitVec n} {count less : Nat} (apart : RangesApart a b count)
    (le : less ≤ count) : RangesApart a b less := by
  intro x inA inB
  exact apart x (Nat.lt_of_lt_of_le inA le) (Nat.lt_of_lt_of_le inB le)

/-- A range that does not wrap around. -/
theorem inRange_iff {count : Nat} (fits : start.toNat + count ≤ 2 ^ n) :
    InRange a start count ↔ start.toNat ≤ a.toNat ∧ a.toNat < start.toNat + count := by
  unfold InRange
  have bound := a.isLt
  by_cases below : a < start
  · rw [BitVec.toNat_sub_of_lt below]
    rw [BitVec.lt_def] at below
    omega
  · have behind : start ≤ a := BitVec.not_lt.mp below
    rw [BitVec.toNat_sub_of_le behind]
    rw [BitVec.le_def] at behind
    omega

/-- Ranges that follow each other are apart. -/
theorem rangesApart_of_le {a b : BitVec n} {count : Nat} (before : a.toNat + count ≤ b.toNat)
    (fits : b.toNat + count ≤ 2 ^ n) : RangesApart a b count := by
  intro x inA inB
  have first := (inRange_iff (by omega)).mp inA
  have second := (inRange_iff fits).mp inB
  omega

/-- Copying a range again over a part of it that was copied before. -/
theorem copyRange_again {m : BusMemory n} {k count : Nat} (le : k ≤ count)
    (apart : RangesApart src dst count) :
    copyRange (copyRange m dst src k) dst src count = copyRange m dst src count := by
  funext a
  unfold copyRange
  by_cases inside : InRange a dst count
  · have unwritten : ¬ InRange (src + (a - dst)) dst k := by
      intro written
      have inSrc := (inRange_add src (a - dst) count).mpr inside
      exact apart _ inSrc (Nat.lt_of_lt_of_le written le)
    rw [if_pos inside, if_pos inside, if_neg unwritten]
  · have before : ¬ InRange a dst k := fun part => inside (Nat.lt_of_lt_of_le part le)
    rw [if_neg inside, if_neg inside, if_neg before]

/-! ## Copies in chunks -/

/-- Copy chunks of `size` bytes; of chunk `k` only the first `written k` bytes arrive. -/
def copyChunks (written : Nat → Nat) (size : Nat) :
    Nat → Nat → BusMemory n → BitVec n → BitVec n → BusMemory n
  | 0, _, m, _, _ => m
  | chunks + 1, k, m, dst, src =>
    copyChunks written size chunks (k + 1) (copyRange m dst src (written k))
      (dst + BitVec.ofNat n size) (src + BitVec.ofNat n size)

/-- The parts of a copy of `len` bytes in chunks that may arrive. -/
structure ChunksFit (written : Nat → Nat) (size chunks k len : Nat) : Prop where
  /-- A chunk has a byte. -/
  positive : 0 < size
  /-- No chunk begins behind the end. -/
  begins : ∀ j < chunks, j * size < len
  /-- The chunks reach the end. -/
  covers : len ≤ chunks * size
  /-- What arrives of a chunk belongs to the chunk. -/
  inside : ∀ j < chunks, written (k + j) ≤ min size (len - j * size)

/-- The chunks behind the first. -/
theorem ChunksFit.tail {written : Nat → Nat} {size chunks k len : Nat}
    (fit : ChunksFit written size (chunks + 1) k len) :
    ChunksFit written size chunks (k + 1) (len - size) where
  positive := fit.positive
  begins j before := by
    have begins := fit.begins (j + 1) (by omega)
    rw [Nat.succ_mul] at begins
    omega
  covers := by
    have covers := fit.covers
    rw [Nat.succ_mul] at covers
    omega
  inside j before := by
    have inside := fit.inside (j + 1) (by omega)
    rw [Nat.succ_mul, ← Nat.add_assoc, Nat.add_right_comm] at inside
    omega

/-- The rest of a range behind its first `size` bytes. -/
theorem inRange_rest {size len : Nat} (fits : len ≤ 2 ^ n) :
    InRange a (start + BitVec.ofNat n size) (len - size) ↔
      ¬ InRange a start size ∧ InRange a start len := by
  rcases Nat.eq_zero_or_pos (len - size) with none | positive
  · rw [none]
    unfold InRange
    omega
  · have sum : size + (len - size) = len := by omega
    rw [inRange_behind (by omega) positive, sum]

/-- Ranges that are apart, some way in. -/
theorem RangesApart.behind {a b : BitVec n} {len size : Nat} (apart : RangesApart a b len)
    (fits : len ≤ 2 ^ n) :
    RangesApart (a + BitVec.ofNat n size) (b + BitVec.ofNat n size) (len - size) := by
  intro x inA inB
  exact apart x ((inRange_rest fits).mp inA).2 ((inRange_rest fits).mp inB).2

/-- A byte of the source is not written by a copy to a range apart from it. -/
theorem copyRange_source {m : BusMemory n} {k len : Nat} {i : BitVec n}
    (apart : RangesApart src dst len) (le : k ≤ len) (inside : i.toNat < len) :
    copyRange m dst src k (src + i) = m (src + i) := by
  apply if_neg
  intro written
  exact apart _ ((inRange_add src i len).mpr inside) (Nat.lt_of_lt_of_le written le)

/-- What a copy in chunks leaves at an address. -/
theorem copyChunks_apply {written : Nat → Nat} {size chunks k len : Nat}
    (fit : ChunksFit written size chunks k len) (fits : len ≤ 2 ^ n)
    (apart : RangesApart src dst len) (m : BusMemory n) (a : BitVec n) :
    copyChunks written size chunks k m dst src a =
      if InRange a dst len ∧ (a - dst).toNat % size < written (k + (a - dst).toNat / size) then
        m (src + (a - dst))
      else m a := by
  induction chunks generalizing k len dst src m with
  | zero =>
    have none : len = 0 := by
      have covers := fit.covers
      omega
    have outside : ¬ InRange a dst len := by
      rw [none]
      exact Nat.not_lt_zero _
    rw [copyChunks, if_neg (fun both => outside both.1)]
  | succ chunks ih =>
    have first : written k ≤ min size len := by
      have inside := fit.inside 0 (Nat.succ_pos _)
      rw [Nat.add_zero, Nat.zero_mul, Nat.sub_zero] at inside
      exact inside
    rw [copyChunks, ih fit.tail (by omega) (apart.behind fits), source_behind]
    simp only [inRange_rest fits]
    by_cases before : InRange a dst size
    · -- the address belongs to the first chunk
      have place : (a - dst).toNat % size = (a - dst).toNat ∧ (a - dst).toNat / size = 0 :=
        ⟨Nat.mod_eq_of_lt before, Nat.div_eq_of_lt before⟩
      have here : InRange a dst (written k) ↔ InRange a dst len ∧ (a - dst).toNat < written k := by
        unfold InRange
        omega
      rw [if_neg (fun both => both.1.1 before), place.1, place.2, Nat.add_zero, copyRange]
      simp only [here]
    · -- it belongs to a later one, or to none
      have kept : copyRange m dst src (written k) a = m a :=
        if_neg fun arrived => before (Nat.lt_of_lt_of_le arrived (by omega))
      rw [kept]
      by_cases inside : InRange a dst len
      · have small : size < 2 ^ n := by
          unfold InRange at before inside
          omega
        have le : size ≤ (a - dst).toNat := Nat.le_of_not_lt before
        have place : k + 1 + ((a - dst).toNat - size) / size = k + (a - dst).toNat / size := by
          rw [Nat.div_eq_sub_div fit.positive le]
          omega
        rw [copyRange_source apart (by omega) inside, toNat_sub_behind small before, place,
          ← Nat.mod_eq_sub_mod le]
        simp only [before, inside, not_false_eq_true, true_and]
      · rw [if_neg (fun both => inside both.1.2), if_neg (fun both => inside both.1)]

/-- A copy in chunks is right for every memory exactly when all of every chunk arrives. -/
theorem copied_copyChunks_iff {written : Nat → Nat} {size chunks len : Nat}
    (fit : ChunksFit written size chunks 0 len) (fits : len ≤ 2 ^ n)
    (apart : RangesApart src dst len) :
    (∀ m : BusMemory n, Copied m (copyChunks written size chunks 0 m dst src) dst src len) ↔
      ∀ k < chunks, min size (len - k * size) ≤ written k := by
  constructor
  · intro copies k before
    by_contra short
    have begins := fit.begins k before
    -- the first byte of the chunk that does not arrive
    have offset : (BitVec.ofNat n (k * size + written k)).toNat = k * size + written k := by
      rw [BitVec.toNat_ofNat, Nat.mod_eq_of_lt (by omega)]
    have inside : (BitVec.ofNat n (k * size + written k)).toNat < len := by omega
    generalize BitVec.ofNat n (k * size + written k) = i at offset inside
    have moved := (copies fun a => if InRange a src len then 1 else 0).inside i inside
    have away : dst + i - dst = i := by rw [BitVec.add_comm, BitVec.add_sub_cancel]
    have place : (k * size + written k) % size = written k ∧ (k * size + written k) / size = k := by
      rw [Nat.mul_comm]
      constructor
      · rw [Nat.mul_add_mod, Nat.mod_eq_of_lt (by omega)]
      · rw [Nat.mul_add_div fit.positive, Nat.div_eq_of_lt (by omega), Nat.add_zero]
    have inSrc := (inRange_add src i len).mpr inside
    have inDst := (inRange_add dst i len).mpr inside
    have notSrc : ¬ InRange (dst + i) src len := fun both => apart _ both inDst
    rw [copyChunks_apply fit fits apart, away, offset, place.1, place.2, Nat.zero_add,
      if_neg (fun both => Nat.lt_irrefl _ both.2), if_neg notSrc, if_pos inSrc] at moved
    exact absurd moved (by decide)
  · intro whole m
    rw [copied_iff]
    funext a
    rw [copyChunks_apply fit fits apart, Nat.zero_add, copyRange]
    have arrives : InRange a dst len →
        (a - dst).toNat % size < written ((a - dst).toNat / size) := by
      intro inside
      have chunk : (a - dst).toNat / size < chunks := by
        apply Nat.div_lt_of_lt_mul
        rw [Nat.mul_comm]
        exact Nat.lt_of_lt_of_le inside fit.covers
      have all := whole _ chunk
      have parts := Nat.div_add_mod (a - dst).toNat size
      have less := Nat.mod_lt (a - dst).toNat fit.positive
      rw [Nat.mul_comm] at parts
      unfold InRange at inside
      omega
    have both : (InRange a dst len ∧
        (a - dst).toNat % size < written ((a - dst).toNat / size)) ↔ InRange a dst len :=
      and_iff_left_of_imp arrives
    simp only [both]

/-! ## Translated addresses -/

/-- The memory behind a translation that adds a constant. -/
def BusMemory.translated (m : BusMemory n) (k : BitVec n) : BusMemory n := fun a => m (a + k)

/-- A translation keeps offsets. -/
theorem inRange_translate (a start k : BitVec n) (count : Nat) :
    InRange (a + k) (start + k) count ↔ InRange a start count := by
  have offset : a + k - (start + k) = a - start := add_sub_add_right_eq_sub a start k
  rw [InRange, offset]
  rfl

/-- A translation keeps ranges apart. -/
theorem RangesApart.translate {a b : BitVec n} {count : Nat} (apart : RangesApart a b count)
    (k : BitVec n) : RangesApart (a + k) (b + k) count := by
  intro x inA inB
  have back : x - k + k = x := BitVec.sub_add_cancel x k
  rw [← back] at inA inB
  exact apart (x - k) ((inRange_translate ..).mp inA) ((inRange_translate ..).mp inB)

/-- A copy is one behind a translation exactly when it is one in front of it. -/
theorem copied_translated_iff {m m' : BusMemory n} {count : Nat} (k : BitVec n) :
    Copied (m.translated k) (m'.translated k) dst src count ↔
      Copied m m' (dst + k) (src + k) count := by
  have moved : ∀ start i : BitVec n, start + k + i = start + i + k := fun start i =>
    add_right_comm start k i
  constructor
  · intro copied
    apply Copied.mk
    · intro i inside
      rw [moved, moved]
      exact copied.inside i inside
    · intro a outside
      have back : a - k + k = a := BitVec.sub_add_cancel a k
      rw [← back] at outside ⊢
      exact copied.outside (a - k) fun inside => outside ((inRange_translate ..).mpr inside)
  · intro copied
    apply Copied.mk
    · intro i inside
      have same := copied.inside i inside
      rw [moved, moved] at same
      exact same
    · intro a outside
      exact copied.outside (a + k) fun inside => outside ((inRange_translate ..).mp inside)

/-! ## Channels -/

/-- What a channel does with an address after a unit. -/
inductive AddrCtl where
  /-- The address goes up. -/
  | inc
  /-- The address goes down. -/
  | dec
  /-- The address stays. -/
  | fixed
  deriving DecidableEq, Repr

/-- The address of the next unit. -/
def AddrCtl.next (width : Nat) (a : BitVec n) : AddrCtl → BitVec n
  | .inc => a + BitVec.ofNat n width
  | .dec => a - BitVec.ofNat n width
  | .fixed => a

/-- An address that was counted down. -/
theorem iterate_next_dec (width k : Nat) (a : BitVec n) :
    (fun a => AddrCtl.next width a .dec)^[k] a = a - BitVec.ofNat n (k * width) := by
  induction k with
  | zero => simp
  | succ k ih =>
    rw [Function.iterate_succ_apply', ih, Nat.succ_mul, BitVec.ofNat_add, sub_add_eq_sub_sub]
    rfl

/-- The mode in a field of two bits; the value 3 is not assigned. -/
def AddrCtl.ofField (value : BitVec 32) : AddrCtl :=
  if value = 0 then .inc else if value = 1 then .dec else .fixed

/-- A transfer in progress. -/
structure Transfer (n : Nat) where
  /-- The memory. -/
  memory : BusMemory n
  /-- The address of the next unit at the source. -/
  src : BitVec n
  /-- The address of the next unit at the destination. -/
  dst : BitVec n

namespace Transfer

variable {srcCtl dstCtl : AddrCtl} {width count : Nat}

/-- Move one unit. -/
def unit (srcCtl dstCtl : AddrCtl) (width : Nat) (t : Transfer n) : Transfer n where
  memory := copyRange t.memory t.dst t.src width
  src := srcCtl.next width t.src
  dst := dstCtl.next width t.dst

/-- Move `count` units. -/
def units (srcCtl dstCtl : AddrCtl) (width count : Nat) (t : Transfer n) : Transfer n :=
  (unit srcCtl dstCtl width)^[count] t

/-- One more unit, moved at the end. -/
theorem units_succ (t : Transfer n) :
    t.units srcCtl dstCtl width (count + 1) =
      (t.units srcCtl dstCtl width count).unit srcCtl dstCtl width :=
  Function.iterate_succ_apply' ..

/-- A channel that increments both addresses copies a range. -/
theorem units_inc (t : Transfer n) (fits : count * width ≤ 2 ^ n)
    (apart : RangesApart t.src t.dst (count * width)) :
    t.units .inc .inc width count =
      ⟨copyRange t.memory t.dst t.src (count * width), t.src + BitVec.ofNat n (count * width),
        t.dst + BitVec.ofNat n (count * width)⟩ := by
  induction count with
  | zero =>
    have none : copyRange t.memory t.dst t.src 0 = t.memory := by
      funext a
      exact if_neg (Nat.not_lt_zero _)
    simp [units, none]
  | succ count ih =>
    have more : (count + 1) * width = count * width + width := Nat.succ_mul ..
    rw [more] at fits apart ⊢
    rw [units_succ, ih (by omega) (apart.mono (Nat.le_add_right ..)), unit]
    simp only [AddrCtl.next, BitVec.add_assoc, BitVec.ofNat_add]
    congr 1
    exact copyRange_add fits apart

/-- The destination addresses that a transfer comes to. -/
theorem units_dst (t : Transfer n) :
    (t.units srcCtl dstCtl width count).dst = (fun a => dstCtl.next width a)^[count] t.dst := by
  induction count with
  | zero => rfl
  | succ count ih =>
    rw [units_succ, Function.iterate_succ_apply', ← ih]
    rfl

/-- A byte that is in none of the units written keeps its value. -/
theorem units_outside (t : Transfer n) {a : BitVec n}
    (outside : ∀ k < count, ¬ InRange a ((fun a => dstCtl.next width a)^[k] t.dst) width) :
    (t.units srcCtl dstCtl width count).memory a = t.memory a := by
  induction count with
  | zero => rfl
  | succ count ih =>
    have last : ¬ InRange a (t.units srcCtl dstCtl width count).dst width := by
      rw [units_dst]
      exact outside count (Nat.lt_succ_self count)
    rw [units_succ, unit]
    show copyRange _ _ _ _ a = _
    rw [copyRange, if_neg last]
    exact ih fun k before => outside k (Nat.lt_succ_of_lt before)

end Transfer

end Fvs318g.Lib
