import Fvs318g.Arch.DmaBusyWait
import Mathlib.Tactic.IntervalCases

/-!
# Status bits between chunks

A chunk that runs into the poll limit is copied by the processor, and its terminal count is not
cleared. When the bit comes between the last poll and the disabling of the channel, the next chunk
finds it at its first poll, disables the channel at once and takes the chunk for copied. A copy is
right exactly when each chunk that starts with the bit set is moved all the same.
-/

namespace Fvs318g.Verif.DmaBusyWait

open Lib Kernel Arch

/-! ## What a chunk does -/

section Chunk

variable {timing : ChunkTiming} {status : DmaStatus} {count : Nat}

/-- The end of the polls for a chunk. -/
def pollEnd (timing : ChunkTiming) (status : DmaStatus) : Nat × Bool :=
  busyWaitPoll timing status 0 dmaCopyBusyWaitLoop

/-- The processor copies the chunk. -/
def FallsBack (timing : ChunkTiming) (status : DmaStatus) : Prop :=
  (pollEnd timing status).2 = true ∨ (pollEnd timing status).1 = dmaCopyBusyWaitLoop

instance : Decidable (FallsBack timing status) := inferInstanceAs (Decidable (_ ∨ _))

/-- The units that the channel has moved when it is disabled. -/
def unitsMoved (timing : ChunkTiming) (status : DmaStatus) (count : Nat) : Nat :=
  if timing.finishedBy (pollsMade (pollEnd timing status).1) then count else min timing.moved count

/-- The units of a chunk that arrive. -/
def unitsWritten (timing : ChunkTiming) (status : DmaStatus) (count : Nat) : Nat :=
  if FallsBack timing status then count else unitsMoved timing status count

/-- The status bits after a chunk. -/
def nextStatus (timing : ChunkTiming) (status : DmaStatus) : DmaStatus :=
  let polls := pollsMade (pollEnd timing status).1
  let seen : DmaStatus :=
    ⟨status.tc || timing.finishedBy polls, status.err || timing.failedBy polls⟩
  if FallsBack timing status then
    if (pollEnd timing status).2 then { seen with err := false } else seen
  else { seen with tc := false }

/-- Polls that do not begin with a terminal count end on an error, at the limit, or when the
chunk is finished. -/
theorem poll_clear (clear : status.tc = false) (i left : Nat) :
    (busyWaitPoll timing status i left).2 = true ∨
      (busyWaitPoll timing status i left).1 = i + left ∨
      timing.finishedBy (busyWaitPoll timing status i left).1 = true := by
  induction left generalizing i with
  | zero => exact .inr (.inl rfl)
  | succ left ih =>
    rw [busyWaitPoll, clear, Bool.false_or]
    cases finished : timing.finishedBy i with
    | true => exact .inr (.inr finished)
    | false =>
      rw [if_neg Bool.false_ne_true]
      cases status.err || timing.failedBy i with
      | true => exact .inl rfl
      | false =>
        rw [if_neg Bool.false_ne_true]
        have rest := ih (i + 1)
        rw [Nat.add_right_comm] at rest
        exact rest

/-- A chunk that is finished at a poll is finished later. -/
theorem finishedBy_mono {poll later : Nat} (finished : timing.finishedBy poll = true)
    (le : poll ≤ later) : timing.finishedBy later = true := by
  unfold ChunkTiming.finishedBy at finished ⊢
  cases outcome : timing.outcome with
  | finishes first =>
    rw [outcome] at finished
    simp only [decide_eq_true_eq] at finished ⊢
    omega
  | fails first =>
    rw [outcome] at finished
    exact finished
  | runs =>
    rw [outcome] at finished
    exact finished

/-- All of a chunk arrives that starts without a terminal count. -/
theorem unitsWritten_clear (clear : status.tc = false) :
    unitsWritten timing status count = count := by
  unfold unitsWritten unitsMoved
  split
  · rfl
  next kept =>
    rcases poll_clear clear 0 dmaCopyBusyWaitLoop with failed | limit | finished
    · exact absurd (.inl failed) kept
    · rw [Nat.zero_add] at limit
      exact absurd (.inr limit) kept
    · have made : (pollEnd timing status).1 ≤ pollsMade (pollEnd timing status).1 := by
        unfold pollsMade
        split <;> omega
      exact if_pos (finishedBy_mono finished made)

/-- A chunk that starts with a terminal count gets one poll. -/
theorem unitsWritten_stale (stale : status.tc = true) :
    unitsWritten timing status count =
      if timing.finishedBy 1 then count else min timing.moved count := by
  have ends : pollEnd timing status = (0, false) := by
    rw [pollEnd, dmaCopyBusyWaitLoop, busyWaitPoll, stale, Bool.true_or, if_pos rfl]
  have kept : ¬ FallsBack timing status := by
    rw [FallsBack, ends]
    decide
  rw [unitsWritten, if_neg kept, unitsMoved, ends]
  rfl

/-- No more than the chunk arrives. -/
theorem unitsWritten_le : unitsWritten timing status count ≤ count := by
  cases stale : status.tc with
  | false => exact Nat.le_of_eq (unitsWritten_clear stale)
  | true =>
    rw [unitsWritten_stale stale]
    split <;> omega

/-- All of a chunk arrives exactly when it starts without a terminal count or is moved anyway. -/
theorem count_le_unitsWritten_iff :
    count ≤ unitsWritten timing status count ↔
      (status.tc = true → timing.finishedBy 1 = true ∨ count ≤ timing.moved) := by
  cases stale : status.tc with
  | false =>
    rw [unitsWritten_clear stale]
    exact iff_of_true (Nat.le_refl _) (fun set => absurd set Bool.false_ne_true)
  | true =>
    rw [unitsWritten_stale stale]
    cases finished : timing.finishedBy 1 with
    | true => simp
    | false =>
      simp only [Bool.false_eq_true, if_false, false_or, forall_const]
      omega

end Chunk

/-! ## The channel -/

variable {shift : Nat}

/-- The control word of a shift: units of that width, both addresses counted up, and the channel
disabled. -/
theorem control_of_shift (narrow : shift ≤ 2) : (field (dmaChCtlOfShift shift) 11 2).toNat = shift ∧
      (field (dmaChCtlOfShift shift ||| 0x1#32) 11 2).toNat = shift ∧
      AddrCtl.ofField (field (dmaChCtlOfShift shift ||| 0x1#32) 5 2) = .inc ∧
      AddrCtl.ofField (field (dmaChCtlOfShift shift ||| 0x1#32) 3 2) = .inc ∧
      (dmaChCtlOfShift shift ||| 0x1#32) &&& ~~~0x1#32 = dmaChCtlOfShift shift := by
  interval_cases shift <;> decide

/-- A chunk that the copy may hand to the channel. -/
structure ChunkFits (shift : Nat) (len : Word) : Prop where
  /-- The shift is one of the three. -/
  narrow : shift ≤ 2
  /-- The chunk is made of units. -/
  units : len.toNat % 2 ^ shift = 0
  /-- The size register holds the units. -/
  small : len.toNat ≤ 4095 * 2 ^ shift

namespace ChunkFits

variable {shift : Nat} {len : Word}

/-- The units of a chunk. -/
theorem toNat_units (len : Word) (shift : Nat) : (len >>> shift).toNat = len.toNat / 2 ^ shift := by
  rw [BitVec.toNat_ushiftRight, Nat.shiftRight_eq_div_pow]

/-- The bytes of the units are the chunk. -/
theorem bytes (fits : ChunkFits shift len) : (len >>> shift).toNat * 2 ^ shift = len.toNat := by
  rw [toNat_units]
  exact Nat.div_mul_cancel (Nat.dvd_of_mod_eq_zero fits.units)

/-- The units fit the size register. -/
theorem units_le (fits : ChunkFits shift len) : (len >>> shift).toNat ≤ 4095 := by
  rw [toNat_units]
  apply Nat.div_le_of_le_mul
  rw [Nat.mul_comm]
  exact fits.small

/-- The size register is not cut. -/
theorem size (fits : ChunkFits shift len) :
    ((len >>> shift) &&& 0xfff#32).toNat = (len >>> shift).toNat := by
  have le := fits.units_le
  rw [BitVec.toNat_and]
  show (len >>> shift).toNat &&& (2 ^ 12 - 1) = _
  rw [Nat.and_two_pow_sub_one_eq_mod]
  exact Nat.mod_eq_of_lt (by omega)

/-- The bytes that the processor copies are the chunk. -/
theorem shifted_back (fits : ChunkFits shift len) :
    ((len >>> shift) <<< shift).toNat = len.toNat := by
  rw [BitVec.toNat_shiftLeft, Nat.shiftLeft_eq, fits.bytes]
  exact Nat.mod_eq_of_lt len.isLt

end ChunkFits

/-- The channel after a chunk. -/
def chunkDone (timing : ChunkTiming) (dst src len : Word) (shift : Nat) (c : BusyWaitChannel) :
    BusyWaitChannel :=
  let units := unitsWritten timing c.status (len >>> shift).toNat
  { c with
    memory := copyRange c.memory (busAddress dst) (busAddress src) (units * 2 ^ shift)
    srcAddr := busAddress src
    dstAddr := busAddress dst
    size := len >>> shift
    status := nextStatus timing c.status
    programmed := ⟨2 ^ shift, busAddress src, busAddress dst, len >>> shift⟩ :: c.programmed }

/-- A chunk leaves the channel set up. -/
theorem chunkDone_csr (timing : ChunkTiming) (dst src len : Word) (shift : Nat)
    (c : BusyWaitChannel) : (chunkDone timing dst src len shift c).csr = c.csr := by
  rw [chunkDone]

/-- The status bits that a chunk leaves. -/
theorem chunkDone_status (timing : ChunkTiming) (dst src len : Word) (shift : Nat)
    (c : BusyWaitChannel) :
    (chunkDone timing dst src len shift c).status = nextStatus timing c.status := by
  rw [chunkDone]

/-- The units that the channel moves are copied. -/
theorem move_eq {shift units : Nat} {dst src len : Word} {c : BusyWaitChannel}
    (fits : ChunkFits shift len) (csr : c.csr = dmaChCtlOfShift shift ||| 0x1#32)
    (source : c.srcAddr = busAddress src) (destination : c.dstAddr = busAddress dst)
    (apart : RangesApart src dst len.toNat) (le : units ≤ (len >>> shift).toNat) :
    c.move units = { c with
      memory := copyRange c.memory (busAddress dst) (busAddress src) (units * 2 ^ shift) } := by
  obtain ⟨_, width, srcCtl, dstCtl, _⟩ := control_of_shift fits.narrow
  have bytes : units * 2 ^ shift ≤ len.toNat := by
    rw [← fits.bytes]
    exact Nat.mul_le_mul_right _ le
  have bound := len.isLt
  have moved := Transfer.units_inc ⟨c.memory, busAddress src, busAddress dst⟩ (by omega)
    ((rangesApart_busAddress apart).mono bytes)
  simp only [BusyWaitChannel.move, BusyWaitChannel.width, csr, width, srcCtl, dstCtl, source,
    destination, moved]

/-- What the channel has done with a chunk when it is disabled. -/
theorem transferred_eq {timing : ChunkTiming} {shift polls : Nat} {dst src len : Word}
    {c : BusyWaitChannel} (fits : ChunkFits shift len)
    (csr : c.csr = dmaChCtlOfShift shift ||| 0x1#32) (source : c.srcAddr = busAddress src)
    (destination : c.dstAddr = busAddress dst) (size : c.size = len >>> shift)
    (apart : RangesApart src dst len.toNat) :
    c.transferred timing polls = { c with
      memory := copyRange c.memory (busAddress dst) (busAddress src)
        ((if timing.finishedBy polls then (len >>> shift).toNat
          else min timing.moved (len >>> shift).toNat) * 2 ^ shift)
      status := ⟨c.status.tc || timing.finishedBy polls,
        c.status.err || timing.failedBy polls⟩ } := by
  have count : c.count = (len >>> shift).toNat := by
    rw [BusyWaitChannel.count, size]
    exact fits.size
  have le : (if timing.finishedBy polls then (len >>> shift).toNat
      else min timing.moved (len >>> shift).toNat) ≤ (len >>> shift).toNat := by
    split <;> omega
  rw [BusyWaitChannel.transferred, count, move_eq fits csr source destination apart le]

/-- A chunk, as a copy of the units that arrive. -/
theorem dmaCopyBusyWait_eq {timing : ChunkTiming} {dst src len : Word} {c : BusyWaitChannel}
    (fits : ChunkFits shift len) (csr : c.csr = dmaChCtlOfShift shift)
    (apart : RangesApart src dst len.toNat) :
    dmaCopyBusyWait timing dst src len shift c = chunkDone timing dst src len shift c := by
  obtain ⟨width, _, _, _, disabled⟩ := control_of_shift fits.narrow
  have onBus := rangesApart_busAddress apart
  rcases polled : busyWaitPoll timing c.status 0 dmaCopyBusyWaitLoop with ⟨i, err⟩
  have moved := @transferred_eq timing shift (pollsMade i) dst src len
    { c with
      srcAddr := busAddress src
      dstAddr := busAddress dst
      size := len >>> shift
      csr := dmaChCtlOfShift shift ||| 0x1#32
      programmed := ⟨2 ^ shift, busAddress src, busAddress dst, len >>> shift⟩ :: c.programmed }
    fits rfl rfl rfl rfl apart
  have le : (if timing.finishedBy (pollsMade i) then (len >>> shift).toNat
      else min timing.moved (len >>> shift).toNat) * 2 ^ shift ≤ len.toNat := by
    rw [← fits.bytes]
    apply Nat.mul_le_mul_right
    split <;> omega
  unfold dmaCopyBusyWait chunkDone unitsWritten unitsMoved nextStatus
  simp only [BusyWaitChannel.width, csr, width, FallsBack, pollEnd, polled, moved, disabled]
  by_cases back : err = true ∨ i = dmaCopyBusyWaitLoop
  · rw [if_pos back, if_pos back, if_pos back, fits.shifted_back, fits.bytes]
    cases err with
    | true =>
      simp only [if_true]
      rw [copyRange_again le onBus]
    | false =>
      simp only [Bool.false_eq_true, if_false]
      rw [copyRange_again le onBus]
  · rw [if_neg back, if_neg back, if_neg back]

/-! ## The loop -/

/-- The status bits before chunk `k`. -/
def statusBefore (timings : Nat → ChunkTiming) (status : DmaStatus) : Nat → DmaStatus
  | 0 => status
  | k + 1 => nextStatus (timings k) (statusBefore timings status k)

/-- The bytes of a full chunk. -/
def chunkSize (shift : Nat) : Nat := (dmaMaxLen shift).toNat

/-- The chunks of a copy. -/
def chunkNumber (shift len : Nat) : Nat := (len + (chunkSize shift - 1)) / chunkSize shift

/-- The units of chunk `k`. -/
def chunkUnits (shift len k : Nat) : Nat :=
  min (chunkSize shift) (len - k * chunkSize shift) / 2 ^ shift

/-- The bytes of chunk `k` that arrive. -/
def bytesWritten (timings : Nat → ChunkTiming) (status : DmaStatus) (shift len k : Nat) : Nat :=
  unitsWritten (timings k) (statusBefore timings status k) (chunkUnits shift len k) * 2 ^ shift

/-- A full chunk has 4095 units. -/
theorem chunkSize_eq (narrow : shift ≤ 2) : chunkSize shift = 4095 * 2 ^ shift := by
  interval_cases shift <;> decide

/-- A full chunk has a byte. -/
theorem chunkSize_pos (narrow : shift ≤ 2) : 0 < chunkSize shift := by
  rw [chunkSize_eq narrow]
  exact Nat.mul_pos (by decide) (Nat.two_pow_pos _)

/-- The number of chunks of a copy of more than one. -/
theorem chunkNumber_more {shift len : Nat} (narrow : shift ≤ 2) (more : chunkSize shift < len) :
    chunkNumber shift len = chunkNumber shift (len - chunkSize shift) + 1 := by
  have positive := chunkSize_pos narrow
  unfold chunkNumber
  rw [Nat.div_eq_sub_div positive (by omega)]
  congr 2
  omega

/-- The number of chunks of a copy of at most one. -/
theorem chunkNumber_last {shift len : Nat} (positive : 0 < len) (last : len ≤ chunkSize shift) :
    chunkNumber shift len = 1 := by
  unfold chunkNumber
  rw [Nat.div_eq_sub_div (by omega) (by omega), Nat.div_eq_of_lt (by omega)]

/-- No chunks for nothing. -/
theorem chunkNumber_zero (narrow : shift ≤ 2) : chunkNumber shift 0 = 0 := by
  have positive := chunkSize_pos narrow
  exact Nat.div_eq_of_lt (by omega)

/-- An address at the start of a unit. -/
def Aligned (shift : Nat) (x : Word) : Prop := x.toNat % 2 ^ shift = 0

instance (shift : Nat) (x : Word) : Decidable (Aligned shift x) :=
  inferInstanceAs (Decidable (_ = _))

/-- Aligned words add up to one. -/
theorem Aligned.add {x y : Word} (narrow : shift ≤ 2) (first : Aligned shift x)
    (second : Aligned shift y) : Aligned shift (x + y) := by
  unfold Aligned at *
  rw [BitVec.toNat_add]
  interval_cases shift <;> omega

/-- A full chunk is made of units. -/
theorem aligned_dmaMaxLen (narrow : shift ≤ 2) : Aligned shift (dmaMaxLen shift) := by
  interval_cases shift <;> decide

/-- The start of a unit is one on the bus. -/
theorem Aligned.busAddress {x : Word} (narrow : shift ≤ 2) (aligned : Aligned shift x) :
    Aligned shift (busAddress x) := by
  rw [busAddress_eq]
  apply aligned.add narrow
  interval_cases shift <;> decide

/-- The loop at chunk `k` of a copy of `total` bytes. -/
structure LoopAt (timings : Nat → ChunkTiming) (status : DmaStatus) (shift total k : Nat)
    (pdst psrc len : Word) (c : BusyWaitChannel) : Prop where
  /-- The shift is one of the three. -/
  narrow : shift ≤ 2
  /-- The bytes left. -/
  left : len.toNat = total - k * chunkSize shift
  /-- The bytes left are units. -/
  units : Aligned shift len
  /-- The source is at a unit. -/
  source : Aligned shift psrc
  /-- The destination is at a unit. -/
  destination : Aligned shift pdst
  /-- The channel is set up and disabled. -/
  csr : c.csr = dmaChCtlOfShift shift
  /-- The status bits. -/
  bits : c.status = statusBefore timings status k
  /-- The rest of the buffers does not overlap. -/
  apart : RangesApart psrc pdst len.toNat

namespace LoopAt

variable {timings : Nat → ChunkTiming} {status : DmaStatus} {shift total k : Nat}
  {pdst psrc len : Word} {c : BusyWaitChannel}

/-- The next chunk. -/
theorem chunk (loop : LoopAt timings status shift total k pdst psrc len c) {size : Word}
    (exact_ : size.toNat = min (chunkSize shift) len.toNat) (units : Aligned shift size) :
    dmaCopyBusyWait (timings k) pdst psrc size shift c =
      chunkDone (timings k) pdst psrc size shift c := by
  have small : size.toNat ≤ 4095 * 2 ^ shift := by
    rw [exact_, ← chunkSize_eq loop.narrow]
    exact Nat.min_le_left ..
  have part : size.toNat ≤ len.toNat := by omega
  exact dmaCopyBusyWait_eq ⟨loop.narrow, units, small⟩ loop.csr (loop.apart.mono part)

/-- What arrives of the next chunk. -/
theorem written (loop : LoopAt timings status shift total k pdst psrc len c) {size : Word}
    (exact_ : size.toNat = min (chunkSize shift) len.toNat) :
    (chunkDone (timings k) pdst psrc size shift c).memory =
      copyRange c.memory (busAddress pdst) (busAddress psrc)
        (bytesWritten timings status shift total k) := by
  have count : (size >>> shift).toNat = chunkUnits shift total k := by
    rw [ChunkFits.toNat_units, exact_, loop.left, chunkUnits]
  rw [chunkDone, bytesWritten, count, loop.bits]

/-- A round of the loop that is not the last. -/
theorem next (loop : LoopAt timings status shift total k pdst psrc len c)
    (more : chunkSize shift < len.toNat) :
    LoopAt timings status shift total (k + 1) (pdst + dmaMaxLen shift) (psrc + dmaMaxLen shift)
      (len - dmaMaxLen shift) (chunkDone (timings k) pdst psrc (dmaMaxLen shift) shift c) := by
  have le : dmaMaxLen shift ≤ len := by
    rw [BitVec.le_def, ← chunkSize]
    exact Nat.le_of_lt more
  have less : (len - dmaMaxLen shift).toNat = len.toNat - chunkSize shift := by
    rw [BitVec.toNat_sub_of_le le, chunkSize]
  have whole : BitVec.ofNat 32 (chunkSize shift) = dmaMaxLen shift := by
    rw [chunkSize, BitVec.ofNat_toNat, BitVec.setWidth_eq]
  have unit := aligned_dmaMaxLen loop.narrow
  have bound := len.isLt
  refine ⟨loop.narrow, ?_, ?_, loop.source.add loop.narrow unit,
    loop.destination.add loop.narrow unit, ?_, ?_, ?_⟩
  · rw [less, loop.left, Nat.succ_mul]
    omega
  · have units := loop.units
    unfold Aligned at units unit ⊢
    rw [less, Nat.sub_mod_eq_zero_of_mod_eq]
    rw [units]
    exact unit.symm
  · rw [chunkDone_csr]
    exact loop.csr
  · rw [chunkDone_status, loop.bits, statusBefore]
  · rw [less, ← whole]
    exact loop.apart.behind (Nat.le_of_lt bound)

end LoopAt

/-- A chunk that the channel can move: a transfer count of 1 to 4095, and addresses at a unit. -/
structure ProperChunk (chunk : ProgrammedChunk) : Prop where
  /-- There is a unit. -/
  positive : 1 ≤ chunk.size.toNat
  /-- The count fits 12 bits. -/
  small : chunk.size.toNat ≤ 4095
  /-- The source is at a unit. -/
  source : chunk.srcAddr.toNat % chunk.width = 0
  /-- The destination is at a unit. -/
  destination : chunk.dstAddr.toNat % chunk.width = 0

namespace LoopAt

variable {timings : Nat → ChunkTiming} {status : DmaStatus} {shift total k : Nat}
  {pdst psrc len : Word} {c : BusyWaitChannel}

/-- The next chunk is programmed properly. -/
theorem programmed (loop : LoopAt timings status shift total k pdst psrc len c) {size : Word}
    (exact_ : size.toNat = min (chunkSize shift) len.toNat) (units : Aligned shift size)
    (positive : 0 < size.toNat) {chunk : ProgrammedChunk}
    (member : chunk ∈ (chunkDone (timings k) pdst psrc size shift c).programmed) :
    chunk ∈ c.programmed ∨ ProperChunk chunk := by
  rw [chunkDone] at member
  rcases List.mem_cons.mp member with rfl | before
  · have small : size.toNat ≤ 4095 * 2 ^ shift := by
      rw [exact_, ← chunkSize_eq loop.narrow]
      exact Nat.min_le_left ..
    have fits : ChunkFits shift size := ⟨loop.narrow, units, small⟩
    have bytes := fits.bytes
    right
    refine ⟨?_, fits.units_le, loop.source.busAddress loop.narrow,
      loop.destination.busAddress loop.narrow⟩
    show 1 ≤ (size >>> shift).toNat
    by_contra none
    have zero : (size >>> shift).toNat = 0 := by omega
    rw [zero, Nat.zero_mul] at bytes
    omega
  · exact .inl before

/-- The loop is a copy in chunks, each of them programmed properly. -/
theorem chunks (rounds : Nat) : ∀ {k : Nat} {pdst psrc len : Word} {c : BusyWaitChannel},
    LoopAt timings status shift total k pdst psrc len c → len.toNat ≤ rounds →
    (busyWaitChunks timings shift (dmaMaxLen shift) rounds k pdst psrc len c).memory =
      copyChunks (bytesWritten timings status shift total) (chunkSize shift)
        (chunkNumber shift len.toNat) k c.memory (busAddress pdst) (busAddress psrc) ∧
    ∀ chunk ∈ (busyWaitChunks timings shift (dmaMaxLen shift) rounds k pdst psrc len c).programmed,
      chunk ∈ c.programmed ∨ ProperChunk chunk := by
  induction rounds with
  | zero =>
    intro k pdst psrc len c loop enough
    have none : len.toNat = 0 := Nat.le_zero.mp enough
    rw [none, chunkNumber_zero loop.narrow]
    exact ⟨rfl, fun _ => .inl⟩
  | succ rounds ih =>
    intro k pdst psrc len c loop enough
    rw [busyWaitChunks]
    by_cases empty : len = 0
    · have none : len.toNat = 0 := by rw [empty]; rfl
      rw [if_pos empty, none, chunkNumber_zero loop.narrow]
      exact ⟨rfl, fun _ => .inl⟩
    · have positive : 0 < len.toNat := by
        rw [Nat.pos_iff_ne_zero]
        exact fun none => empty (BitVec.eq_of_toNat_eq none)
      rw [if_neg empty]
      by_cases more : len > dmaMaxLen shift
      · have longer : chunkSize shift < len.toNat := more
        have exact_ : (dmaMaxLen shift).toNat = min (chunkSize shift) len.toNat := by
          rw [Nat.min_eq_left (Nat.le_of_lt longer), chunkSize]
        have units := aligned_dmaMaxLen loop.narrow
        have next := loop.next longer
        have onBus : ∀ x : Word, busAddress (x + dmaMaxLen shift) =
            busAddress x + BitVec.ofNat 32 (chunkSize shift) := by
          intro x
          rw [chunkSize, BitVec.ofNat_toNat, BitVec.setWidth_eq, busAddress_eq, busAddress_eq]
          exact add_right_comm ..
        have less : (len - dmaMaxLen shift).toNat = len.toNat - chunkSize shift := by
          rw [next.left, loop.left, Nat.succ_mul, Nat.sub_sub]
        have positiveSize := chunkSize_pos loop.narrow
        obtain ⟨memory, proper⟩ := ih next (by omega)
        rw [if_pos more, loop.chunk exact_ units]
        apply And.intro
        · rw [memory, less, onBus, onBus, chunkNumber_more loop.narrow longer, copyChunks,
            loop.written exact_]
        · intro chunk member
          rcases proper chunk member with before | here
          · exact loop.programmed exact_ units positiveSize before
          · exact .inr here
      · have shorter : len.toNat ≤ chunkSize shift := Nat.le_of_not_lt more
        have exact_ : len.toNat = min (chunkSize shift) len.toNat := (Nat.min_eq_right shorter).symm
        rw [if_neg more, loop.chunk exact_ loop.units]
        apply And.intro
        · rw [loop.written exact_, chunkNumber_last positive shorter, copyChunks, copyChunks]
        · exact fun chunk member => loop.programmed exact_ loop.units positive member

end LoopAt

/-! ## Against `memcpy` -/

/-- Masked bits that are clear. -/
theorem aligned_of_and {x : Word} (narrow : shift ≤ 2)
    (clear : x &&& BitVec.ofNat 32 (2 ^ shift - 1) = 0) : Aligned shift x := by
  have value := congrArg BitVec.toNat clear
  have mask : 2 ^ shift - 1 < 2 ^ 32 := by interval_cases shift <;> decide
  rw [BitVec.toNat_and, BitVec.toNat_ofNat, Nat.mod_eq_of_lt mask,
    Nat.and_two_pow_sub_one_eq_mod] at value
  exact value

/-- Every word is at a byte. -/
theorem aligned_zero (x : Word) : Aligned 0 x := Nat.mod_one _

/-- Both addresses and the length are made of the units that are chosen. -/
theorem dmaLenShift_spec (dst src len : Word) :
    dmaLenShift dst src len ≤ 2 ∧ Aligned (dmaLenShift dst src len) src ∧
      Aligned (dmaLenShift dst src len) dst ∧ Aligned (dmaLenShift dst src len) len := by
  unfold dmaLenShift
  split
  next words =>
    exact ⟨Nat.le_refl _, aligned_of_and (Nat.le_refl _) words.1,
      aligned_of_and (Nat.le_refl _) words.2.1, aligned_of_and (Nat.le_refl _) words.2.2⟩
  next =>
    split
    next halves =>
      have narrow : 1 ≤ 2 := by decide
      exact ⟨narrow, aligned_of_and narrow halves.1, aligned_of_and narrow halves.2.1,
        aligned_of_and narrow halves.2.2⟩
    next => exact ⟨by decide, aligned_zero src, aligned_zero dst, aligned_zero len⟩

/-- The loop begins. -/
theorem loopAt_start {dst src len : Word} (timings : Nat → ChunkTiming) (c : BusyWaitChannel)
    (apart : RangesApart src dst len.toNat) :
    LoopAt timings c.status (dmaLenShift dst src len) len.toNat 0 dst src len
      { c with csr := dmaChCtlOfShift (dmaLenShift dst src len) } := by
  obtain ⟨narrow, source, destination, units⟩ := dmaLenShift_spec dst src len
  refine ⟨narrow, ?_, units, source, destination, rfl, rfl, apart⟩
  rw [Nat.zero_mul, Nat.sub_zero]

section Criterion

variable {timings : Nat → ChunkTiming} {status : DmaStatus} {shift len : Nat}

/-- The bytes of a chunk are those of its units. -/
theorem chunkUnits_bytes (narrow : shift ≤ 2) (units : len % 2 ^ shift = 0) (k : Nat) :
    chunkUnits shift len k * 2 ^ shift = min (chunkSize shift) (len - k * chunkSize shift) := by
  apply Nat.div_mul_cancel
  have whole : 2 ^ shift ∣ chunkSize shift := by
    rw [chunkSize_eq narrow]
    exact Nat.dvd_mul_left ..
  have rest : 2 ^ shift ∣ len - k * chunkSize shift :=
    Nat.dvd_sub (Nat.dvd_of_mod_eq_zero units) (Nat.dvd_mul_left_of_dvd whole k)
  rcases Nat.le_total (chunkSize shift) (len - k * chunkSize shift) with le | le
  · rw [Nat.min_eq_left le]
    exact whole
  · rw [Nat.min_eq_right le]
    exact rest

/-- The chunks of a copy. -/
theorem chunksFit (narrow : shift ≤ 2) (units : len % 2 ^ shift = 0) :
    ChunksFit (bytesWritten timings status shift len) (chunkSize shift) (chunkNumber shift len) 0
      len := by
  have positive := chunkSize_pos narrow
  refine ⟨positive, ?_, ?_, ?_⟩
  · intro j before
    have above := (Nat.le_div_iff_mul_le positive).mp (Nat.succ_le_of_lt before)
    rw [Nat.succ_mul] at above
    omega
  · have above := Nat.lt_mul_of_div_lt (Nat.lt_succ_self (chunkNumber shift len)) positive
    rw [Nat.succ_mul] at above
    omega
  · intro j _
    rw [Nat.zero_add, ← chunkUnits_bytes narrow units, bytesWritten]
    exact Nat.mul_le_mul_right _ unitsWritten_le

/-- All of a chunk arrives exactly when it starts without a terminal count or is moved anyway. -/
theorem chunk_arrives_iff (narrow : shift ≤ 2) (units : len % 2 ^ shift = 0) (k : Nat) :
    min (chunkSize shift) (len - k * chunkSize shift) ≤ bytesWritten timings status shift len k ↔
      ((statusBefore timings status k).tc = true →
        (timings k).finishedBy 1 = true ∨ chunkUnits shift len k ≤ (timings k).moved) := by
  rw [← count_le_unitsWritten_iff, ← chunkUnits_bytes narrow units, bytesWritten]
  exact Nat.mul_le_mul_right_iff (Nat.two_pow_pos shift)

end Criterion

/-- A copy that begins with some status bits is `memcpy`, and its chunks are programmed properly. -/
def CopiesAsMemcpy (timings : Nat → ChunkTiming) (status : DmaStatus) (dst src len : Word) : Prop :=
  ∀ c : BusyWaitChannel, c.status = status → c.programmed = [] →
    Copied (cpuView c.memory) (cpuView (dmaMemcpyBusyWait timings dst src len c).memory) dst src
      len.toNat ∧
    ∀ chunk ∈ (dmaMemcpyBusyWait timings dst src len c).programmed, ProperChunk chunk

/-- The whole call: a copy in chunks, each of them programmed properly. -/
theorem dmaMemcpyBusyWait_eq {dst src len : Word} (timings : Nat → ChunkTiming)
    (c : BusyWaitChannel) (apart : RangesApart src dst len.toNat) :
    (dmaMemcpyBusyWait timings dst src len c).memory =
      copyChunks (bytesWritten timings c.status (dmaLenShift dst src len) len.toNat)
        (chunkSize (dmaLenShift dst src len)) (chunkNumber (dmaLenShift dst src len) len.toNat) 0
        c.memory (busAddress dst) (busAddress src) ∧
    ∀ chunk ∈ (dmaMemcpyBusyWait timings dst src len c).programmed,
      chunk ∈ c.programmed ∨ ProperChunk chunk := by
  rw [dmaMemcpyBusyWait]
  exact (loopAt_start timings c apart).chunks len.toNat (Nat.le_refl _)

/-- A copy is `memcpy` exactly when every chunk that starts with a terminal count left over is
finished by the time of its first poll, or has all its units moved when the channel is disabled. -/
theorem dmaMemcpyBusyWait_iff (timings : Nat → ChunkTiming) (status : DmaStatus)
    (dst src len : Word) (apart : RangesApart src dst len.toNat) :
    CopiesAsMemcpy timings status dst src len ↔
      ∀ k < chunkNumber (dmaLenShift dst src len) len.toNat,
        (statusBefore timings status k).tc = true →
          (timings k).finishedBy 1 = true ∨
            chunkUnits (dmaLenShift dst src len) len.toNat k ≤ (timings k).moved := by
  obtain ⟨narrow, _, _, units⟩ := dmaLenShift_spec dst src len
  have bound := Nat.le_of_lt len.isLt
  have fit := @chunksFit timings status _ len.toNat narrow units
  have criterion := copied_copyChunks_iff fit bound (rangesApart_busAddress apart)
  simp only [chunk_arrives_iff narrow units] at criterion
  rw [← criterion]
  constructor
  · intro copies m
    let c : BusyWaitChannel := ⟨m, 0, 0, 0, 0, status, []⟩
    have spec := (dmaMemcpyBusyWait_eq timings c apart).1
    have copied := copied_cpuView_iff.mp (copies c rfl rfl).1
    rw [spec] at copied
    exact copied
  · intro copied c bits fresh
    obtain ⟨memory, proper⟩ := dmaMemcpyBusyWait_eq timings c apart
    apply And.intro
    · rw [copied_cpuView_iff, memory, bits]
      exact copied c.memory
    · intro chunk member
      rcases proper chunk member with before | here
      · rw [fresh] at before
        exact absurd before List.not_mem_nil
      · exact here

/-- One chunk of words that fails at the third poll, with no terminal count left over. -/
theorem dmaMemcpyBusyWait_error :
    CopiesAsMemcpy (fun _ => ⟨.fails 2, 1⟩) ⟨false, false⟩ 0xC0002000 0xC0001000 0x40 := by
  have apart : RangesApart (0xC0001000 : Word) 0xC0002000 (0x40 : Word).toNat :=
    rangesApart_of_le (by decide) (by decide)
  exact (dmaMemcpyBusyWait_iff _ _ _ _ _ apart).mpr (by decide)

/-- The first chunk has its terminal count after the last poll; the second one moves nothing before
it is disabled. -/
def lateTerminalCount (k : Nat) : ChunkTiming :=
  if k = 0 then ⟨.finishes dmaCopyBusyWaitLoop, 0⟩ else ⟨.runs, 0⟩

/-- An idle channel over a memory with one byte set, the last one of a source. -/
def lastByteSet : BusyWaitChannel where
  memory := fun a => if a = busAddress 0xC0000FFF then 0xA9 else 0
  csr := 0
  srcAddr := 0
  dstAddr := 0
  size := 0
  status := ⟨false, false⟩
  programmed := []

/-- A byte in a second chunk is lost when the terminal count of the first one comes late. -/
theorem dmaMemcpyBusyWait_late :
    cpuView (dmaMemcpyBusyWait lateTerminalCount 0xC0002001 0xC0000000 0x1000 lastByteSet).memory
        0xC0003000 = 0 ∧
      cpuView lastByteSet.memory 0xC0000FFF = 0xA9 := by
  decide +kernel

end Fvs318g.Verif.DmaBusyWait
