import Fvs318g.Kernel.Checksum

/-!
# The assembly sums 16-bit words

What is left to add after any of the loads, the accumulator and the bytes together, keeps its
one's complement representation. From this follows what `csum_partial` returns for every address,
length and start value, and what the functions that fold such a sum return.
-/

namespace Fvs318g.Verif.Checksum

open Lib Kernel

/-! ## Loads -/

/-- A halfword is little-endian. -/
theorem toNat_halfword (b c : UInt8) : (halfword b c).toNat = b.toNat + 256 * c.toNat := by
  have low : b.toNat < 256 := b.toNat_lt
  have high : c.toNat < 256 := c.toNat_lt
  rw [halfword, UInt32.toNat_ofNat', Nat.mod_eq_of_lt (by omega)]

/-- A word is two halfwords, the low one first. -/
theorem toNat_loadWord (b c d e : UInt8) :
    (loadWord b c d e).toNat = b.toNat + 256 * c.toNat + 2 ^ 16 * (d.toNat + 256 * e.toNat) := by
  have b0 : b.toNat < 256 := b.toNat_lt
  have b1 : c.toNat < 256 := c.toNat_lt
  have b2 : d.toNat < 256 := d.toNat_lt
  have b3 : e.toNat < 256 := e.toNat_lt
  rw [loadWord, UInt32.toNat_ofNat', Nat.mod_eq_of_lt (by omega)]

/-- A byte shifted to the high half of a half-word. -/
theorem toNat_putByte1 (b : UInt8) : (b.toUInt32 <<< 8).toNat = 256 * b.toNat := by
  have bound : b.toNat < 256 := b.toNat_lt
  rw [UInt32.toNat_shiftLeft, UInt8.toNat_toUInt32]
  show b.toNat <<< 8 % 2 ^ 32 = _
  rw [Nat.shiftLeft_eq]
  omega

/-- A byte in the low half of a half-word. -/
theorem toNat_putByte0 (b : UInt8) : (b.toUInt32 <<< 0).toNat = b.toNat := by
  rw [UInt32.toNat_shiftLeft, UInt8.toNat_toUInt32]
  show b.toNat <<< 0 % 2 ^ 32 = _
  rw [Nat.shiftLeft_zero]
  have bound : b.toNat < 256 := b.toNat_lt
  omega

/-! ## What one load keeps -/

/-- The representation of the sum of the accumulator and the bytes that are left. -/
def leftSum (r : CsumRegs) : Nat := fold16 (r.acc.value + wordSum r.data)

/-- Adding a word keeps the sum if the word represents the bytes that were taken. -/
theorem leftSum_adc (acc : Accumulator) (v : UInt32) (rest : List UInt8) {data : List UInt8}
    (taken : fold16 (v.toNat + wordSum rest) = fold16 (wordSum data)) :
    leftSum ⟨rest, acc.adc v⟩ = leftSum ⟨data, acc⟩ := by
  calc leftSum ⟨rest, acc.adc v⟩
      = fold16 (acc.value + v.toNat + wordSum rest) := fold16_add (acc.fold16_value_adc v) rfl
    _ = fold16 (acc.value + (v.toNat + wordSum rest)) := by rw [Nat.add_assoc]
    _ = leftSum ⟨data, acc⟩ := fold16_add rfl taken

variable (r : CsumRegs)

/-- Adding a halfword keeps the sum to be reached. -/
theorem leftSum_half : leftSum r.half = leftSum r := by
  obtain ⟨data, acc⟩ := r
  match data with
  | [] => rfl
  | [_] => rfl
  | b :: c :: rest =>
    apply leftSum_adc
    rw [toNat_halfword, wordSum]

/-- Adding a word keeps it. -/
theorem leftSum_word : leftSum r.word = leftSum r := by
  obtain ⟨data, acc⟩ := r
  match data with
  | [] => rfl
  | [_] => rfl
  | [_, _] => rfl
  | [_, _, _] => rfl
  | b :: c :: d :: e :: rest =>
    apply leftSum_adc
    rw [toNat_loadWord, wordSum, wordSum, fold16_eq_iff]
    omega

/-- A step that keeps the sum keeps it in every round of a loop. -/
theorem leftSum_iterate {step : CsumRegs → CsumRegs} (keeps : ∀ r, leftSum (step r) = leftSum r)
    (n : Nat) (r : CsumRegs) : leftSum (step^[n] r) = leftSum r := by
  induction n generalizing r with
  | zero => rfl
  | succ n ih => rw [Function.iterate_succ_apply, ih, keeps]

/-- Adding a block of eight words keeps it. -/
theorem leftSum_block : leftSum r.block = leftSum r := leftSum_iterate leftSum_word 8 r

/-! ## How many bytes a loop takes -/

/-- A halfword takes two bytes. -/
theorem length_half (enough : 2 ≤ r.data.length) : r.half.data.length = r.data.length - 2 := by
  obtain ⟨data, acc⟩ := r
  match data with
  | [] => simp at enough
  | [_] => simp at enough
  | b :: c :: rest => simp [CsumRegs.half]

/-- A word takes four bytes. -/
theorem length_word (enough : 4 ≤ r.data.length) : r.word.data.length = r.data.length - 4 := by
  obtain ⟨data, acc⟩ := r
  match data with
  | [] => simp at enough
  | [_] => simp at enough
  | [_, _] => simp at enough
  | [_, _, _] => simp at enough
  | b :: c :: d :: e :: rest => simp [CsumRegs.word]

/-- Rounds of a load that takes `width` bytes take them all. -/
theorem length_iterate {step : CsumRegs → CsumRegs} {width : Nat}
    (takes : ∀ r, width ≤ r.data.length → (step r).data.length = r.data.length - width)
    (n : Nat) (r : CsumRegs) (enough : n * width ≤ r.data.length) :
    (step^[n] r).data.length = r.data.length - n * width := by
  induction n generalizing r with
  | zero => simp
  | succ n ih =>
    rw [Nat.succ_mul] at enough ⊢
    have first := takes r (by omega)
    rw [Function.iterate_succ_apply, ih _ (by omega), first]
    omega

/-- A block takes 32 bytes. -/
theorem length_block (enough : 32 ≤ r.data.length) : r.block.data.length = r.data.length - 32 :=
  length_iterate length_word 8 r enough

/-! ## The parts of the routine -/

/-- With fewer than eight bytes left, all of them are added. -/
theorem value_less4 (short : r.data.length < 8) : fold16 r.less4.acc.value = leftSum r := by
  have kept := leftSum_iterate leftSum_half (r.data.length % 8 / 2) r
  have left := length_iterate length_half (r.data.length % 8 / 2) r (by omega)
  unfold CsumRegs.less4
  generalize CsumRegs.half^[r.data.length % 8 / 2] r = s at kept left
  rw [← kept]
  obtain ⟨data, acc⟩ := s
  match data with
  | [] => rfl
  | [b] =>
    have last : leftSum ⟨[], acc.adc (b.toUInt32 <<< 0)⟩ = leftSum ⟨[b], acc⟩ := by
      apply leftSum_adc
      rw [toNat_putByte0, wordSum, wordSum, Nat.add_zero]
    exact last
  | _ :: _ :: rest =>
    simp only [List.length_cons] at left
    omega

/-- From an aligned address on all bytes are added. -/
theorem value_aligned : fold16 r.aligned.acc.value = leftSum r := by
  have blocks := length_iterate length_block (r.data.length / 32) r (by omega)
  have keptBlocks := leftSum_iterate leftSum_block (r.data.length / 32) r
  unfold CsumRegs.aligned
  generalize CsumRegs.block^[r.data.length / 32] r = s at blocks keptBlocks
  dsimp only
  have words := length_iterate length_word (s.data.length % 32 / 4) s (by omega)
  have keptWords := leftSum_iterate leftSum_word (s.data.length % 32 / 4) s
  generalize CsumRegs.word^[s.data.length % 32 / 4] s = t at words keptWords
  rw [← keptBlocks, ← keptWords]
  exact value_less4 t (by omega)

/-- The odd byte of an odd address: the sum of the rest is one byte off, as the rotated sum is. -/
theorem leftSum_byte1 (sum : UInt32) (b : UInt8) (rest : List UInt8) :
    fold16 (256 * leftSum (CsumRegs.byte ⟨b :: rest, .start (rotateByte sum)⟩ 8)) =
      fold16 (sum.toNat + wordSum (b :: rest)) := by
  have added := (Accumulator.start (rotateByte sum)).fold16_value_adc (b.toUInt32 <<< 8)
  have turned := fold16_rotateByte sum
  have shifted := fold16_wordSum_cons b rest
  simp only [CsumRegs.byte, leftSum]
  rw [Accumulator.value_start, toNat_putByte1] at added
  rw [← fold16_add (rfl : fold16 sum.toNat = _) shifted]
  have total := fold16_add (fold16_add turned (rfl : fold16 (256 * b.toNat) = _))
    (rfl : fold16 (wordSum rest) = _)
  rw [← fold16_add added (rfl : fold16 (wordSum rest) = _)] at total
  generalize fold16 (((Accumulator.start (rotateByte sum)).adc (b.toUInt32 <<< 8)).value +
    wordSum rest) = folded at total ⊢
  subst total
  rw [fold16_eq_iff]
  unfold fold16
  split <;> omega

/-- Only the byte at an odd address changes the sum to be reached. -/
theorem leftSum_notAligned (buf : Nat) :
    leftSum (r.notAligned buf) = leftSum (if buf % 2 = 1 then r.byte 8 else r) := by
  unfold CsumRegs.notAligned
  simp only
  split <;> split <;> first | rfl | exact leftSum_half _

/-! ## `csum_partial` -/

/-- The registers after the first byte of an odd address. -/
def evened (buf : Nat) (data : List UInt8) (sum : UInt32) : CsumRegs :=
  if buf % 2 = 1 then CsumRegs.byte ⟨data, .start (rotateByte sum)⟩ 8 else ⟨data, .start sum⟩

/-- If all bytes were added, the result is the sum of the words. -/
theorem fold16_done {buf : Nat} {data : List UInt8} {sum : UInt32} (some : data ≠ [])
    (all : fold16 r.acc.value = leftSum (evened buf data sum)) :
    fold16 (r.done buf).toNat = fold16 (sum.toNat + wordSum data) := by
  unfold CsumRegs.done
  by_cases odd : buf % 2 = 1
  · rw [evened, if_pos odd] at all
    obtain ⟨b, rest, rfl⟩ := List.exists_cons_of_ne_nil some
    rw [if_pos odd, fold16_rotateByte, Accumulator.toNat_finish, ← leftSum_byte1, ← all,
      fold16_eq_iff]
    unfold fold16
    split <;> omega
  · rw [evened, if_neg odd] at all
    rw [if_neg odd, Accumulator.toNat_finish, all]
    rfl

/-- Evening the address takes bytes away only. -/
theorem length_evened_le (buf : Nat) (data : List UInt8) (sum : UInt32) :
    (evened buf data sum).data.length ≤ data.length := by
  unfold evened CsumRegs.byte
  split
  · cases data <;> simp
  · exact Nat.le_refl _

/-- `csum_partial` for up to seven bytes. -/
theorem csumPartial_short {buf : Nat} {data : List UInt8} (sum : UInt32) (short : data.length < 8)
    (some : data ≠ []) : csumPartial buf data sum = (evened buf data sum).less4.done buf := by
  have positive : data.length ≠ 0 := fun none => some (List.length_eq_zero_iff.mp none)
  unfold csumPartial evened
  by_cases odd : buf % 2 = 1 <;> simp only [if_pos short, if_neg positive, odd, if_true, if_false]

/-- `csum_partial` for eight bytes and more; at a multiple of four there is nothing to align. -/
theorem csumPartial_long (buf : Nat) {data : List UInt8} (sum : UInt32) (long : ¬data.length < 8) :
    ∃ r, csumPartial buf data sum = r.aligned.done buf ∧
      leftSum r = leftSum (evened buf data sum) := by
  unfold csumPartial
  rw [if_neg long]
  refine ⟨_, rfl, ?_⟩
  by_cases multiple : buf % 4 = 0
  · have even : ¬buf % 2 = 1 := by omega
    rw [if_neg (not_not_intro multiple), evened, if_neg even, if_neg even]
  · rw [if_pos multiple, leftSum_notAligned, evened]
    by_cases odd : buf % 2 = 1
    · simp only [odd, if_true]
    · simp only [odd, if_false]

/-- `csum_partial` adds the 16-bit words of the buffer, whatever the alignment of the buffer is. -/
theorem fold16_csumPartial (buf : Nat) (data : List UInt8) (sum : UInt32) :
    fold16 (csumPartial buf data sum).toNat = fold16 (sum.toNat + wordSum data) := by
  by_cases none : data = []
  · subst none
    rfl
  by_cases short : data.length < 8
  · rw [csumPartial_short sum short none]
    apply fold16_done _ none
    exact value_less4 _ (Nat.lt_of_le_of_lt (length_evened_le buf data sum) short)
  · obtain ⟨r, result, kept⟩ := csumPartial_long buf sum short
    rw [result]
    apply fold16_done _ none
    rw [value_aligned, kept]

/-! ## Folded results -/

/-- The upper half of a word added to its lower half, with the carry, is the representation. -/
theorem fold16_halves (high low : Nat) (highFits : high < 2 ^ 16) (lowFits : low < 2 ^ 16) :
    (if 2 ^ 32 ≤ high * 2 ^ 16 + low + low * 2 ^ 16 then
        (high * 2 ^ 16 + low + low * 2 ^ 16 + 0x10000) % 2 ^ 32
      else high * 2 ^ 16 + low + low * 2 ^ 16) / 2 ^ 16 = fold16 (high * 2 ^ 16 + low) := by
  have folded : fold16 (high * 2 ^ 16 + low) =
      if 2 ^ 16 ≤ high + low then high + low - 0xffff else high + low := by
    unfold fold16
    split <;> split <;> omega
  rw [folded]
  split <;> split <;> omega

/-- `csum_fold` is the complement of the representation. -/
theorem toNat_csumFold (sum : UInt32) : (csumFold sum).toNat = 0xffff - fold16 sum.toNat := by
  have bound : sum.toNat < 2 ^ 32 := sum.toNat_lt
  have halves := fold16_halves (sum.toNat / 2 ^ 16) (sum.toNat % 2 ^ 16) (by omega) (by omega)
  have whole : sum.toNat / 2 ^ 16 * 2 ^ 16 + sum.toNat % 2 ^ 16 = sum.toNat := by omega
  rw [whole] at halves
  unfold csumFold
  rw [UInt16.toNat_ofNat', halves, Nat.mod_eq_of_lt (by omega)]

/-- Fragments of even length that are summed one after the other, each at its own address, give
the sum of what they hold together. -/
theorem fold16_fragments (fragments : List (Nat × List UInt8)) (sum : UInt32)
    (even : ∀ f ∈ fragments, f.2.length % 2 = 0) :
    fold16 (fragments.foldl (fun sum f => csumPartial f.1 f.2 sum) sum).toNat =
        fold16 (sum.toNat + wordSum (fragments.flatMap Prod.snd)) ∧
      (fragments.flatMap Prod.snd).length % 2 = 0 := by
  induction fragments generalizing sum with
  | nil => exact ⟨rfl, rfl⟩
  | cons f fragments ih =>
    have here := even f List.mem_cons_self
    have rest := ih (csumPartial f.1 f.2 sum) fun g member => even g (List.mem_cons_of_mem f member)
    rw [List.foldl_cons, List.flatMap_cons, wordSum_append _ here, List.length_append,
      ← Nat.add_assoc]
    refine ⟨?_, by omega⟩
    rw [rest.1]
    exact fold16_add (fold16_csumPartial f.1 f.2 sum) rfl

/-- The checksum of a buffer that is summed in fragments is the complement of the sum of its 16-bit
words. It depends neither on the addresses nor on where the buffer is cut, as long as only the last
fragment has an odd length. -/
theorem csum_partial_fragments (fragments : List (Nat × List UInt8)) (buf : Nat)
    (last : List UInt8) (sum : UInt32) (even : ∀ f ∈ fragments, f.2.length % 2 = 0) :
    (csumFold (csumPartial buf last
        (fragments.foldl (fun sum f => csumPartial f.1 f.2 sum) sum))).toNat =
      0xffff - fold16 (sum.toNat + wordSum (fragments.flatMap Prod.snd ++ last)) := by
  have front := fold16_fragments fragments sum even
  rw [toNat_csumFold, fold16_csumPartial, wordSum_append _ front.2, ← Nat.add_assoc]
  rw [fold16_add front.1 rfl]

/-- Two fragments, both at odd addresses. -/
theorem csum_partial_fragments_odd_addresses :
    (∀ f ∈ [(1, [0x45, 0x00, 0x00, 0x54])], f.2.length % 2 = 0) ∧
      (csumFold (csumPartial 3 [0xff, 0x01, 0x80]
          (csumPartial 1 [0x45, 0x00, 0x00, 0x54] 0))).toNat =
        0xffff - fold16 (wordSum [0x45, 0x00, 0x00, 0x54, 0xff, 0x01, 0x80]) :=
  ⟨by decide, by
    simpa using csum_partial_fragments [(1, [0x45, 0x00, 0x00, 0x54])] 3 [0xff, 0x01, 0x80] 0
      (by decide)⟩

/-- `ip_fast_csum` is the complement of the sum of the words of the header. -/
theorem toNat_ipFastCsum {header : List UInt8} (some : header ≠ [])
    (words : header.length % 4 = 0) :
    (ipFastCsum header).toNat = 0xffff - fold16 (wordSum header) := by
  match header with
  | [] => exact absurd rfl some
  | [_] => simp at words
  | [_, _] => simp at words
  | [_, _, _] => simp at words
  | b :: c :: d :: e :: rest =>
    have multiple : rest.length % 4 = 0 := by
      simp only [List.length_cons] at words
      omega
    have all := length_iterate length_word (rest.length / 4)
      ⟨rest, .start (loadWord b c d e)⟩ (by simp only; omega)
    have kept := leftSum_iterate leftSum_word (rest.length / 4) ⟨rest, .start (loadWord b c d e)⟩
    simp only [ipFastCsum, toNat_csumFold, Accumulator.toNat_finish]
    generalize CsumRegs.word^[rest.length / 4] ⟨rest, .start (loadWord b c d e)⟩ = r at all kept
    obtain ⟨data, acc⟩ := r
    have none : data = [] := List.length_eq_zero_iff.mp (by simp only at all; omega)
    subst none
    have final : fold16 acc.value = fold16 (wordSum (b :: c :: d :: e :: rest)) := by
      rw [leftSum, wordSum, Nat.add_zero] at kept
      rw [kept, leftSum, Accumulator.value_start, toNat_loadWord, fold16_eq_iff]
      simp only [wordSum]
      omega
    rw [final]

/-- `csum_tcpudp_magic` adds the addresses, the length and the protocol in network order. -/
theorem toNat_csumTcpudpMagic (saddr daddr : UInt32) (len proto : UInt16) (sum : UInt32) :
    (csumTcpudpMagic saddr daddr len proto sum).toNat =
      0xffff - fold16 (sum.toNat + daddr.toNat + saddr.toNat + (htons len).toNat +
        (htons proto).toNat) := by
  have first := (Accumulator.start sum).fold16_value_adc daddr
  have chain := Accumulator.fold16_value_foldl
    [saddr, (htons len).toUInt32, (htons proto).toUInt32] ((Accumulator.start sum).adc daddr)
  have total := chain.trans (fold16_add first rfl)
  simp only [List.map_cons, List.map_nil, List.sum_cons, List.sum_nil, Accumulator.value_start,
    UInt16.toNat_toUInt32, Nat.add_zero, ← Nat.add_assoc] at total
  rw [csumTcpudpMagic, toNat_csumFold, Accumulator.toNat_finish, total]

end Fvs318g.Verif.Checksum
