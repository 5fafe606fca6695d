import Fvs318g.Verif.SpiErase

/-!
# Which writes are programmed

The write loop cuts the data into pieces of a page, counted from the offset and not from the page
boundary, and the page routine refuses a piece that crosses a boundary. A write therefore goes
through when it starts at a boundary or stays inside one page.
-/

namespace Fvs318g.Verif.SpiFlash

open Lib Mtd

/-- The geometry has the pages of the chip, and they cover the device. -/
def Paged (info : SpiFlashInfo) : Prop :=
  info.pageSize = 256 ∧ info.pages * info.pageSize = info.sectors * info.sectorSize

/-- Every device that the driver finds is paged. -/
theorem spiflashProbe_paged {manufacturerId deviceId : Nat} {info : SpiFlashInfo}
    (found : spiflashProbe manufacturerId deviceId = some info) : Paged info := by
  unfold spiflashProbe at found
  split_ifs at found <;> rw [← Option.some.inj found] <;> exact ⟨rfl, rfl⟩

/-- The bytes from `lo` up to `hi` are programmed with the data, and no other byte of the device
changes. -/
def Programmed (info : SpiFlashInfo) (before after : Memory) (lo hi : Nat) (data : Memory) : Prop :=
  ∀ b, b < info.mtdSize → after b = if lo ≤ b ∧ b < hi then before b &&& data b else before b

section Programming

variable {info : SpiFlashInfo} {before middle after data : Memory} {lo mid hi : Nat}

/-- Nothing is programmed. -/
theorem Programmed.refl (info : SpiFlashInfo) (before : Memory) (lo : Nat) (data : Memory) :
    Programmed info before before lo lo data := by
  intro b _
  rw [if_neg (by omega)]

/-- Two pieces in a row are one. -/
theorem Programmed.trans (first : Programmed info before middle lo mid data)
    (second : Programmed info middle after mid hi data) (ordered : lo ≤ mid) (above : mid ≤ hi) :
    Programmed info before after lo hi data := by
  intro b inside
  rw [second b inside, first b inside]
  by_cases low : lo ≤ b ∧ b < mid
  · rw [if_pos low, if_pos (show lo ≤ b ∧ b < hi by omega), if_neg (by omega)]
  · rw [if_neg low]
    by_cases high : mid ≤ b ∧ b < hi
    · rw [if_pos high, if_pos (by omega)]
    · rw [if_neg high, if_neg (by omega)]

/-- A piece inside a page that the chip sees is programmed. -/
theorem programmed_piece (m : Memory) (x : Nat) (piece : List UInt8)
    (fits : x % 256 + piece.length ≤ 256) (low : x + piece.length ≤ 2 ^ 24)
    (same : ∀ i, i < piece.length → data (x + i) = piece.getD i 0) (some_ : 0 < piece.length) :
    Programmed info m (programPage m (x % 2 ^ 24 / 256 * 256) (x % 2 ^ 24 % 256) piece) x
      (x + piece.length) data := by
  intro b _
  have seen : x % 2 ^ 24 = x := Nat.mod_eq_of_lt (by omega)
  have place : x / 256 * 256 + x % 256 = x := Nat.div_add_mod' x 256
  rw [seen, programPage_apply _ _ _ _ _ fits, place]
  by_cases asked : x ≤ b ∧ b < x + piece.length
  · have byte := same (b - x) (by omega)
    rw [Nat.add_sub_cancel' asked.1] at byte
    rw [if_pos asked, if_pos asked, byte]
  · rw [if_neg asked, if_neg asked]

/-- A piece does not reach the bytes from 16 MiB on. -/
theorem programPage_high (m : Memory) (x : Nat) (piece : List UInt8) {b : Nat} (high : 2 ^ 24 ≤ b) :
    programPage m (x % 2 ^ 24 / 256 * 256) (x % 2 ^ 24 % 256) piece b = m b := by
  apply programPage_outside
  have seen : x % 2 ^ 24 < 2 ^ 24 := Nat.mod_lt _ (by decide)
  omega

end Programming

/-! ## The write loop -/

section Loop

variable {info : SpiFlashInfo} {chip : SerialFlash} {a left total : Nat} {buf : Nat → UInt8}

/-- The piece that a round programs. -/
def piece (buf : Nat → UInt8) (total size : Nat) : List UInt8 :=
  (List.range size).map fun i => buf (total + i)

/-- The number of bytes of a piece. -/
theorem piece_length (buf : Nat → UInt8) (total size : Nat) :
    (piece buf total size).length = size := by
  rw [piece, List.length_map, List.length_range]

/-- The bytes of a piece. -/
theorem piece_getD (buf : Nat → UInt8) {total size i : Nat} (inside : i < size) :
    (piece buf total size).getD i 0 = buf (total + i) := by
  rw [List.getD_eq_getElem _ _ (by rw [piece_length]; exact inside)]
  simp only [piece, List.getElem_map, List.getElem_range]

/-- What a round programs, in terms of the whole buffer. -/
theorem programmed_round (info : SpiFlashInfo) (buf : Nat → UInt8) (m : Memory) {size : Nat}
    (fits : (a + total) % 256 + size ≤ 256) (low : a + total + size ≤ 2 ^ 24) (some_ : 0 < size) :
    Programmed info m (programPage m ((a + total) % 2 ^ 24 / 256 * 256)
      ((a + total) % 2 ^ 24 % 256) (piece buf total size)) (a + total) (a + total + size)
      fun b => buf (b - a) := by
  have length := piece_length buf total size
  rw [← length] at fits low some_
  rw [show a + total + size = a + total + (piece buf total size).length by rw [length]]
  refine programmed_piece m (a + total) (piece buf total size) fits low (fun i inside => ?_) some_
  rw [piece_getD buf (by rw [length] at inside; exact inside), Nat.add_assoc,
    Nat.add_sub_cancel_left]

/-- The address of a round. -/
theorem writeAddress_eq (small : a + total < 2 ^ 32) :
    (((a : Int) + total) % 2 ^ 32).toNat = a + total := by
  omega

/-- A round whose piece stays in its page. -/
theorem writeLoop_round (paged : Paged info) (idle : chip.Idle) (more : 0 < left)
    (inside : a + total + left ≤ info.mtdSize)
    (fits : (a + total) % 256 + min left 256 ≤ 256) (rounds : Nat) :
    writeLoop info a buf left total chip (rounds + 1) =
      if chip.obeys 0 then
        writeLoop info a buf (left - min left 256) (total + min left 256)
          (answered chip (programPage chip.contents ((a + total) % 2 ^ 24 / 256 * 256)
            ((a + total) % 2 ^ 24 % 256) (piece buf total (min left 256)))) rounds
      else some ⟨eio, some total, answered chip chip.contents⟩ := by
  have bound := info.size_lt
  rw [mtdSize_eq] at inside
  have size : (if left ≥ info.pageSize then info.pageSize else left) = min left 256 := by
    rw [paged.1]
    split <;> omega
  have programmed := pageProgramDataBytes_eq info idle (a := a + total) (fun i => buf (total + i))
    (show 0 < min left 256 by omega) (by rw [paged.1]; omega) (by rw [paged.2]; omega)
    (by rw [paged.2]; exact bound) (by rw [paged.1]; omega)
  rw [writeLoop, if_neg (by omega), size, writeAddress_eq (by omega)]
  simp only [programmed]
  cases chip.obeys 0 <;> rfl

/-- A round whose piece crosses a boundary ends the call. -/
theorem writeLoop_crossing (paged : Paged info) (more : 0 < left)
    (inside : a + total + left ≤ info.mtdSize)
    (crossing : 256 < (a + total) % 256 + min left 256) (rounds : Nat) :
    writeLoop info a buf left total chip (rounds + 1) = some ⟨eio, some total, chip⟩ := by
  have bound := info.size_lt
  rw [mtdSize_eq] at inside
  have size : (if left ≥ info.pageSize then info.pageSize else left) = min left 256 := by
    rw [paged.1]
    split <;> omega
  have refused := pageProgramDataBytes_crossing info chip (a := a + total)
    (fun i => buf (total + i)) (show 0 < min left 256 by omega) (by omega)
    (by rw [paged.1]; omega)
  rw [writeLoop, if_neg (by omega), size, writeAddress_eq (by omega)]
  simp only [refused]
  rfl

/-- The loop starts at a page boundary or has less than the rest of a page to go. -/
def Fits (x left : Nat) : Prop := x % 256 = 0 ∨ x % 256 + left ≤ 256

/-- The next round starts at a boundary again. -/
theorem Fits.next {x left : Nat} (fits : Fits x left) :
    Fits (x + min left 256) (left - min left 256) := by
  unfold Fits at *
  omega

/-- The loop programs the bytes that it counts. -/
theorem writeLoop_programmed (paged : Paged info) (idle : chip.Idle)
    (inside : a + total + left ≤ info.mtdSize) (fits : Fits (a + total) left)
    (low : a + total + left ≤ 2 ^ 24) {rounds : Nat} {result : WriteResult}
    (returned : writeLoop info a buf left total chip rounds = some result) :
    ∃ n, n ≤ left ∧ result.retlen = some (total + n) ∧ (result.ret = 0 → n = left) ∧
      Programmed info chip.contents result.chip.contents (a + total) (a + total + n)
        fun b => buf (b - a) := by
  induction rounds generalizing left total chip with
  | zero => simp only [writeLoop, reduceCtorEq] at returned
  | succ rounds ih =>
    by_cases done : left = 0
    · rw [writeLoop, if_pos done] at returned
      rw [← Option.some.inj returned]
      exact ⟨0, Nat.zero_le _, rfl, fun _ => done.symm,
        Programmed.refl info chip.contents (a + total) _⟩
    · have onePage : (a + total) % 256 + min left 256 ≤ 256 := by
        unfold Fits at fits
        omega
      rw [writeLoop_round paged idle (by omega) inside onePage] at returned
      cases obeyed : chip.obeys 0 with
      | false =>
        have failed : eio ≠ 0 := by decide
        rw [obeyed, if_neg Bool.false_ne_true] at returned
        rw [← Option.some.inj returned]
        exact ⟨0, Nat.zero_le _, rfl, fun zero => absurd zero failed,
          Programmed.refl info chip.contents (a + total) _⟩
      | true =>
        rw [obeyed, if_pos rfl] at returned
        have next := fits.next
        rw [Nat.add_assoc] at next
        obtain ⟨n, few, counted, complete, rest⟩ :=
          ih (answered_idle idle _) (by omega) next (by omega) returned
        have first := programmed_round info buf chip.contents onePage
          (show a + total + min left 256 ≤ 2 ^ 24 by omega) (by omega)
        refine ⟨min left 256 + n, by omega, ?_, fun zero => ?_, ?_⟩
        · rw [counted, Nat.add_assoc]
        · have all := complete zero
          omega
        · rw [← Nat.add_assoc] at rest ⊢
          exact first.trans rest (by omega) (by omega)

/-- With a chip that obeys the loop ends well. -/
theorem writeLoop_ends (paged : Paged info) (idle : chip.Idle) (accepting : chip.Accepting)
    (inside : a + total + left ≤ info.mtdSize) (fits : Fits (a + total) left) :
    ∃ rounds result, writeLoop info a buf left total chip rounds = some result ∧
      result.ret = 0 := by
  induction left using Nat.strongRecOn generalizing total chip with
  | ind left ih =>
    by_cases done : left = 0
    · refine ⟨1, ⟨0, some total, chip⟩, ?_, rfl⟩
      rw [writeLoop, if_pos done]
    · have onePage : (a + total) % 256 + min left 256 ≤ 256 := by
        unfold Fits at fits
        omega
      let programmed := programPage chip.contents ((a + total) % 2 ^ 24 / 256 * 256)
        ((a + total) % 2 ^ 24 % 256) (piece buf total (min left 256))
      have next := fits.next
      rw [Nat.add_assoc] at next
      obtain ⟨rounds, result, returned⟩ :=
        ih (left - min left 256) (by omega) (answered_idle idle programmed)
          (answered_accepting accepting programmed) (by omega) next
      refine ⟨rounds + 1, result, ?_⟩
      rw [writeLoop_round paged idle (by omega) inside onePage, accepting 0, if_pos rfl]
      exact returned

/-- The loop never changes the bytes from 16 MiB on. -/
theorem writeLoop_high (paged : Paged info) (idle : chip.Idle)
    (inside : a + total + left ≤ info.mtdSize) {b : Nat} (high : 2 ^ 24 ≤ b) {rounds : Nat}
    {result : WriteResult} (returned : writeLoop info a buf left total chip rounds = some result) :
    result.chip.contents b = chip.contents b := by
  induction rounds generalizing left total chip with
  | zero => simp only [writeLoop, reduceCtorEq] at returned
  | succ rounds ih =>
    by_cases done : left = 0
    · rw [writeLoop, if_pos done] at returned
      rw [← Option.some.inj returned]
    · by_cases onePage : (a + total) % 256 + min left 256 ≤ 256
      · rw [writeLoop_round paged idle (by omega) inside onePage] at returned
        cases obeyed : chip.obeys 0 with
        | false =>
          rw [obeyed, if_neg Bool.false_ne_true] at returned
          rw [← Option.some.inj returned, answered]
        | true =>
          rw [obeyed, if_pos rfl] at returned
          rw [ih (answered_idle idle _) (by omega) returned, answered]
          exact programPage_high _ _ _ high
      · rw [writeLoop_crossing paged (by omega) inside (by omega)] at returned
        rw [← Option.some.inj returned]

end Loop

/-! ## What a write has to do -/

/-- A chip that obeys has every byte of the buffer programmed, and a call that fails has programmed
as many leading bytes as it reports. -/
def WritesAll (info : SpiFlashInfo) (a len : Nat) : Prop :=
  ∀ (chip : SerialFlash) (buf : Nat → UInt8), chip.Idle →
    (chip.Accepting → ∃ rounds result, spiflashWrite info a len buf chip rounds = some result ∧
      result.ret = 0 ∧ result.retlen = some len ∧
      Programmed info chip.contents result.chip.contents a (a + len) fun b => buf (b - a)) ∧
    ∀ rounds result, spiflashWrite info a len buf chip rounds = some result → result.ret ≠ 0 →
      ∃ n, n ≤ len ∧ result.retlen = some n ∧
        Programmed info chip.contents result.chip.contents a (a + n) fun b => buf (b - a)

/-- The write starts at a page boundary or stays inside a page, and the chip sees its addresses. -/
def WriteSafe (a len : Nat) : Prop := (a % 256 = 0 ∨ a % 256 + len ≤ 256) ∧ a + len ≤ 2 ^ 24

section Writes

variable {info : SpiFlashInfo} {a len : Nat}

/-- Behind the range check the result is the one of the loop. -/
theorem spiflashWrite_eq (some_ : 0 < len) (inside : a + len ≤ info.mtdSize) (buf : Nat → UInt8)
    (chip : SerialFlash) (rounds : Nat) :
    spiflashWrite info a len buf chip rounds = writeLoop info a buf len 0 chip rounds := by
  rw [spiflashWrite, if_neg (by omega), if_neg (by omega)]

/-- A safe write is programmed. -/
theorem writesAll_of_safe (paged : Paged info) (some_ : 0 < len) (inside : a + len ≤ info.mtdSize)
    (safe : WriteSafe a len) : WritesAll info a len := by
  intro chip buf idle
  have fits : Fits (a + 0) len := safe.1
  have low : a + 0 + len ≤ 2 ^ 24 := safe.2
  have within : a + 0 + len ≤ info.mtdSize := inside
  constructor
  · intro accepting
    have ends : ∃ rounds result, writeLoop info a buf len 0 chip rounds = some result ∧
        result.ret = 0 := writeLoop_ends paged idle accepting within fits
    obtain ⟨rounds, result, returned, zero⟩ := ends
    obtain ⟨n, _, counted, complete, programmed⟩ :=
      writeLoop_programmed paged idle within fits low returned
    rw [complete zero, Nat.zero_add] at counted
    rw [complete zero] at programmed
    refine ⟨rounds, result, ?_, zero, counted, programmed⟩
    rw [spiflashWrite_eq some_ inside]
    exact returned
  · intro rounds result returned _
    rw [spiflashWrite_eq some_ inside] at returned
    obtain ⟨n, few, counted, _, programmed⟩ :=
      writeLoop_programmed paged idle within fits low returned
    rw [Nat.zero_add] at counted
    exact ⟨n, few, counted, programmed⟩

/-- A write that starts inside a page and leaves it fails on every chip. -/
theorem not_writesAll_crossing (paged : Paged info) (inside : a + len ≤ info.mtdSize)
    (apart : ¬ (a % 256 = 0 ∨ a % 256 + len ≤ 256)) : ¬ WritesAll info a len := by
  intro all
  have blank : Memory := fun _ => 0
  obtain ⟨rounds, result, returned, zero, _⟩ :=
    (all _ blank (obedient_idle blank)).1 (obedient_accepting blank)
  rw [spiflashWrite_eq (by omega) inside] at returned
  cases rounds with
  | zero => simp only [writeLoop, reduceCtorEq] at returned
  | succ rounds =>
    have failed : eio ≠ 0 := by decide
    rw [writeLoop_crossing paged (by omega) inside (by omega)] at returned
    rw [← Option.some.inj returned] at zero
    exact failed zero

/-- A write that reaches beyond 16 MiB does not program its last byte. -/
theorem not_writesAll_high (paged : Paged info) (inside : a + len ≤ info.mtdSize)
    (some_ : 0 < len) (high : 2 ^ 24 < a + len) : ¬ WritesAll info a len := by
  intro all
  let erased : Memory := fun _ => 0xFF
  obtain ⟨rounds, result, returned, _, _, programmed⟩ :=
    (all _ (fun _ => 0) (obedient_idle erased)).1 (obedient_accepting erased)
  rw [spiflashWrite_eq some_ inside] at returned
  have last := programmed (a + len - 1) (by omega)
  rw [if_pos (by omega), writeLoop_high paged (obedient_idle erased) inside (by omega)
    returned] at last
  exact absurd last (show (0xFF : UInt8) ≠ 0xFF &&& 0 by decide)

end Writes

/-- A write inside the device is programmed if and only if it is a safe one. -/
theorem spiflashWrite_all_iff (info : SpiFlashInfo) (paged : Paged info) (a len : Nat)
    (some_ : 0 < len) (inside : a + len ≤ info.mtdSize) :
    WritesAll info a len ↔ WriteSafe a len := by
  constructor
  · intro all
    apply Classical.byContradiction
    intro refused
    by_cases apart : a % 256 = 0 ∨ a % 256 + len ≤ 256
    · have high : ¬ a + len ≤ 2 ^ 24 := fun low => refused ⟨apart, low⟩
      exact not_writesAll_high paged inside some_ (Nat.lt_of_not_le high) all
    · exact not_writesAll_crossing paged inside apart all
  · exact writesAll_of_safe paged some_ inside

/-- A whole sector is programmed from its start. -/
theorem spiflashWrite_sector : WritesAll fourMiB 0x3F0000 0x10000 :=
  (spiflashWrite_all_iff fourMiB (spiflashProbe_paged fourMiB_found) 0x3F0000 0x10000 (by decide)
    (by decide)).mpr
    ⟨Or.inl rfl, by decide⟩

/-- Two bytes around a page boundary are refused with an error by a chip that obeys. -/
theorem spiflashWrite_boundary :
    (spiflashWrite fourMiB (255 : Nat) 2 (fun _ => 0) (obedient fun _ => 0xFF) 1).any
      (fun result => decide (result.ret = eio ∧ result.retlen = some 0)) = true ∧
    ¬ WritesAll fourMiB 255 2 :=
  ⟨by decide +kernel, not_writesAll_crossing ⟨rfl, rfl⟩ (by decide) (by decide)⟩

end Fvs318g.Verif.SpiFlash
