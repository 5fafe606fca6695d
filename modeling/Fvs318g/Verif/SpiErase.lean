import Fvs318g.Verif.SpiCommands

/-!
# Which sectors an erase request erases

The two search loops leave zero in `start_sector` and `end_sector` when they run to the end of
the device. A request that starts in the last sector is therefore erased from sector 0 on, one
that reaches the end of the device up to sector 0, and an empty request at address 0 goes on to
the largest `u32`. Between those the loops find the sectors of the request.
-/

namespace Fvs318g.Verif.SpiFlash

open Lib Mtd

/-! ## The search loops -/

section Search

variable {skip : Nat → Bool} {i j left : Nat}

/-- The search stops at the first sector that is not skipped. -/
theorem searchSector_found (from_ : i ≤ j) (below : j < i + left)
    (skipped : ∀ k, i ≤ k → k < j → skip k = true) (stop : skip j = false) :
    searchSector skip i left = u32Pred j := by
  induction left generalizing i with
  | zero => omega
  | succ left ih =>
    by_cases here : i = j
    · rw [searchSector, here, stop, if_neg Bool.false_ne_true]
    · rw [searchSector, skipped i (Nat.le_refl i) (by omega), if_pos rfl]
      exact ih (by omega) (by omega) fun k above => skipped k (by omega)

/-- A search that skips everything leaves the initial value. -/
theorem searchSector_none (skipped : ∀ k, i ≤ k → k < i + left → skip k = true) :
    searchSector skip i left = 0 := by
  induction left generalizing i with
  | zero => rfl
  | succ left ih =>
    rw [searchSector, skipped i (Nat.le_refl i) (by omega), if_pos rfl]
    exact ih fun k above below => skipped k (by omega) (by omega)

/-- A search leaves the initial value or the predecessor of a sector that is not skipped. -/
theorem searchSector_cases :
    searchSector skip i left = 0 ∨
      ∃ j, j < i + left ∧ skip j = false ∧ searchSector skip i left = u32Pred j := by
  induction left generalizing i with
  | zero => exact Or.inl rfl
  | succ left ih =>
    cases skipped : skip i with
    | false =>
      refine Or.inr ⟨i, by omega, skipped, ?_⟩
      rw [searchSector, skipped, if_neg Bool.false_ne_true]
    | true =>
      rw [searchSector, skipped, if_pos rfl, ← Nat.add_assoc, Nat.add_right_comm]
      exact ih

end Search

/-- The predecessor of a positive `u32`. -/
theorem u32Pred_succ {x : Nat} (small : x < 2 ^ 32) : u32Pred (x + 1) = x := by
  rw [u32Pred, u32]
  omega

section Bounds

variable (info : SpiFlashInfo)

/-- A sector of the device, or the one behind it, starts at a `u32`. -/
theorem u32_sector {i : Nat} (inside : i ≤ info.sectors) :
    u32 (i * info.sectorSize) = i * info.sectorSize := by
  have below := Nat.mul_le_mul_right info.sectorSize inside
  have fits := info.size_lt
  exact Nat.mod_eq_of_lt (by omega)

/-- There are fewer sectors than bytes. -/
theorem sectors_lt : info.sectors < 2 ^ 32 := by
  have each := Nat.le_mul_of_pos_right info.sectors info.sectorSize_pos
  have fits := info.size_lt
  omega

end Bounds

section Sectors

variable {info : SpiFlashInfo} {instr : EraseInfo}

/-- The first loop finds the sector of the address unless it is the last one, or behind it. -/
theorem startSector_eq {k : Nat} (aligned : instr.addr = k * info.sectorSize) :
    startSector info instr = if k + 1 < info.sectors then k else 0 := by
  have skipped : ∀ i, i < info.sectors → i ≤ k →
      decide (instr.addr ≥ u32 (i * info.sectorSize)) = true := by
    intro i inside below
    rw [u32_sector info (Nat.le_of_lt inside), aligned]
    exact decide_eq_true (Nat.mul_le_mul_right _ below)
  by_cases early : k + 1 < info.sectors
  · have stop : decide (instr.addr ≥ u32 ((k + 1) * info.sectorSize)) = false := by
      have positive := info.sectorSize_pos
      rw [u32_sector info (Nat.le_of_lt early), aligned, Nat.succ_mul]
      exact decide_eq_false (by omega)
    have fits := sectors_lt info
    rw [if_pos early, startSector, searchSector_found (Nat.zero_le _) (by omega) _ stop,
      u32Pred_succ (by omega)]
    intro i _ below
    exact skipped i (by omega) (by omega)
  · rw [if_neg early]
    apply searchSector_none
    intro i _ below
    exact skipped i (by omega) (by omega)

/-- Before the last sector it finds the sector of the address. -/
theorem startSector_early {k : Nat} (aligned : instr.addr = k * info.sectorSize)
    (early : k + 1 < info.sectors) : startSector info instr = k := by
  rw [startSector_eq aligned, if_pos early]

/-- The second loop stops at the first sector that the request does not reach. -/
theorem endSector_found {j : Nat} (from_ : startSector info instr ≤ j) (below : j < info.sectors)
    (reached : ∀ i, startSector info instr ≤ i → i < j →
      i * info.sectorSize < u32 (instr.addr + instr.len))
    (stop : u32 (instr.addr + instr.len) ≤ j * info.sectorSize) :
    endSector info instr = u32Pred j := by
  apply searchSector_found from_ (by omega)
  · intro i above before
    rw [u32_sector info (by omega)]
    exact decide_eq_true (reached i above before)
  · rw [u32_sector info (Nat.le_of_lt below)]
    exact decide_eq_false (Nat.not_lt_of_le stop)

/-- The second loop runs to the end when the request reaches into the last sector. -/
theorem endSector_none (inside : startSector info instr ≤ info.sectors)
    (reached : ∀ i, startSector info instr ≤ i → i < info.sectors →
      i * info.sectorSize < u32 (instr.addr + instr.len)) : endSector info instr = 0 := by
  apply searchSector_none
  intro i above below
  rw [u32_sector info (by omega)]
  exact decide_eq_true (reached i above (by omega))

end Sectors

/-! ## Erasing a row of sectors -/

/-- The sectors from `i` on, `n` of them, each through the address that the chip sees. -/
def eraseSectors (info : SpiFlashInfo) (m : Memory) (i : Nat) : Nat → Memory
  | 0 => m
  | n + 1 =>
    eraseSectors info
      (eraseSector info.mtdSize info.sectorSize m (i * info.sectorSize % 2 ^ 24)) (i + 1) n

/-- Byte `a` is in the sector that the chip erases for sector `j`. -/
def Hits (info : SpiFlashInfo) (j a : Nat) : Prop :=
  j * info.sectorSize % 2 ^ 24 < info.mtdSize ∧
    j * info.sectorSize % 2 ^ 24 / info.sectorSize * info.sectorSize ≤ a ∧
    a < j * info.sectorSize % 2 ^ 24 / info.sectorSize * info.sectorSize + info.sectorSize

instance (info : SpiFlashInfo) (j a : Nat) : Decidable (Hits info j a) :=
  inferInstanceAs (Decidable (_ ∧ _))

section Rows

variable {info : SpiFlashInfo} {a : Nat}

/-- Erasing one sector, byte by byte. -/
theorem eraseSector_hits (m : Memory) (j : Nat) :
    eraseSector info.mtdSize info.sectorSize m (j * info.sectorSize % 2 ^ 24) a =
      if Hits info j a then 0xFF else m a := by
  by_cases inside : j * info.sectorSize % 2 ^ 24 < info.mtdSize
  · rw [eraseSector, if_pos inside, memset]
    simp only [Hits, inside, true_and]
  · have missed : ¬ Hits info j a := fun hit => inside hit.1
    rw [eraseSector, if_neg inside, if_neg missed]

/-- A byte that no sector of the row hits is kept. -/
theorem eraseSectors_kept (m : Memory) (i n : Nat)
    (missed : ∀ j, i ≤ j → j < i + n → ¬ Hits info j a) : eraseSectors info m i n a = m a := by
  induction n generalizing m i with
  | zero => rfl
  | succ n ih =>
    rw [eraseSectors, ih, eraseSector_hits, if_neg (missed i (Nat.le_refl i) (by omega))]
    intro j above below
    exact missed j (by omega) (by omega)

/-- What is erased stays erased. -/
theorem eraseSectors_stays (m : Memory) (i n : Nat) (erased : m a = 0xFF) :
    eraseSectors info m i n a = 0xFF := by
  induction n generalizing m i with
  | zero => exact erased
  | succ n ih =>
    apply ih
    rw [eraseSector_hits, erased, ite_self]

/-- A byte that a sector of the row hits is erased. -/
theorem eraseSectors_erased (m : Memory) {i n j : Nat} (above : i ≤ j) (below : j < i + n)
    (hit : Hits info j a) : eraseSectors info m i n a = 0xFF := by
  induction n generalizing m i with
  | zero => omega
  | succ n ih =>
    rw [eraseSectors]
    by_cases here : i = j
    · apply eraseSectors_stays
      rw [eraseSector_hits, here, if_pos hit]
    · exact ih _ (by omega) (by omega)

/-- Below 16 MiB a sector is hit through its own address. -/
theorem hits_iff {j : Nat} (inside : j < info.sectors) (low : j * info.sectorSize < 2 ^ 24) :
    Hits info j a ↔ j * info.sectorSize ≤ a ∧ a < (j + 1) * info.sectorSize := by
  have size := Nat.mul_lt_mul_of_pos_right inside info.sectorSize_pos
  rw [Hits, mtdSize_eq, Nat.mod_eq_of_lt low, Nat.mul_div_cancel _ info.sectorSize_pos,
    Nat.succ_mul]
  exact and_iff_right size

/-- A sector that starts at 16 MiB or above is never hit. -/
theorem not_hits_high {j last : Nat} (high : 2 ^ 24 ≤ last * info.sectorSize) :
    ¬ Hits info j (last * info.sectorSize) := by
  rintro ⟨_, _, above⟩
  have seen : j * info.sectorSize % 2 ^ 24 < 2 ^ 24 := Nat.mod_lt _ (by decide)
  have before : j * info.sectorSize % 2 ^ 24 / info.sectorSize < last := by
    rw [Nat.div_lt_iff_lt_mul info.sectorSize_pos]
    omega
  have next := Nat.mul_le_mul_right info.sectorSize (Nat.succ_le_of_lt before)
  rw [Nat.succ_mul] at next
  omega

/-- The first byte of the device is in sector 0. -/
theorem hits_zero (two : 2 ≤ info.sectors) : Hits info 0 0 := by
  rw [hits_iff (by omega) (by rw [Nat.zero_mul]; decide), Nat.zero_mul, Nat.one_mul]
  exact ⟨Nat.le_refl 0, info.sectorSize_pos⟩

end Rows

/-! ## The erase loop -/

section Loop

variable {info : SpiFlashInfo} {chip : SerialFlash} {e i : Nat}

/-- One round: the chip is asked to erase sector `i`. -/
theorem eraseLoop_round (idle : chip.Idle) (below : i ≤ e) (inside : i < info.sectors)
    (rounds : Nat) :
    eraseLoop info e i chip (rounds + 1) =
      if chip.obeys 0 then
        eraseLoop info e (i + 1) (answered chip (eraseSector info.mtdSize info.sectorSize
          chip.contents (i * info.sectorSize % 2 ^ 24))) rounds
      else some (false, answered chip chip.contents) := by
  have fits := sectors_lt info
  have next : u32 (i + 1) = i + 1 := Nat.mod_eq_of_lt (by omega)
  have sector := u32_sector info (Nat.le_of_lt inside)
  have address : i * info.sectorSize ≤ info.mtdSize := by
    rw [mtdSize_eq]
    exact Nat.mul_le_mul_right _ (Nat.le_of_lt inside)
  rw [eraseLoop, if_pos below, sector]
  simp only [sectorErase_eq info idle address, next]
  cases chip.obeys 0 <;> rfl

/-- A loop that ends well has erased every sector up to the end. -/
theorem eraseLoop_contents (idle : chip.Idle) (inside : e < info.sectors) {rounds : Nat}
    {after : SerialFlash} (ended : eraseLoop info e i chip rounds = some (true, after)) :
    after.contents = eraseSectors info chip.contents i (e + 1 - i) := by
  induction rounds generalizing i chip with
  | zero => simp only [eraseLoop, reduceCtorEq] at ended
  | succ rounds ih =>
    by_cases below : i ≤ e
    · rw [eraseLoop_round idle below (by omega)] at ended
      rw [show e + 1 - i = e + 1 - (i + 1) + 1 by omega, eraseSectors]
      cases obeyed : chip.obeys 0 with
      | false =>
        rw [obeyed, if_neg Bool.false_ne_true] at ended
        simp only [Option.some.injEq, Prod.mk.injEq, Bool.false_eq_true, false_and] at ended
      | true =>
        rw [obeyed, if_pos rfl] at ended
        exact ih (answered_idle idle _) ended
    · rw [eraseLoop, if_neg below] at ended
      simp only [Option.some.injEq, Prod.mk.injEq, true_and] at ended
      rw [show e + 1 - i = 0 by omega, eraseSectors, ended]

/-- With a chip that obeys the loop ends well. -/
theorem eraseLoop_ends (idle : chip.Idle) (accepting : chip.Accepting) (inside : e < info.sectors) :
    ∃ rounds after, eraseLoop info e i chip rounds = some (true, after) := by
  generalize left : e + 1 - i = n
  induction n generalizing i chip with
  | zero =>
    refine ⟨1, chip, ?_⟩
    rw [eraseLoop, if_neg (by omega)]
  | succ n ih =>
    let erased := eraseSector info.mtdSize info.sectorSize chip.contents
      (i * info.sectorSize % 2 ^ 24)
    obtain ⟨rounds, after, ended⟩ := ih (i := i + 1) (answered_idle idle erased)
      (answered_accepting accepting erased) (by omega)
    refine ⟨rounds + 1, after, ?_⟩
    rw [eraseLoop_round idle (by omega) (by omega), accepting 0, if_pos rfl]
    exact ended

/-- A loop up to the largest `u32` never ends well: the index wraps before it gets past. -/
theorem eraseLoop_endless (small : i < 2 ^ 32) (rounds : Nat) (after : SerialFlash) :
    eraseLoop info (2 ^ 32 - 1) i chip rounds ≠ some (true, after) := by
  induction rounds generalizing i chip with
  | zero => simp only [eraseLoop, ne_eq, reduceCtorEq, not_false_eq_true]
  | succ rounds ih =>
    rw [eraseLoop, if_pos (by omega)]
    generalize sectorErase info (u32 (i * info.sectorSize)) chip = answer
    cases erased : answer.1 with
    | false => simp only [erased, Bool.false_eq_true, if_false, ne_eq, Option.some.injEq,
        Prod.mk.injEq, false_and, not_false_eq_true]
    | true =>
      simp only [erased, if_true]
      exact ih (Nat.mod_lt _ (by decide))

end Loop

/-! ## What a request has to do -/

/-- The request is made of whole sectors of the device. -/
def WholeSectors (info : SpiFlashInfo) (instr : EraseInfo) : Prop :=
  instr.addr % info.sectorSize = 0 ∧ instr.len % info.sectorSize = 0 ∧
    instr.addr + instr.len ≤ info.mtdSize

/-- The bytes of the request have become `0xFF` and all others are kept. -/
def ErasedExactly (info : SpiFlashInfo) (instr : EraseInfo) (before after : Memory) : Prop :=
  ∀ a, a < info.mtdSize →
    after a = if instr.addr ≤ a ∧ a < instr.addr + instr.len then 0xFF else before a

/-- A call that returns 0 has erased exactly the request, and a request of whole sectors is carried
out by a chip that obeys. -/
def ErasesExactly (info : SpiFlashInfo) (instr : EraseInfo) : Prop :=
  ∀ chip : SerialFlash, chip.Idle →
    (∀ rounds result, spiflashErase info instr chip rounds = some result → result.ret = 0 →
      ErasedExactly info instr chip.contents result.chip.contents) ∧
    (WholeSectors info instr → chip.Accepting →
      ∃ rounds result, spiflashErase info instr chip rounds = some result ∧ result.ret = 0)

/-- The request is refused, or it is not empty, ends before the last byte of the device and its
last sector has a 24-bit address, or it is empty and neither in the first sector nor in the last,
or it starts in the last sector or behind and its end wraps around to address 0, where the loop
does not end. -/
def EraseSafe (info : SpiFlashInfo) (instr : EraseInfo) : Prop :=
  eraseRefused info instr = true ∨
    (0 < instr.len ∧ instr.addr + instr.len < info.mtdSize ∧
      instr.addr + instr.len - info.sectorSize < 2 ^ 24) ∨
    (instr.len = 0 ∧ 0 < instr.addr ∧ instr.addr + info.sectorSize < info.mtdSize) ∨
    (instr.addr + instr.len = 2 ^ 32 ∧ info.mtdSize ≤ instr.addr + info.sectorSize)

/-- A chip that obeys, with the given contents. -/
def obedient (m : Memory) : SerialFlash := ⟨m, false, [], fun _ => true⟩

/-- It waits for a command. -/
theorem obedient_idle (m : Memory) : (obedient m).Idle := rfl

/-- It obeys every command. -/
theorem obedient_accepting (m : Memory) : (obedient m).Accepting := fun _ => rfl

section Requests

variable {info : SpiFlashInfo} {instr : EraseInfo}

/-- The sanity checks, as a condition on the request. -/
theorem eraseRefused_false_iff :
    eraseRefused info instr = false ↔
      u32 (instr.addr + instr.len) ≤ info.mtdSize ∧ instr.len % info.sectorSize = 0 ∧
        instr.addr % info.sectorSize = 0 := by
  rw [eraseRefused, show info.mtdErasesize = info.sectorSize from rfl]
  simp only [gt_iff_lt, Bool.or_self, Bool.or_eq_false_iff, decide_eq_false_iff_not, not_lt,
    bne_eq_false_iff_eq, and_assoc]

/-- A refused request is no request of whole sectors, and nothing happens. -/
theorem erasesExactly_of_refused (refused : eraseRefused info instr = true) :
    ErasesExactly info instr := by
  intro chip _
  have failed : -Kernel.einval ≠ 0 := by decide
  constructor
  · intro rounds result returned zero
    rw [spiflashErase, refused, if_pos rfl] at returned
    rw [← Option.some.inj returned] at zero
    exact absurd zero failed
  · intro whole
    have fits := info.size_lt
    have size := mtdSize_eq info
    have accepted : eraseRefused info instr = false := by
      rw [eraseRefused_false_iff]
      refine ⟨?_, whole.2.1, whole.1⟩
      rw [u32, Nat.mod_eq_of_lt] <;> have inside := whole.2.2 <;> omega
    rw [refused] at accepted
    exact absurd accepted (by decide)

variable (accepted : eraseRefused info instr = false)
include accepted

/-- Behind the sanity checks the result is the one of the loop. -/
theorem spiflashErase_some {chip : SerialFlash} {rounds : Nat} {result : EraseResult} :
    spiflashErase info instr chip rounds = some result ∧ result.ret = 0 ↔
      ∃ after, result = ⟨0, some .done, after⟩ ∧
        eraseLoop info (endSector info instr) (startSector info instr) chip rounds =
          some (true, after) := by
  rw [spiflashErase, accepted, if_neg Bool.false_ne_true]
  cases eraseLoop info (endSector info instr) (startSector info instr) chip rounds with
  | none => simp only [Option.map_none, reduceCtorEq, false_and, and_false, exists_false]
  | some ended =>
    have failed : eio ≠ 0 := by decide
    constructor
    · rintro ⟨returned, zero⟩
      cases complete : ended.1 with
      | false =>
        simp only [Option.map_some, complete, Bool.false_eq_true, if_false,
          Option.some.injEq] at returned
        rw [← returned] at zero
        exact absurd zero failed
      | true =>
        simp only [Option.map_some, complete, if_true, Option.some.injEq] at returned
        exact ⟨ended.2, returned.symm, by rw [← complete]⟩
    · rintro ⟨after, done, ending⟩
      rw [Option.some.inj ending, done]
      exact ⟨rfl, rfl⟩

/-- With an end inside the device the loop decides. -/
theorem erasesExactly_iff (inside : endSector info instr < info.sectors) :
    ErasesExactly info instr ↔ ∀ m, ErasedExactly info instr m (eraseSectors info m
      (startSector info instr) (endSector info instr + 1 - startSector info instr)) := by
  constructor
  · intro exact_ m
    have idle := obedient_idle m
    obtain ⟨rounds, after, ended⟩ :=
      eraseLoop_ends (i := startSector info instr) idle (obedient_accepting m) inside
    have returned := (spiflashErase_some accepted).mpr ⟨after, rfl, ended⟩
    have erased := (exact_ _ idle).1 rounds _ returned.1 returned.2
    rw [eraseLoop_contents idle inside ended] at erased
    exact erased
  · intro erased chip idle
    constructor
    · intro rounds result returned zero
      obtain ⟨after, done, ended⟩ := (spiflashErase_some accepted).mp ⟨returned, zero⟩
      rw [done, eraseLoop_contents idle inside ended]
      exact erased chip.contents
    · intro _ accepting
      obtain ⟨rounds, after, ended⟩ := eraseLoop_ends idle accepting inside
      exact ⟨rounds, _, (spiflashErase_some accepted).mpr ⟨after, rfl, ended⟩⟩

/-- With the largest `u32` as the end no call returns 0. -/
theorem erasesExactly_endless (small : startSector info instr < 2 ^ 32)
    (endless : endSector info instr = 2 ^ 32 - 1) :
    ErasesExactly info instr ↔ ¬ WholeSectors info instr := by
  have never : ∀ chip rounds result,
      ¬ (spiflashErase info instr chip rounds = some result ∧ result.ret = 0) := by
    intro chip rounds result returned
    obtain ⟨after, _, ended⟩ := (spiflashErase_some accepted).mp returned
    rw [endless] at ended
    exact eraseLoop_endless small rounds after ended
  constructor
  · intro exact_ whole
    have blank : Memory := fun _ => 0
    obtain ⟨rounds, result, returned⟩ :=
      (exact_ _ (obedient_idle blank)).2 whole (obedient_accepting blank)
    exact never _ rounds result returned
  · intro broken chip _
    refine ⟨fun rounds result returned zero => ?_, fun whole => absurd whole broken⟩
    exact absurd ⟨returned, zero⟩ (never chip rounds result)

end Requests

/-! ## Which requests are carried out exactly -/

section Rows

variable {info : SpiFlashInfo} {instr : EraseInfo} {a i j k n : Nat}

/-- A byte of the request that no sector of the row hits is not erased. -/
theorem not_erasedExactly_of_missed (inside : a < info.mtdSize)
    (asked : instr.addr ≤ a ∧ a < instr.addr + instr.len)
    (missed : ∀ j, i ≤ j → j < i + n → ¬ Hits info j a) :
    ¬ ∀ m, ErasedExactly info instr m (eraseSectors info m i n) := by
  intro erased
  have here := erased (fun _ => 0) a inside
  rw [eraseSectors_kept _ _ _ missed, if_pos asked] at here
  exact absurd here (by decide)

/-- A byte outside the request that a sector of the row hits is not kept. -/
theorem not_erasedExactly_of_hit (inside : a < info.mtdSize)
    (spared : ¬ (instr.addr ≤ a ∧ a < instr.addr + instr.len)) (above : i ≤ j) (below : j < i + n)
    (hit : Hits info j a) : ¬ ∀ m, ErasedExactly info instr m (eraseSectors info m i n) := by
  intro erased
  have here := erased (fun _ => 0) a inside
  rw [eraseSectors_erased _ above below hit, if_neg spared] at here
  exact absurd here (show (0xFF : UInt8) ≠ 0 by decide)

/-- The sectors of the request are its bytes, as long as the chip sees their addresses. -/
theorem erasedExactly_row (aligned : instr.addr = k * info.sectorSize)
    (whole : instr.len = n * info.sectorSize) (inside : k + n ≤ info.sectors)
    (low : ∀ j, j < k + n → j * info.sectorSize < 2 ^ 24) (m : Memory) :
    ErasedExactly info instr m (eraseSectors info m k n) := by
  intro a _
  rw [aligned, whole, ← Nat.add_mul]
  by_cases asked : k * info.sectorSize ≤ a ∧ a < (k + n) * info.sectorSize
  · have above : k ≤ a / info.sectorSize := (Nat.le_div_iff_mul_le info.sectorSize_pos).mpr asked.1
    have below : a / info.sectorSize < k + n :=
      (Nat.div_lt_iff_lt_mul info.sectorSize_pos).mpr asked.2
    have hit : Hits info (a / info.sectorSize) a := by
      rw [hits_iff (by omega) (low _ below)]
      have next := Nat.lt_mul_div_succ a info.sectorSize_pos
      rw [Nat.mul_comm] at next
      exact ⟨Nat.div_mul_le_self a _, next⟩
    rw [if_pos asked, eraseSectors_erased m above below hit]
  · rw [if_neg asked]
    apply eraseSectors_kept
    intro j above below hit
    rw [hits_iff (by omega) (low j below)] at hit
    have first := Nat.mul_le_mul_right info.sectorSize above
    have last : (j + 1) * info.sectorSize ≤ (k + n) * info.sectorSize :=
      Nat.mul_le_mul_right _ below
    omega

/-- The 24 bits of an address decide about a row that is not empty. -/
theorem erasedExactly_row_iff (aligned : instr.addr = k * info.sectorSize)
    (whole : instr.len = (n + 1) * info.sectorSize) (inside : k + (n + 1) ≤ info.sectors) :
    (∀ m, ErasedExactly info instr m (eraseSectors info m k (n + 1))) ↔
      (k + n) * info.sectorSize < 2 ^ 24 := by
  constructor
  · intro erased
    apply Classical.byContradiction
    intro high
    have positive := info.sectorSize_pos
    have within := Nat.mul_le_mul_right info.sectorSize inside
    rw [← Nat.add_assoc, Nat.succ_mul, ← mtdSize_eq] at within
    refine not_erasedExactly_of_missed (a := (k + n) * info.sectorSize) (by omega) ?_ ?_ erased
    · rw [aligned, whole, ← Nat.add_mul, ← Nat.add_assoc, Nat.succ_mul, Nat.add_mul]
      omega
    · intro j _ _
      exact not_hits_high (Nat.le_of_not_lt high)
  · intro low
    apply erasedExactly_row aligned whole inside
    intro j below
    have upTo : j * info.sectorSize ≤ (k + n) * info.sectorSize := Nat.mul_le_mul_right _ (by omega)
    omega

end Rows

section Cases

variable {info : SpiFlashInfo} {instr : EraseInfo} {k n : Nat}

/-- From sector 0 on the second loop ends inside the device, unless the request ends at 0. -/
theorem endSector_lt (two : 2 ≤ info.sectors) (first : startSector info instr = 0)
    (positive : 0 < u32 (instr.addr + instr.len)) : endSector info instr < info.sectors := by
  have fits := sectors_lt info
  have found := @searchSector_cases
    (fun i => decide (u32 (instr.addr + instr.len) > u32 (i * info.sectorSize))) 0 info.sectors
  rw [endSector, first, Nat.sub_zero]
  rcases found with none | ⟨j, below, stop, found⟩
  · rw [none]
    omega
  · cases j with
    | zero =>
      rw [Nat.zero_mul] at stop
      exact absurd positive (of_decide_eq_false stop)
    | succ j =>
      rw [found, u32Pred_succ (by omega)]
      omega

variable (aligned : instr.addr = k * info.sectorSize)
include aligned

/-- A request that ends in the sector before its first one, or before it, stops there. -/
theorem endSector_low (early : k + 1 < info.sectors)
    (low : u32 (instr.addr + instr.len) ≤ instr.addr) : endSector info instr = u32Pred k := by
  have first := startSector_early aligned early
  refine endSector_found (by omega) (by omega) (fun i above below => ?_) ?_
  · omega
  · omega

variable (accepted : eraseRefused info instr = false)
include accepted

/-- A request that starts in the last sector or behind it erases sector 0 instead, or wraps around
to address 0 and never succeeds. -/
theorem erasesExactly_late (two : 2 ≤ info.sectors) (late : ¬ k + 1 < info.sectors) :
    ErasesExactly info instr ↔ instr.addr + instr.len = 2 ^ 32 := by
  have positive := info.sectorSize_pos
  have fits := info.size_lt
  have size := mtdSize_eq info
  have first : startSector info instr = 0 := by rw [startSector_eq aligned, if_neg late]
  have behind : info.sectorSize ≤ instr.addr := by
    rw [aligned]
    exact Nat.le_mul_of_pos_left _ (by omega)
  have small := instr.addr_lt
  have short := instr.len_lt
  by_cases wrapped : instr.addr + instr.len = 2 ^ 32
  · have zero : u32 (instr.addr + instr.len) = 0 := by rw [wrapped]; decide
    have endless : endSector info instr = 2 ^ 32 - 1 := by
      rw [endSector_found (j := 0) (by omega) (by omega) (by omega) (by omega)]
      decide
    rw [erasesExactly_endless accepted (by omega) endless]
    exact iff_of_true (fun whole => absurd whole.2.2 (by omega)) wrapped
  · have ending : 0 < u32 (instr.addr + instr.len) := by
      rw [u32]
      omega
    refine iff_of_false ?_ wrapped
    rw [erasesExactly_iff accepted (endSector_lt two first ending), first]
    have one : info.sectorSize ≤ info.sectors * info.sectorSize :=
      Nat.le_mul_of_pos_left _ (by omega)
    exact not_erasedExactly_of_hit (a := 0) (j := 0) (by omega) (by omega) (Nat.le_refl 0)
      (by omega) (hits_zero two)

/-- An empty request before the last sector erases nothing, and loops in sector 0. -/
theorem erasesExactly_empty (early : k + 1 < info.sectors) (empty : instr.len = 0) :
    ErasesExactly info instr ↔ 0 < instr.addr := by
  have fits := sectors_lt info
  have first := startSector_early aligned early
  have same : u32 (instr.addr + instr.len) = instr.addr := by
    rw [empty]
    exact Nat.mod_eq_of_lt instr.addr_lt
  have last := endSector_low aligned early (Nat.le_of_eq same)
  cases k with
  | zero =>
    have zero : instr.addr = 0 := by rw [aligned, Nat.zero_mul]
    have whole : WholeSectors info instr := by
      rw [WholeSectors, zero, empty, Nat.zero_mod]
      exact ⟨rfl, rfl, Nat.zero_le _⟩
    rw [erasesExactly_endless accepted (by omega) last]
    exact iff_of_false (fun broken => broken whole) (by omega)
  | succ k =>
    rw [u32Pred_succ (by omega)] at last
    refine iff_of_true ?_ ?_
    · rw [erasesExactly_iff accepted (by omega), first, last, Nat.sub_self]
      intro m a _
      rw [eraseSectors, if_neg (by omega)]
    · rw [aligned]
      exact Nat.mul_pos (Nat.succ_pos k) info.sectorSize_pos

/-- A request that wraps around is taken for an empty one. -/
theorem not_erasesExactly_wrapped (early : k + 1 < info.sectors)
    (wrapped : 2 ^ 32 ≤ instr.addr + instr.len) : ¬ ErasesExactly info instr := by
  have fits := sectors_lt info
  have bound := info.size_lt
  have size := mtdSize_eq info
  have small := instr.addr_lt
  have short := instr.len_lt
  have first := startSector_early aligned early
  have low : u32 (instr.addr + instr.len) ≤ instr.addr := by
    rw [u32]
    omega
  have last := endSector_low aligned early low
  cases k with
  | zero =>
    rw [Nat.zero_mul] at aligned
    omega
  | succ k =>
    rw [u32Pred_succ (by omega)] at last
    have within := Nat.mul_lt_mul_of_pos_right (show k + 1 < info.sectors by omega)
      info.sectorSize_pos
    rw [erasesExactly_iff accepted (by omega), first, last, Nat.sub_self]
    exact not_erasedExactly_of_missed (a := instr.addr) (by omega) (by omega) fun j above below =>
      absurd below (by omega)

/-- A request that ends before the end of the device is carried out below 16 MiB. -/
theorem erasesExactly_middle (whole : instr.len = (n + 1) * info.sectorSize)
    (inside : k + (n + 1) < info.sectors) :
    ErasesExactly info instr ↔ (k + n) * info.sectorSize < 2 ^ 24 := by
  have fits := sectors_lt info
  have bound := info.size_lt
  have below := Nat.mul_lt_mul_of_pos_right inside info.sectorSize_pos
  have first := startSector_early aligned (by omega)
  have sum : u32 (instr.addr + instr.len) = (k + (n + 1)) * info.sectorSize := by
    rw [aligned, whole, ← Nat.add_mul]
    exact Nat.mod_eq_of_lt (by omega)
  have last : endSector info instr = k + n := by
    rw [endSector_found (by omega) inside _ (Nat.le_of_eq sum), ← Nat.add_assoc,
      u32Pred_succ (by omega)]
    intro i _ before
    rw [sum]
    exact Nat.mul_lt_mul_of_pos_right before info.sectorSize_pos
  rw [erasesExactly_iff accepted (by omega), first, last, show k + n + 1 - k = n + 1 by omega]
  exact erasedExactly_row_iff aligned whole (Nat.le_of_lt inside)

/-- A request that reaches the end of the device erases sector 0 or nothing. -/
theorem not_erasesExactly_end (whole : instr.len = n * info.sectorSize)
    (early : k + 1 < info.sectors) (reached : k + n = info.sectors) :
    ¬ ErasesExactly info instr := by
  have positive := info.sectorSize_pos
  have bound := info.size_lt
  have size := mtdSize_eq info
  have first := startSector_early aligned early
  have sum : instr.addr + instr.len = info.mtdSize := by
    rw [aligned, whole, ← Nat.add_mul, reached, size]
  have kept : u32 (instr.addr + instr.len) = info.mtdSize := by
    rw [sum]
    exact Nat.mod_eq_of_lt (by omega)
  have last : endSector info instr = 0 := by
    apply endSector_none (by omega)
    intro i _ below
    rw [kept, size]
    exact Nat.mul_lt_mul_of_pos_right below positive
  rw [erasesExactly_iff accepted (by omega), first, last]
  -- The first byte of the last sector: at most sector 0 is erased.
  obtain ⟨final, sectors⟩ : ∃ final, info.sectors = final + 1 := ⟨info.sectors - 1, by omega⟩
  have start : k * info.sectorSize ≤ final * info.sectorSize := Nat.mul_le_mul_right _ (by omega)
  have second : 1 * info.sectorSize ≤ final * info.sectorSize := Nat.mul_le_mul_right _ (by omega)
  rw [sectors, Nat.succ_mul] at size
  refine not_erasedExactly_of_missed (a := final * info.sectorSize) (by omega) (by omega) ?_
  intro j above below
  have zero : j = 0 := by omega
  rw [zero, hits_iff (by omega) (by rw [Nat.zero_mul]; decide)]
  omega

end Cases

/-- A call erases exactly what it is asked for if and only if the request is a safe one. -/
theorem spiflashErase_exact_iff (info : SpiFlashInfo) (two : 2 ≤ info.sectors)
    (instr : EraseInfo) : ErasesExactly info instr ↔ EraseSafe info instr := by
  cases refused : eraseRefused info instr with
  | true => exact iff_of_true (erasesExactly_of_refused refused) (Or.inl refused)
  | false =>
    obtain ⟨accepted, whole, aligned⟩ := eraseRefused_false_iff.mp refused
    obtain ⟨k, aligned⟩ := Nat.dvd_of_mod_eq_zero aligned
    obtain ⟨n, whole⟩ := Nat.dvd_of_mod_eq_zero whole
    rw [Nat.mul_comm] at aligned whole
    have positive := info.sectorSize_pos
    have bound := info.size_lt
    have size := mtdSize_eq info
    rw [EraseSafe, refused, eq_false Bool.false_ne_true, false_or]
    by_cases early : k + 1 < info.sectors
    · have within := Nat.mul_lt_mul_of_pos_right early positive
      rw [Nat.succ_mul] at within
      by_cases wrapped : 2 ^ 32 ≤ instr.addr + instr.len
      · refine iff_of_false (not_erasesExactly_wrapped aligned refused early wrapped) ?_
        rw [aligned] at wrapped ⊢
        omega
      · rw [u32, Nat.mod_eq_of_lt (by omega), size, aligned, whole, ← Nat.add_mul] at accepted
        have inside := Nat.le_of_mul_le_mul_right accepted positive
        cases n with
        | zero =>
          rw [Nat.zero_mul] at whole
          rw [erasesExactly_empty aligned refused early whole, aligned, whole]
          omega
        | succ n =>
          rw [Nat.add_mul] at accepted
          by_cases reached : k + (n + 1) = info.sectors
          · have sum : (k + (n + 1)) * info.sectorSize = info.mtdSize := by rw [reached, size]
            refine iff_of_false (not_erasesExactly_end aligned refused whole early reached) ?_
            rw [aligned, whole, ← Nat.add_mul, sum, Nat.succ_mul]
            omega
          · have before : k + (n + 1) < info.sectors := by omega
            have below := Nat.mul_lt_mul_of_pos_right before positive
            rw [erasesExactly_middle aligned refused whole before, aligned, whole, ← Nat.add_mul,
              ← Nat.add_assoc, Nat.succ_mul, Nat.succ_mul]
            rw [← Nat.add_assoc, Nat.succ_mul] at below
            omega
    · have late : info.sectors * info.sectorSize ≤ (k + 1) * info.sectorSize :=
        Nat.mul_le_mul_right _ (by omega)
      have some_ : instr.len = 0 ∨ info.sectorSize ≤ instr.len := by
        rw [whole]
        cases n with
        | zero => exact Or.inl (Nat.zero_mul _)
        | succ n => exact Or.inr (Nat.le_mul_of_pos_left _ (Nat.succ_pos n))
      rw [Nat.succ_mul] at late
      rw [erasesExactly_late aligned refused two early, aligned]
      omega

/-- Every device that the driver finds has several sectors. -/
theorem spiflashProbe_sectors {manufacturerId deviceId : Nat} {info : SpiFlashInfo}
    (found : spiflashProbe manufacturerId deviceId = some info) : 2 ≤ info.sectors := by
  unfold spiflashProbe at found
  split_ifs at found <;> rw [← Option.some.inj found] <;> decide

/-- The chips of 4 MiB. -/
def fourMiB : SpiFlashInfo := .ofSectors 64 16384 sectors32_le

/-- The driver finds one of them. -/
theorem fourMiB_found : spiflashProbe 0x20 0x2016 = some fourMiB := rfl

/-- The requests below are `u32`. -/
theorem lastSector_lt : 0x3F0000 < 2 ^ 32 := by decide

/-- A sector is shorter than the address space. -/
theorem sectorLen_lt : 0x10000 < 2 ^ 32 := by decide

/-- The request for the last sector. -/
def lastSector : EraseInfo := ⟨0x3F0000, 0x10000, lastSector_lt, sectorLen_lt⟩

/-- The request for the sector in front of it. -/
def sectorBefore : EraseInfo :=
  ⟨0x3F0000 - 0x10000, 0x10000, Nat.lt_of_le_of_lt (Nat.sub_le _ _) lastSector_lt, sectorLen_lt⟩

/-- The request for the sector before the last one is carried out. -/
theorem spiflashErase_sectorBefore : ErasesExactly fourMiB sectorBefore :=
  (spiflashErase_exact_iff fourMiB (spiflashProbe_sectors fourMiB_found) sectorBefore).mpr
    (Or.inr (Or.inl (by decide)))

/-- The request for the last sector returns 0, erases sector 0 and leaves the last one. -/
theorem spiflashErase_lastSector : ¬ ErasesExactly fourMiB lastSector := by
  have ran : (spiflashErase fourMiB lastSector (obedient fun _ => 0) 2).any (fun result =>
      decide (result.ret = 0 ∧ result.chip.contents 0 = 0xFF ∧
        result.chip.contents 0x3F0000 = 0)) = true := by decide +kernel
  obtain ⟨result, returned, facts⟩ := (Option.any_eq_true ..).mp ran
  have facts := of_decide_eq_true facts
  intro exact_
  have erased := (exact_ _ (obedient_idle _)).1 2 result returned facts.1 0x3F0000 (by decide)
  rw [facts.2.2, if_pos (by decide)] at erased
  exact absurd erased (by decide)

end Fvs318g.Verif.SpiFlash
