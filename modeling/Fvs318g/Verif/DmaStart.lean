import Mathlib.Tactic.IntervalCases
import Fvs318g.Verif.Dma
import Fvs318g.Verif.Hsdma

/-!
# What a started DMA job leaves to the next one

A start of a job writes the fields of its first descriptor over the registers that the jobs before
it have used. The general controller's start clears two bits of each width and both address
controls, and sets the rest on top of what is there; the high-speed controller's start clears
neither the transfer count nor, for a transfer to master 0, sets the direction. A start gives the
registers its own descriptor's fields exactly when nothing that it does not set was left.
-/

namespace Fvs318g.Verif.DmaStart

open Lib Lib.JobPool Arch Dma Hsdma

/-! ## The general controller -/

/-- The fields of a start of the general controller. -/
structure DmaFields where
  /-- The terminal-count mask. -/
  tcMask : BitVec 1
  /-- The width at the source. -/
  srcWidth : BitVec 3
  /-- The width at the destination. -/
  dstWidth : BitVec 3
  /-- The address control at the source. -/
  srcAddrCtl : BitVec 2
  /-- The address control at the destination. -/
  dstAddrCtl : BitVec 2
  /-- The master at the source. -/
  srcSel : BitVec 1
  /-- The master at the destination. -/
  dstSel : BitVec 1
  /-- The transfer count. -/
  totSize : BitVec 32
  deriving DecidableEq, Repr

/-- The fields in the control and the size register of a channel. -/
def channelFields (c : DmacChannel) : DmaFields where
  tcMask := c.csr.extractLsb' 31 1
  srcWidth := c.csr.extractLsb' 11 3
  dstWidth := c.csr.extractLsb' 8 3
  srcAddrCtl := c.csr.extractLsb' 5 2
  dstAddrCtl := c.csr.extractLsb' 3 2
  srcSel := c.csr.extractLsb' 2 1
  dstSel := c.csr.extractLsb' 1 1
  totSize := c.size

/-- The fields of a descriptor. -/
def descrFields (d : DmaLlpDescr) : DmaFields where
  tcMask := d.tcMask
  srcWidth := d.srcWidth
  dstWidth := d.dstWidth
  srcAddrCtl := d.srcAddrCtl
  dstAddrCtl := d.dstAddrCtl
  srcSel := d.srcSel
  dstSel := d.dstSel
  totSize := d.totSize.setWidth 32

/-- The bits of a control register that a start does not clear. -/
def csrKept : BitVec 32 := 0x7fffe487#32

/-- The bits of a control register that a start sets from a descriptor. -/
def descrBits (d : DmaLlpDescr) : BitVec 32 :=
  (d.tcMask.setWidth 32 <<< 31) |||
    ((d.srcWidth.setWidth 32 <<< 11) ||| (d.dstWidth.setWidth 32 <<< 8) |||
      (d.srcAddrCtl.setWidth 32 <<< 5) ||| (d.dstAddrCtl.setWidth 32 <<< 3) |||
      (d.srcSel.setWidth 32 <<< 2) ||| (d.dstSel.setWidth 32 <<< 1))

/-- One bit is clear or set. -/
theorem bit_cases (x : BitVec 1) : x = 0#1 ∨ x = 1#1 := by
  revert x
  decide

/-- A start clears some bits and sets those of the descriptor. -/
theorem dmaCsr_eq (csr : BitVec 32) (d : DmaLlpDescr) :
    dmaCsr csr d = (csr &&& csrKept) ||| descrBits d := by
  have masks (x : BitVec 32) :
      x &&& ~~~(0x3#32 <<< 11) &&& ~~~(0x3#32 <<< 8) &&& ~~~(0x3#32 <<< 5) &&&
        ~~~(0x3#32 <<< 3) = x &&& 0xffffe487#32 := by
    rw [BitVec.and_assoc, BitVec.and_assoc, BitVec.and_assoc]
    rfl
  simp only [dmaCsr, masks]
  rcases bit_cases d.tcMask with unmasked | masked
  · have zero : (0#1).setWidth 32 <<< 31 = 0#32 := by decide
    have kept : ~~~(1#32 <<< 31) &&& 0xffffe487#32 = csrKept := by decide
    rw [if_neg (by rw [unmasked]; decide), descrBits, unmasked, zero, BitVec.zero_or,
      BitVec.and_assoc, kept]
  · have one : (1#1).setWidth 32 <<< 31 = 1#32 <<< 31 := by decide
    have kept : 0xffffe487#32 = csrKept ||| 1#32 <<< 31 := by decide
    have whole : 1#32 <<< 31 &&& 0xffffe487#32 = 1#32 <<< 31 := by decide
    have absorbed : csr &&& 1#32 <<< 31 ||| 1#32 <<< 31 = 1#32 <<< 31 := by
      apply BitVec.eq_of_getLsbD_eq
      intro i _
      rw [BitVec.getLsbD_or, BitVec.getLsbD_and]
      cases csr.getLsbD i with
      | false => rfl
      | true => exact Bool.or_self _
    rw [if_pos (by rw [masked]; decide), descrBits, masked, one, BitVec.and_or_distrib_right,
      whole, kept, BitVec.and_or_distrib_left, BitVec.or_assoc (csr &&& csrKept), absorbed,
      BitVec.or_assoc]

/-- The fields that a channel with the bits of a descriptor has. -/
theorem channelFields_descrBits (d : DmaLlpDescr) (c : DmacChannel) :
    channelFields { c with csr := descrBits d, size := d.totSize.setWidth 32 } = descrFields d := by
  have bits {k : Nat} {x y : BitVec k} (same : ∀ i < k, x.getLsbD i = y.getLsbD i) : x = y :=
    BitVec.eq_of_getLsbD_eq same
  rw [channelFields, descrFields, DmaFields.mk.injEq]
  refine ⟨bits ?_, bits ?_, bits ?_, bits ?_, bits ?_, bits ?_, bits ?_, rfl⟩
  all_goals
    intro i inside
    interval_cases i <;> simp [descrBits]

/-- What a start leaves in the fields of the registers: those of the descriptor, with the bits that
were not cleared. -/
theorem channelFields_dmaProgram (d : DmaLlpDescr) (c : DmacChannel) :
    channelFields (dmaProgram d c) =
      { descrFields d with
        srcWidth := (c.csr.extractLsb' 11 3 &&& 0x4#3) ||| d.srcWidth
        dstWidth := (c.csr.extractLsb' 8 3 &&& 0x4#3) ||| d.dstWidth
        srcSel := c.csr.extractLsb' 2 1 ||| d.srcSel
        dstSel := c.csr.extractLsb' 1 1 ||| d.dstSel } := by
  have fields := channelFields_descrBits d c
  rw [channelFields, descrFields, DmaFields.mk.injEq] at fields
  obtain ⟨tcMask, srcWidth, dstWidth, srcAddrCtl, dstAddrCtl, srcSel, dstSel, _⟩ := fields
  have enabled (start len : Nat) (above : 1 ≤ start) :
      (dmaProgram d c).csr.extractLsb' start len =
        (c.csr.extractLsb' start len &&& csrKept.extractLsb' start len) |||
          (descrBits d).extractLsb' start len := by
    have bit : (0x1#32).extractLsb' start len = 0 := by
      apply BitVec.eq_of_getLsbD_eq
      intro i _
      have behind : ¬ start + i = 0 := by omega
      rw [BitVec.getLsbD_extractLsb', BitVec.getLsbD_one, decide_eq_false behind, Bool.and_false,
        Bool.and_false]
      exact BitVec.getLsbD_zero.symm
    have csr : (dmaProgram d c).csr = dmaCsr c.csr d ||| 0x1#32 := rfl
    rw [csr, dmaCsr_eq, BitVec.extractLsb'_or, BitVec.extractLsb'_or, BitVec.extractLsb'_and, bit]
    exact BitVec.or_zero
  have size : (dmaProgram d c).size = d.totSize.setWidth 32 := rfl
  rw [channelFields, descrFields, DmaFields.mk.injEq]
  refine ⟨?_, ?_, ?_, ?_, ?_, ?_, ?_, size⟩
  · rw [enabled 31 1 (by decide), tcMask]
    exact (congrArg (· ||| d.tcMask) (BitVec.and_zero)).trans BitVec.zero_or
  · rw [enabled 11 3 (by decide), srcWidth]
    rfl
  · rw [enabled 8 3 (by decide), dstWidth]
    rfl
  · rw [enabled 5 2 (by decide), srcAddrCtl]
    exact (congrArg (· ||| d.srcAddrCtl) (BitVec.and_zero)).trans BitVec.zero_or
  · rw [enabled 3 2 (by decide), dstAddrCtl]
    exact (congrArg (· ||| d.dstAddrCtl) (BitVec.and_zero)).trans BitVec.zero_or
  · rw [enabled 2 1 (by decide), srcSel]
    exact congrArg (· ||| d.srcSel) (BitVec.and_allOnes)
  · rw [enabled 1 1 (by decide), dstSel]
    exact congrArg (· ||| d.dstSel) (BitVec.and_allOnes)

/-- The bits of one word are among those of another. -/
theorem or_eq_right_iff {k : Nat} {x y : BitVec k} :
    x ||| y = y ↔ ∀ i < k, x.getLsbD i = true → y.getLsbD i = true := by
  constructor
  · intro absorbed i _ set
    rw [← absorbed, BitVec.getLsbD_or, set, Bool.true_or]
  · intro inside
    apply BitVec.eq_of_getLsbD_eq
    intro i below
    rw [BitVec.getLsbD_or]
    cases bit : x.getLsbD i with
    | false => rfl
    | true => rw [inside i below bit, Bool.or_self]

/-- A control register has no bit left that a start keeps and the descriptor does not set. -/
structure NothingLeft (csr : BitVec 32) (d : DmaLlpDescr) : Prop where
  /-- The third bit of the width at the source. -/
  srcWidth : csr.getLsbD 13 = true → d.srcWidth.getLsbD 2 = true
  /-- The third bit of the width at the destination. -/
  dstWidth : csr.getLsbD 10 = true → d.dstWidth.getLsbD 2 = true
  /-- The master at the source. -/
  srcSel : csr.getLsbD 2 = true → d.srcSel.getLsbD 0 = true
  /-- The master at the destination. -/
  dstSel : csr.getLsbD 1 = true → d.dstSel.getLsbD 0 = true

/-- A start gives a channel the fields of the descriptor exactly when nothing was left. -/
theorem dmaProgram_fields_iff (d : DmaLlpDescr) (c : DmacChannel) :
    channelFields (dmaProgram d c) = descrFields d ↔ NothingLeft c.csr d := by
  have width (start : Nat) (y : BitVec 3) :
      (c.csr.extractLsb' start 3 &&& 0x4#3) ||| y = y ↔
        (c.csr.getLsbD (start + 2) = true → y.getLsbD 2 = true) := by
    rw [or_eq_right_iff]
    constructor
    · intro inside set
      apply inside 2 (by decide)
      simp [set]
    · intro third i below set
      interval_cases i
      · simp at set
      · simp at set
      · apply third
        simpa using set
  have sel (start : Nat) (y : BitVec 1) :
      c.csr.extractLsb' start 1 ||| y = y ↔ (c.csr.getLsbD start = true → y.getLsbD 0 = true) := by
    rw [or_eq_right_iff]
    constructor
    · intro inside set
      apply inside 0 (by decide)
      simpa using set
    · intro first i below set
      interval_cases i
      apply first
      simpa using set
  rw [channelFields_dmaProgram, descrFields, DmaFields.mk.injEq, width 11, width 8, sel 2, sel 1]
  constructor
  · rintro ⟨_, srcWidth, dstWidth, _, _, srcSel, dstSel, _⟩
    exact ⟨srcWidth, dstWidth, srcSel, dstSel⟩
  · intro clean
    exact ⟨rfl, clean.srcWidth, clean.dstWidth, rfl, rfl, clean.srcSel, clean.dstSel, rfl⟩

/-- A channel that runs a job keeps it and its registers while others are started. -/
theorem dmaXferLoop_running (queue : List Nat) {w : DmaWorld} {i job : Nat}
    (runs : w.dmaRunningJob[i]? = some (some job)) :
    (dmaXferLoop w queue).dmaRunningJob[i]? = some (some job) ∧
      (dmaXferLoop w queue).channel i = w.channel i := by
  induction queue generalizing w with
  | nil => exact ⟨runs, rfl⟩
  | cons next rest later =>
    cases free : w.dmaRunningJob.findIdx? Option.isNone with
    | none =>
      simp only [dmaXferLoop, free]
      split
      · exact ⟨runs, rfl⟩
      · exact later runs
    | some j =>
      -- the channel that is taken was free, so it is another one
      have apart : j ≠ i := by
        intro same
        subst same
        obtain ⟨inside, empty, _⟩ := List.findIdx?_eq_some_iff_getElem.mp free
        rw [List.getElem?_eq_getElem inside] at runs
        rw [Option.some.inj runs] at empty
        exact absurd empty (by simp)
      have kept : (dmaStartJob w j next).dmaRunningJob[i]? = some (some job) :=
        (List.getElem?_set_ne apart).trans runs
      have untouched : (dmaStartJob w j next).channel i = w.channel i :=
        Function.update_of_ne apart.symm _ _
      simp only [dmaXferLoop, free]
      split
      · exact ⟨kept, untouched⟩
      · obtain ⟨still, registers⟩ := later kept
        exact ⟨still, registers.trans untouched⟩

/-- A channel that is free before the loop and runs a job after it was programmed once, with the
first descriptor of that job. -/
theorem dmaXferLoop_started (queue : List Nat) {w : DmaWorld} {i job : Nat}
    (free : w.dmaRunningJob[i]? = some none)
    (runs : (dmaXferLoop w queue).dmaRunningJob[i]? = some (some job)) :
    (dmaXferLoop w queue).channel i =
      dmaProgram ((w.llpDescr job).headD dmaNoDescr) (w.channel i) := by
  induction queue generalizing w with
  | nil =>
    rw [dmaXferLoop, free] at runs
    exact absurd runs (by simp)
  | cons next rest later =>
    cases found : w.dmaRunningJob.findIdx? Option.isNone with
    | none =>
      simp only [dmaXferLoop, found] at runs ⊢
      split at runs
      · rw [free] at runs
        exact absurd runs (by simp)
      · rename_i room
        rw [if_neg room]
        exact later free runs
    | some j =>
      simp only [dmaXferLoop, found] at runs ⊢
      by_cases here : j = i
      · have inside : i < w.dmaRunningJob.length := (List.getElem?_eq_some_iff.mp free).1
        have taken : (dmaStartJob w j next).dmaRunningJob[i]? = some (some next) := by
          rw [here]
          exact List.getElem?_set_self inside
        have programmed : (dmaStartJob w j next).channel i =
            dmaProgram ((w.llpDescr next).headD dmaNoDescr) (w.channel i) := by
          rw [here]
          exact Function.update_self ..
        have after := dmaXferLoop_running rest taken
        split at runs
        · rename_i full
          rw [if_pos full]
          have same := Option.some.inj (Option.some.inj (taken.symm.trans runs))
          rw [← same]
          exact programmed
        · rename_i room
          rw [if_neg room]
          have same := Option.some.inj (Option.some.inj (after.1.symm.trans runs))
          rw [← same]
          exact after.2.trans programmed
      · have still : (dmaStartJob w j next).dmaRunningJob[i]? = some none :=
          (List.getElem?_set_ne here).trans free
        have untouched : (dmaStartJob w j next).channel i = w.channel i :=
          Function.update_of_ne (Ne.symm here) _ _
        split at runs
        · rw [still] at runs
          exact absurd runs (by simp)
        · rename_i room
          rw [if_neg room, later still runs, untouched]
          rfl

/-- A history of the general driver that ends with the start of a job on channel `i`, in the step
from `w` to `w'`; the first descriptor of the job is `d`. -/
structure DmaStarted (d : DmaLlpDescr) (i : Nat) (w w' : DmaWorld) : Prop where
  /-- The history. -/
  reached : dmaSystem.Reachable (some w)
  /-- The transfer work is about to take the lock. -/
  checked : w.pool.worker = .checked
  /-- It goes over the transfer queue. -/
  stepped : dmaStep (some w) .work = some (some w')
  /-- The channel was free. -/
  free : w.dmaRunningJob[i]? = some none
  /-- The channel runs the job. -/
  runs : ∃ job, w'.dmaRunningJob[i]? = some (some job) ∧ (w.llpDescr job).head? = some d

/-- The transfer work once it has found the engine free. -/
def dmaWorked (w : DmaWorld) : DmaWorld :=
  (dmaXferLoop w w.pool.transfer).onPool fun pool => { pool with worker := .idle }

/-- The step of the transfer work. -/
theorem dmaStep_checked {w : DmaWorld} (checked : w.pool.worker = .checked) :
    dmaStep (some w) .work = some (some (dmaWorked w)) := by
  rw [dmaStep, dmaProcessXferJob, checked, dmaWorked]

/-- The channel is programmed with the descriptor. -/
theorem DmaStarted.channel {d : DmaLlpDescr} {i : Nat} {w w' : DmaWorld}
    (started : DmaStarted d i w w') : w'.channel i = dmaProgram d (w.channel i) := by
  obtain ⟨job, runs, first⟩ := started.runs
  have stepped := started.stepped
  rw [dmaStep_checked started.checked] at stepped
  have after := Option.some.inj (Option.some.inj stepped)
  rw [← after] at runs ⊢
  have programmed := dmaXferLoop_started w.pool.transfer started.free runs
  rw [List.headD_eq_head?_getD, first, Option.getD_some] at programmed
  exact programmed

/-! ## The high-speed controller -/

/-- The fields of a start of the high-speed controller. -/
structure HsdmaFields where
  /-- The transfer count. -/
  totSize : BitVec 16
  /-- The terminal-count mask. -/
  tcMask : BitVec 1
  /-- The direction between the masters. -/
  dataDirection : BitVec 1
  deriving DecidableEq, Repr

/-- The fields in the size register, at the places that they have in a descriptor. -/
def regsFields (r : HsdmacRegs) : HsdmaFields where
  totSize := r.totSize.extractLsb' 0 16
  tcMask := r.totSize.extractLsb' 28 1
  dataDirection := r.totSize.extractLsb' 29 1

/-- The fields of a descriptor. -/
def hsdmaDescrFields (d : HsdmaLlpDescr) : HsdmaFields where
  totSize := d.totSize
  tcMask := d.tcMask
  dataDirection := d.dataDirection

/-- A field of the size register after a start, out of the same field of what is written. -/
theorem extract_hsdmaProgram (d : HsdmaLlpDescr) (r : HsdmacRegs) (start len : Nat) :
    (hsdmaProgram d r).totSize.extractLsb' start len =
      let directed :=
        if d.dataDirection = hsdmacMaster0ToMaster1 then
          r.totSize.extractLsb' start len &&& (~~~(0x1#32 <<< 29)).extractLsb' start len
        else r.totSize.extractLsb' start len ||| (0x1#32 <<< 20).extractLsb' start len
      let sized := directed ||| (d.totSize.setWidth 32).extractLsb' start len
      if d.tcMask = 1 then sized ||| (0x1#32 <<< 28).extractLsb' start len
      else sized &&& (~~~(0x1#32 <<< 28)).extractLsb' start len := by
  simp only [hsdmaProgram]
  split
  · split
    · rw [BitVec.extractLsb'_or, BitVec.extractLsb'_or, BitVec.extractLsb'_and]
    · rw [BitVec.extractLsb'_or, BitVec.extractLsb'_or, BitVec.extractLsb'_or]
  · split
    · rw [BitVec.extractLsb'_and, BitVec.extractLsb'_or, BitVec.extractLsb'_and]
    · rw [BitVec.extractLsb'_and, BitVec.extractLsb'_or, BitVec.extractLsb'_or]

/-- What a start leaves in the fields of the size register. -/
theorem regsFields_hsdmaProgram (d : HsdmaLlpDescr) (r : HsdmacRegs) :
    regsFields (hsdmaProgram d r) =
      { totSize := r.totSize.extractLsb' 0 16 ||| d.totSize
        tcMask := d.tcMask
        dataDirection :=
          if d.dataDirection = hsdmacMaster0ToMaster1 then 0 else r.totSize.extractLsb' 29 1 } := by
  have low : (d.totSize.setWidth 32).extractLsb' 0 16 = d.totSize := by
    apply BitVec.eq_of_getLsbD_eq
    intro i inside
    have below : i < 32 := by omega
    simp [inside, below]
  have above (k : Nat) (far : 16 ≤ k) : (d.totSize.setWidth 32).extractLsb' k 1 = 0 := by
    apply BitVec.eq_of_getLsbD_eq
    intro i _
    simp [BitVec.getLsbD_of_ge d.totSize (k + i) (by omega)]
  rw [regsFields, HsdmaFields.mk.injEq, extract_hsdmaProgram, extract_hsdmaProgram,
    extract_hsdmaProgram, low, above 28 (by decide), above 29 (by decide)]
  have half (x : BitVec 16) : x &&& 65535#16 = x := BitVec.and_allOnes
  have kept (x : BitVec 1) : x &&& 1#1 = x := BitVec.and_allOnes
  have set (x : BitVec 1) : x ||| 1#1 = 1#1 := BitVec.or_allOnes
  rcases bit_cases d.dataDirection with there | back
  · rcases bit_cases d.tcMask with unmasked | masked
    · simp [there, unmasked, hsdmacMaster0ToMaster1, half]
    · simp [there, masked, hsdmacMaster0ToMaster1, half, set]
  · rcases bit_cases d.tcMask with unmasked | masked
    · simp [back, unmasked, hsdmacMaster0ToMaster1, half, kept]
    · simp [back, masked, hsdmacMaster0ToMaster1, set]

/-- The direction bit of the size register, where `hsdma_init` leaves it. -/
def DirectionClear (r : HsdmacRegs) : Prop := r.totSize.extractLsb' 29 1 = 0

/-- A start never sets the direction bit. -/
theorem DirectionClear.program {r : HsdmacRegs} (clear : DirectionClear r) (d : HsdmaLlpDescr) :
    DirectionClear (hsdmaProgram d r) := by
  have fields := regsFields_hsdmaProgram d r
  rw [regsFields, HsdmaFields.mk.injEq] at fields
  rw [DirectionClear, fields.2.2]
  split
  · rfl
  · exact clear

/-- A step starts a job, or leaves the size register. -/
theorem hsdmaStep_direction {w w' : HsdmaWorld} {e : HsdmaEvent} (clear : DirectionClear w.regs)
    (stepped : hsdmaStep (some w) e = some (some w')) : DirectionClear w'.regs := by
  cases e with
  | copy xfer =>
    obtain ⟨_, result⟩ := guarded_step stepped
    cases result
    unfold hsdmaCopy
    split
    · exact clear
    · exact clear
  | alloc xfer =>
    obtain ⟨_, result⟩ := guarded_step stepped
    cases result
    unfold hsdmaJobAlloc
    split
    · exact clear
    · exact clear
  | enqueue job xfer =>
    obtain ⟨_, result⟩ := guarded_step stepped
    cases result
    unfold hsdmaEnqueue
    split
    · exact clear
    · exact clear
  | testBusy xfer =>
    obtain ⟨_, result⟩ := guarded_step stepped
    cases result
    unfold hsdmaTestBusy
    split
    · exact clear
    · exact clear
  | release job | scheduleXfer xfer | runXfer | runDone =>
    obtain ⟨_, result⟩ := guarded_step stepped
    cases result
    exact clear
  | work =>
    rw [hsdmaStep] at stepped
    split at stepped
    · have started := Option.some.inj stepped
      unfold hsdmaProcessXferJob at started
      split at started
      · cases started
      · rw [← Option.some.inj started]
        exact clear.program _
    · rw [hsdmaProcessDoneJob, Option.map_eq_some_iff] at stepped
      obtain ⟨after, _, defined⟩ := stepped
      rw [Option.map_eq_some_iff] at defined
      obtain ⟨pool, _, result⟩ := defined
      rw [← result]
      exact clear
  | isr failed =>
    obtain ⟨_, result⟩ := guarded_step stepped
    unfold hsdmaIsr at result
    split at result
    · cases result
    · cases result
      exact clear

/-- The direction bit is clear in every reachable state. -/
theorem hsdma_direction {w : HsdmaWorld} (reached : hsdmaSystem.Reachable (some w)) :
    DirectionClear w.regs := by
  suffices held : ∀ w', some w = some w' → DirectionClear w'.regs from held w rfl
  refine reached.invariant (fun s start => ?_) (fun s e s' held stepped => ?_)
  · obtain ⟨w₀, same, fresh⟩ := start
    intro w' other
    rw [same] at other
    rw [← Option.some.inj other, DirectionClear, fresh.2.2.2.2.1]
    decide
  · intro w' after
    rw [after] at stepped
    cases s with
    | none => cases stepped
    | some before => exact hsdmaStep_direction (held before rfl) stepped

/-- A history of the high-speed driver that ends with the start of a job, in the step from `w` to
`w'`; the first descriptor of the job is `d`. -/
structure HsdmaStarted (d : HsdmaLlpDescr) (w w' : HsdmaWorld) : Prop where
  /-- The history. -/
  reached : hsdmaSystem.Reachable (some w)
  /-- The transfer work has begun. -/
  entered : w.pool.worker = .entered
  /-- It takes the first job of the transfer queue. -/
  stepped : hsdmaStep (some w) .work = some (some w')
  /-- The job. -/
  first : ∃ job, w.pool.transfer.head? = some job ∧ (w.llpDescr job).head? = some d

/-- The controller is programmed with the descriptor. -/
theorem HsdmaStarted.regs {d : HsdmaLlpDescr} {w w' : HsdmaWorld} (started : HsdmaStarted d w w') :
    w'.regs = hsdmaProgram d w.regs := by
  obtain ⟨job, queued, first⟩ := started.first
  have stepped := started.stepped
  rw [hsdmaStep, if_pos started.entered, hsdmaProcessXferJob_head queued] at stepped
  rw [← Option.some.inj (Option.some.inj stepped)]
  rw [List.headD_eq_head?_getD, first, Option.getD_some]

/-- A start from a reachable state gives the size register the fields of the descriptor exactly
when it goes to master 1 and the transfer count that was left is part of its own. -/
theorem HsdmaStarted.fields_iff {d : HsdmaLlpDescr} {w w' : HsdmaWorld}
    (started : HsdmaStarted d w w') :
    regsFields w'.regs = hsdmaDescrFields d ↔
      d.dataDirection = hsdmacMaster0ToMaster1 ∧
        ∀ i < 16, w.regs.totSize.getLsbD i = true → d.totSize.getLsbD i = true := by
  have clear : w.regs.totSize.extractLsb' 29 1 = 0 := hsdma_direction started.reached
  rw [started.regs, regsFields_hsdmaProgram, hsdmaDescrFields, HsdmaFields.mk.injEq, clear,
    ite_self, or_eq_right_iff]
  have low (i : Nat) (below : i < 16) :
      (w.regs.totSize.extractLsb' 0 16).getLsbD i = w.regs.totSize.getLsbD i := by
    rw [BitVec.getLsbD_extractLsb', Nat.zero_add, decide_eq_true below, Bool.true_and]
  constructor
  · rintro ⟨inside, _, direction⟩
    refine ⟨direction.symm, fun i below set => inside i below ?_⟩
    rw [low i below, set]
  · rintro ⟨direction, inside⟩
    refine ⟨fun i below set => inside i below ?_, rfl, direction.symm⟩
    rw [← low i below, set]

/-! ## Two histories -/

/-- Two values are the same and the one wanted when both are. -/
theorem same_and_eq_iff {α : Type} {first second wanted : α} {clean clean' : Prop}
    (left : first = wanted ↔ clean) (right : second = wanted ↔ clean') :
    first = second ∧ first = wanted ↔ clean ∧ clean' := by
  rw [← left, ← right]
  constructor
  · rintro ⟨same, good⟩
    exact ⟨good, same.symm.trans good⟩
  · rintro ⟨good, other⟩
    exact ⟨good.trans other.symm, good⟩

/-- The channel engine: a job is started alike whatever ran before, with the fields of its
descriptor, if and only if the register that is only added to had nothing left. -/
theorem dma_start_alone_iff {d : DmaLlpDescr} {i₁ i₂ : Nat} {w₁ w₁' w₂ w₂' : DmaWorld}
    (first : DmaStarted d i₁ w₁ w₁') (second : DmaStarted d i₂ w₂ w₂') :
    channelFields (w₁'.channel i₁) = channelFields (w₂'.channel i₂) ∧
        channelFields (w₁'.channel i₁) = descrFields d ↔
      NothingLeft (w₁.channel i₁).csr d ∧ NothingLeft (w₂.channel i₂).csr d := by
  rw [first.channel, second.channel]
  exact same_and_eq_iff (dmaProgram_fields_iff d _) (dmaProgram_fields_iff d _)

/-- The high-speed engine: the same, with its own register. -/
theorem hsdma_start_alone_iff {h : HsdmaLlpDescr} {v₁ v₁' v₂ v₂' : HsdmaWorld}
    (third : HsdmaStarted h v₁ v₁') (fourth : HsdmaStarted h v₂ v₂') :
    regsFields v₁'.regs = regsFields v₂'.regs ∧ regsFields v₁'.regs = hsdmaDescrFields h ↔
      (h.dataDirection = hsdmacMaster0ToMaster1 ∧
        ∀ i < 16, v₁.regs.totSize.getLsbD i = true → h.totSize.getLsbD i = true) ∧
      (h.dataDirection = hsdmacMaster0ToMaster1 ∧
        ∀ i < 16, v₂.regs.totSize.getLsbD i = true → h.totSize.getLsbD i = true) :=
  same_and_eq_iff third.fields_iff fourth.fields_iff

/-- A job is started in two histories of its engine with the same fields, those of its first
descriptor, exactly when neither history has left anything to it. -/
theorem start_alone_iff {d : DmaLlpDescr} {i₁ i₂ : Nat} {w₁ w₁' w₂ w₂' : DmaWorld}
    (first : DmaStarted d i₁ w₁ w₁') (second : DmaStarted d i₂ w₂ w₂')
    {h : HsdmaLlpDescr} {v₁ v₁' v₂ v₂' : HsdmaWorld}
    (third : HsdmaStarted h v₁ v₁') (fourth : HsdmaStarted h v₂ v₂') :
    (channelFields (w₁'.channel i₁) = channelFields (w₂'.channel i₂) ∧
        channelFields (w₁'.channel i₁) = descrFields d ↔
      NothingLeft (w₁.channel i₁).csr d ∧ NothingLeft (w₂.channel i₂).csr d) ∧
    (regsFields v₁'.regs = regsFields v₂'.regs ∧ regsFields v₁'.regs = hsdmaDescrFields h ↔
      (h.dataDirection = hsdmacMaster0ToMaster1 ∧
        ∀ i < 16, v₁.regs.totSize.getLsbD i = true → h.totSize.getLsbD i = true) ∧
      (h.dataDirection = hsdmacMaster0ToMaster1 ∧
        ∀ i < 16, v₂.regs.totSize.getLsbD i = true → h.totSize.getLsbD i = true)) := by
  constructor
  · exact dma_start_alone_iff first second
  · exact hsdma_start_alone_iff third fourth

/-- Where a run ends, when it ends in a defined state. -/
def ranTo {σ ε : Type} (sys : System (Option σ) ε) (start : σ) (es : List ε) : σ :=
  ((sys.run (some start) es).bind id).getD start

/-- The end of a run is reachable. -/
theorem ranTo_reachable {σ ε : Type} {sys : System (Option σ) ε} {start : σ} {es : List ε}
    (begins : sys.init (some start)) (ends : ((sys.run (some start) es).bind id).isSome = true) :
    sys.Reachable (some (ranTo sys start es)) := by
  obtain ⟨w, defined⟩ := Option.isSome_iff_exists.mp ends
  have ran : sys.run (some start) es = some (some w) := by
    obtain ⟨s, ran, same⟩ := Option.bind_eq_some_iff.mp defined
    rw [ran]
    exact congrArg some same
  rw [ranTo, defined, Option.getD_some]
  exact System.reachable_of_run (.init begins) ran

/-- The driver after `dma_init`, with `DEFAULT_DMA_CH_CTL` in the channels. -/
def dmaReset : DmaWorld :=
  { dmaFresh with channel := fun _ => ⟨0x1ec60000, 0, 0, 0, 0, false, false⟩ }

/-- It is an initial state. -/
theorem dmaReset_init : dmaSystem.init (some dmaReset) :=
  ⟨dmaReset, rfl, rfl, rfl, rfl, rfl, fun _ => ⟨by simp [dmaReset], rfl, rfl⟩⟩

/-- A copy of sixteen bytes from master 0 to master 0. -/
def dmaMaster0Copy (id : Nat) : DmaXfer := ⟨id, [⟨0xC0001000, 0xC0002000, 16, 0, 0, 0, 0, 2, 2⟩]⟩

/-- The descriptor of the copy. -/
def dmaMaster0Descr : DmaLlpDescr := ⟨0x1000, 0x2000, 0, 4, 0, 0, 0, 0, 2, 2, 0⟩

/-- A whole call, and the transfer work up to its look at `dma_busy`. -/
def dmaCall (job : Nat) (xfer : DmaXfer) : List DmaEvent :=
  [.copy xfer, .alloc xfer, .enqueue job xfer, .testBusy xfer, .scheduleXfer xfer, .runXfer, .work]

/-- An earlier job runs on channel 0 to its end. -/
def dmaEarlier (xfer : DmaXfer) : List DmaEvent := dmaCall 0 xfer ++ [.work, .raise 0 true, .tcIsr]

/-- A call starts its job on channel 0 after a run. -/
theorem dmaStarted_ranTo {es : List DmaEvent} (job : Nat) {d : DmaLlpDescr}
    (ends : ((dmaSystem.run (some dmaReset) es).bind id).isSome = true)
    (checked : (ranTo dmaSystem dmaReset es).pool.worker = .checked)
    (free : (ranTo dmaSystem dmaReset es).dmaRunningJob[0]? = some none)
    (runs : (dmaWorked (ranTo dmaSystem dmaReset es)).dmaRunningJob[0]? = some (some job))
    (first : ((ranTo dmaSystem dmaReset es).llpDescr job).head? = some d) :
    DmaStarted d 0 (ranTo dmaSystem dmaReset es) (dmaWorked (ranTo dmaSystem dmaReset es)) :=
  ⟨ranTo_reachable dmaReset_init ends, checked, dmaStep_checked checked, free, job, runs, first⟩

/-- A call of the high-speed driver, up to the transfer work. -/
def hsdmaCall (job id : Nat) : List HsdmaEvent := hsdmaQueue job id ++ hsdmaWake id ++ [.runXfer]

/-- The first job of the queue is started after a run. -/
theorem hsdmaStarted_ranTo {es : List HsdmaEvent} (job : Nat) {d : HsdmaLlpDescr}
    (ends : ((hsdmaSystem.run (some hsdmaFresh) es).bind id).isSome = true)
    (entered : (ranTo hsdmaSystem hsdmaFresh es).pool.worker = .entered)
    (queued : (ranTo hsdmaSystem hsdmaFresh es).pool.transfer.head? = some job)
    (first : ((ranTo hsdmaSystem hsdmaFresh es).llpDescr job).head? = some d) :
    ∃ w', HsdmaStarted d (ranTo hsdmaSystem hsdmaFresh es) w' := by
  have stepped := hsdmaProcessXferJob_head queued
  exact ⟨_, ranTo_reachable hsdmaFresh_init ends, entered,
    (if_pos entered).trans (congrArg some stepped), job, queued, first⟩

/-- The copy is started after none. -/
def dmaFirst : DmaWorld := ranTo dmaSystem dmaReset (dmaCall 0 (dmaMaster0Copy 1))

/-- The copy is started after one of its own kind. -/
def dmaSecond : DmaWorld :=
  ranTo dmaSystem dmaReset (dmaEarlier (dmaMaster0Copy 0) ++ dmaCall 1 (dmaMaster0Copy 1))

/-- The high-speed copy is started after none. -/
def hsdmaFirst : HsdmaWorld := ranTo hsdmaSystem hsdmaFresh (hsdmaCall 0 1)

/-- The high-speed copy is started after one of its own kind. -/
def hsdmaSecond : HsdmaWorld :=
  ranTo hsdmaSystem hsdmaFresh (hsdmaCall 0 0 ++ [.work, .isr false] ++ hsdmaCall 1 1)

/-- A copy is started alike after none and after one of its own kind, by both engines. -/
theorem start_alone_again :
    channelFields ((dmaWorked dmaFirst).channel 0) =
        channelFields ((dmaWorked dmaSecond).channel 0) ∧
      ∃ v₁ v₂, HsdmaStarted ⟨0x1000, 0x2000, 0, 4, 0, 0⟩ hsdmaFirst v₁ ∧
        HsdmaStarted ⟨0x1000, 0x2000, 0, 4, 0, 0⟩ hsdmaSecond v₂ ∧
        regsFields v₁.regs = regsFields v₂.regs := by
  have first : DmaStarted dmaMaster0Descr 0 dmaFirst (dmaWorked dmaFirst) :=
    dmaStarted_ranTo 0 (by decide) (by decide) (by decide) (by decide) (by decide)
  have second : DmaStarted dmaMaster0Descr 0 dmaSecond (dmaWorked dmaSecond) :=
    dmaStarted_ranTo 1 (by decide) (by decide) (by decide) (by decide) (by decide)
  obtain ⟨v₁, third⟩ : ∃ v₁, HsdmaStarted ⟨0x1000, 0x2000, 0, 4, 0, 0⟩ hsdmaFirst v₁ :=
    hsdmaStarted_ranTo 0 (by decide) (by decide) (by decide) (by decide)
  obtain ⟨v₂, fourth⟩ : ∃ v₂, HsdmaStarted ⟨0x1000, 0x2000, 0, 4, 0, 0⟩ hsdmaSecond v₂ :=
    hsdmaStarted_ranTo 1 (by decide) (by decide) (by decide) (by decide)
  obtain ⟨general, fast⟩ := start_alone_iff first second third fourth
  have clean : NothingLeft (dmaFirst.channel 0).csr dmaMaster0Descr :=
    ⟨by decide, by decide, by decide, by decide⟩
  have clean' : NothingLeft (dmaSecond.channel 0).csr dmaMaster0Descr :=
    ⟨by decide, by decide, by decide, by decide⟩
  refine ⟨(general.mpr ⟨clean, clean'⟩).1, v₁, v₂, third, fourth, (fast.mpr ⟨?_, ?_⟩).1⟩
  · exact ⟨rfl, by decide⟩
  · exact ⟨rfl, by decide⟩

/-- The copy is started on the channel of an earlier one from master 1, and after none. -/
theorem dma_start_second_master :
    ((dmaSystem.run (some dmaReset) (dmaCall 0 (dmaMaster0Copy 1) ++ [.work])).map fun s =>
        s.map fun w => (channelFields (w.channel 0)).srcSel) = some (some 0) ∧
      ((dmaSystem.run (some dmaReset)
          (dmaEarlier (dmaSmallCopy 0) ++ dmaCall 1 (dmaMaster0Copy 1) ++ [.work])).map fun s =>
        s.map fun w => (channelFields (w.channel 0)).srcSel) = some (some 1) := by
  decide

end Fvs318g.Verif.DmaStart
