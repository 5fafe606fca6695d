import Fvs318g.Verif.Dma

/-!
# What the descriptors of the general DMA driver say

`dma_copy` copies a request into a chain of descriptors, and the chain stays as it is until the
request is called back. The descriptors have fields of one to twelve bits where the vectors have
bytes and words, and the address controls are filled from the master selections; a chain says
what the request asks for exactly when every vector fits.
-/

namespace Fvs318g.Verif.DmaDescr

open Lib Lib.JobPool Kernel Arch Dma

/-- The bytes of a unit: `DMAC_CH_SRC_WIDTH_8BIT`, `DMAC_CH_SRC_WIDTH_16BIT` and
`DMAC_CH_SRC_WIDTH_32BIT`. -/
def widthBytes (width : BitVec 8) : Option Nat :=
  if width = 0 then some 1 else if width = 1 then some 2 else if width = 2 then some 4 else none

/-- A descriptor says what a vector asks for. -/
structure DescrTells (descr : DmaLlpDescr) (vec : DmaVec) : Prop where
  /-- The physical source address. -/
  srcAddr : descr.srcAddr = BitVec.ofNat 32 (virtToPhys vec.srcAddr.toNat)
  /-- The physical destination address. -/
  dstAddr : descr.dstAddr = BitVec.ofNat 32 (virtToPhys vec.dstAddr.toNat)
  /-- The master at the destination. -/
  dstSel : descr.dstSel.setWidth 8 = vec.dstSel
  /-- The master at the source. -/
  srcSel : descr.srcSel.setWidth 8 = vec.srcSel
  /-- The address control at the destination. -/
  dstAddrCtl : descr.dstAddrCtl.setWidth 8 = vec.dstAddrCtl
  /-- The address control at the source. -/
  srcAddrCtl : descr.srcAddrCtl.setWidth 8 = vec.srcAddrCtl
  /-- The width at the destination. -/
  dstWidth : descr.dstWidth.setWidth 8 = vec.dstWidth
  /-- The width at the source. -/
  srcWidth : descr.srcWidth.setWidth 8 = vec.srcWidth
  /-- The transfer count in units of the source width. -/
  size : ∃ bytes, widthBytes vec.srcWidth = some bytes ∧
    descr.totSize.toNat * bytes = vec.size.toNat

/-- The link and the mask of descriptor `i` out of `nrVec`. -/
def Linked (llpDescrDma nrVec i : Nat) (descr : DmaLlpDescr) : Prop :=
  if i + 1 = nrVec then descr.llp = 0 ∧ descr.tcMask = 0
  else descr.llp = BitVec.ofNat 32 (llpDescrDma + (i + 1) * dmaLlpDescrSize) ∧ descr.tcMask = 1

/-- A chain at an address says what a request asks for. -/
structure ChainTells (llpDescrDma : Nat) (xfer : DmaXfer) (chain : List DmaLlpDescr) : Prop where
  /-- There is one descriptor for each vector. -/
  length : chain.length = xfer.vec.length
  /-- The descriptors are linked in order, and only the last one is unmasked. -/
  linked : ∀ (i : Nat) descr, chain[i]? = some descr → Linked llpDescrDma xfer.vec.length i descr
  /-- Each descriptor says what its vector asks for. -/
  tells : ∀ (i : Nat) descr vec, chain[i]? = some descr → xfer.vec[i]? = some vec →
    DescrTells descr vec

/-- A vector that its descriptor can say. -/
structure VecFits (vec : DmaVec) : Prop where
  /-- A selection is one bit. -/
  dstSel : vec.dstSel.toNat < 2 ^ 1
  /-- A selection is one bit. -/
  srcSel : vec.srcSel.toNat < 2 ^ 1
  /-- The address control that is asked for is the one the selection stands for. -/
  dstAddrCtl : vec.dstAddrCtl = vec.dstSel
  /-- The address control that is asked for is the one the selection stands for. -/
  srcAddrCtl : vec.srcAddrCtl = vec.srcSel
  /-- A width is three bits. -/
  dstWidth : vec.dstWidth.toNat < 2 ^ 3
  /-- The source width is one of the header. -/
  srcWidth : vec.srcWidth.toNat < 3
  /-- The size is a number of units. -/
  whole : vec.size.toNat % 2 ^ dmaSizeShift vec.srcWidth = 0
  /-- The number of units is twelve bits. -/
  short : vec.size.toNat / 2 ^ dmaSizeShift vec.srcWidth < 2 ^ 12

/-! ## One descriptor -/

/-- A byte is kept by a field of `k` bits when it is that short. -/
theorem setWidth_setWidth_iff {k : Nat} (x : BitVec 8) :
    (x.setWidth k).setWidth 8 = x ↔ x.toNat < 2 ^ k := by
  rw [← BitVec.toNat_inj, BitVec.toNat_setWidth, BitVec.toNat_setWidth]
  have below : x.toNat % 2 ^ k < 2 ^ 8 := Nat.lt_of_le_of_lt (Nat.mod_le _ _) x.isLt
  rw [Nat.mod_eq_of_lt below]
  exact Nat.mod_eq_iff_lt (Nat.two_pow_pos k).ne'

/-- A width of the header is the shift of its units. -/
theorem widthBytes_eq_some_iff (width : BitVec 8) (bytes : Nat) :
    widthBytes width = some bytes ↔ width.toNat < 3 ∧ bytes = 2 ^ dmaSizeShift width := by
  have cases3 : width.toNat < 3 ↔ width = 0 ∨ width = 1 ∨ width = 2 := by
    simp only [← BitVec.toNat_inj, BitVec.ofNat_eq_ofNat, BitVec.toNat_ofNat]
    omega
  rw [cases3]
  unfold widthBytes dmaSizeShift
  split
  · rename_i byte
    simp [byte, eq_comm]
  · split
    · rename_i half
      simp [half, eq_comm]
    · split
      · rename_i word
        simp [word, eq_comm]
      · rename_i notByte notHalf notWord
        refine iff_of_false (by simp) ?_
        rintro ⟨byte | half | word, _⟩
        · exact notByte byte
        · exact notHalf half
        · exact notWord word

/-- The count of units of a size is exact for a whole number of at most twelve bits. -/
theorem totSize_iff (size : BitVec 32) (shift : Nat) :
    ((size >>> shift).setWidth 12).toNat * 2 ^ shift = size.toNat ↔
      size.toNat % 2 ^ shift = 0 ∧ size.toNat / 2 ^ shift < 2 ^ 12 := by
  rw [BitVec.toNat_setWidth, BitVec.toNat_ushiftRight, Nat.shiftRight_eq_div_pow]
  have split := Nat.div_add_mod' size.toNat (2 ^ shift)
  have positive := Nat.two_pow_pos shift
  constructor
  · intro exact_
    have kept : size.toNat / 2 ^ shift % 2 ^ 12 = size.toNat / 2 ^ shift := by
      apply Nat.le_antisymm (Nat.mod_le _ _)
      rw [Nat.div_le_iff_le_mul_add_pred positive]
      rw [Nat.mul_comm] at exact_
      omega
    rw [kept] at exact_
    exact ⟨by omega, (Nat.mod_eq_iff_lt (by decide)).mp kept⟩
  · rintro ⟨whole, short⟩
    rw [Nat.mod_eq_of_lt short]
    omega

/-- A descriptor says what its vector asks for exactly when the vector fits. -/
theorem descrTells_iff (llpDescrDma nrVec i : Nat) (vec : DmaVec) :
    DescrTells (dmaLlpDescr llpDescrDma nrVec i vec) vec ↔ VecFits vec := by
  constructor
  · intro told
    have dstSel := (setWidth_setWidth_iff vec.dstSel).mp told.dstSel
    have srcSel := (setWidth_setWidth_iff vec.srcSel).mp told.srcSel
    have wide {sel : BitVec 8} (short : sel.toNat < 2 ^ 1) : (sel.setWidth 2).setWidth 8 = sel :=
      (setWidth_setWidth_iff sel).mpr (Nat.lt_trans short (by decide))
    obtain ⟨bytes, width, size⟩ := told.size
    obtain ⟨known, shift⟩ := (widthBytes_eq_some_iff _ _).mp width
    rw [shift] at size
    have fits := (totSize_iff vec.size _).mp size
    exact ⟨dstSel, srcSel, told.dstAddrCtl.symm.trans (wide dstSel),
      told.srcAddrCtl.symm.trans (wide srcSel),
      (setWidth_setWidth_iff _).mp told.dstWidth, known, fits.1, fits.2⟩
  · intro fits
    have sel {x : BitVec 8} {k : Nat} (wide : 1 ≤ k) (short : x.toNat < 2 ^ 1) :
        (x.setWidth k).setWidth 8 = x :=
      (setWidth_setWidth_iff x).mpr
        (Nat.lt_of_lt_of_le short (Nat.pow_le_pow_right (by decide) wide))
    have dstSel := fits.dstSel
    have srcSel := fits.srcSel
    refine ⟨rfl, rfl, sel (by decide) dstSel, sel (by decide) srcSel, ?_, ?_, ?_, ?_, ?_⟩
    · rw [fits.dstAddrCtl]
      exact sel (by decide) dstSel
    · rw [fits.srcAddrCtl]
      exact sel (by decide) srcSel
    · exact (setWidth_setWidth_iff _).mpr fits.dstWidth
    · exact (setWidth_setWidth_iff _).mpr (Nat.lt_trans fits.srcWidth (by decide))
    · refine ⟨2 ^ dmaSizeShift vec.srcWidth, ?_, ?_⟩
      · exact (widthBytes_eq_some_iff _ _).mpr ⟨fits.srcWidth, rfl⟩
      · exact (totSize_iff _ _).mpr ⟨fits.whole, fits.short⟩

/-! ## The chain of a request -/

/-- The filled chain is linked, and tells what the request asks for exactly when all of its vectors
fit. -/
theorem chainTells_iff (llpDescrDma : Nat) (xfer : DmaXfer) :
    ChainTells llpDescrDma xfer (dmaLlpChain llpDescrDma xfer) ↔ ∀ vec ∈ xfer.vec, VecFits vec := by
  have entry (i : Nat) : (dmaLlpChain llpDescrDma xfer)[i]? =
      xfer.vec[i]?.map (dmaLlpDescr llpDescrDma xfer.vec.length i) := List.getElem?_mapIdx
  constructor
  · intro told vec member
    obtain ⟨i, found⟩ := List.getElem?_of_mem member
    have descr := entry i
    rw [found, Option.map_some] at descr
    exact (descrTells_iff _ _ _ vec).mp (told.tells i _ vec descr found)
  · intro fits
    refine ⟨List.length_mapIdx, ?_, ?_⟩
    · intro i descr found
      rw [entry, Option.map_eq_some_iff] at found
      obtain ⟨vec, inside, same⟩ := found
      have below := (List.getElem?_eq_some_iff.mp inside).1
      have last : i + 1 = xfer.vec.length ↔ i = xfer.vec.length - 1 := by omega
      rw [Linked, ← same]
      simp only [last, dmaLlpDescr]
      split
      · exact ⟨rfl, rfl⟩
      · exact ⟨rfl, rfl⟩
    · intro i descr vec found inside
      rw [entry, inside, Option.map_some] at found
      rw [← Option.some.inj found]
      exact (descrTells_iff _ _ _ vec).mpr (fits vec (List.mem_of_getElem? inside))

/-! ## The chains along a run -/

/-- A record with a request has the chain of that request. -/
def Chained (w : DmaWorld) : Prop :=
  ∀ job xfer, w.pool.owner job = some xfer →
    w.llpDescr job = dmaLlpChain (dmaLlpDescrDma w job) xfer

/-- Nothing that the chains depend on changes. -/
structure ChainFrame (w w' : DmaWorld) : Prop where
  /-- The memory of the chains. -/
  dmaMemPoolDma : w'.dmaMemPoolDma = w.dmaMemPoolDma
  /-- The requests of the records. -/
  owner : w'.pool.owner = w.pool.owner
  /-- The chains. -/
  llpDescr : w'.llpDescr = w.llpDescr

/-- Frames compose. -/
theorem ChainFrame.trans {w w' w'' : DmaWorld} (first : ChainFrame w w')
    (second : ChainFrame w' w'') : ChainFrame w w'' :=
  ⟨second.dmaMemPoolDma.trans first.dmaMemPoolDma, second.owner.trans first.owner,
    second.llpDescr.trans first.llpDescr⟩

/-- A frame keeps the chains. -/
theorem Chained.frame {w w' : DmaWorld} (held : Chained w) (frame : ChainFrame w w') :
    Chained w' := by
  intro job xfer owner
  rw [frame.owner] at owner
  rw [frame.llpDescr, dmaLlpDescrDma, frame.dmaMemPoolDma]
  exact held job xfer owner

/-- A call gives its record the chain of its request. -/
theorem Chained.enqueue {w : DmaWorld} (held : Chained w) (job : Nat) (xfer : DmaXfer) :
    Chained (dmaEnqueue w job xfer) := by
  intro other asked owner
  by_cases same : other = job
  · have stored : (Function.update w.pool.owner job (some xfer)) job = some asked := same ▸ owner
    rw [Function.update_self] at stored
    rw [same, ← Option.some.inj stored]
    exact Function.update_self ..
  · have before : w.pool.owner other = some asked := by
      rw [← Function.update_of_ne same (some xfer) w.pool.owner]
      exact owner
    have kept : (dmaEnqueue w job xfer).llpDescr other = w.llpDescr other :=
      Function.update_of_ne same _ _
    rw [kept]
    exact held other asked before

/-- The loop over the transfer queue starts jobs with the chains they have. -/
theorem dmaXferLoop_frame (queue : List Nat) (w : DmaWorld) :
    ChainFrame w (dmaXferLoop w queue) := by
  induction queue generalizing w with
  | nil => exact ⟨rfl, rfl, rfl⟩
  | cons job rest later =>
    cases free : w.dmaRunningJob.findIdx? Option.isNone with
    | none =>
      simp only [dmaXferLoop, free]
      split
      · exact ⟨rfl, rfl, rfl⟩
      · exact later w
    | some i =>
      have started : ChainFrame w (dmaStartJob w i job) := ⟨rfl, rfl, rfl⟩
      simp only [dmaXferLoop, free]
      split
      · exact started.trans ⟨rfl, rfl, rfl⟩
      · exact started.trans (later _)

/-- An interrupt handler moves a job with the chain it has. -/
theorem dmaIsr_frame (w : DmaWorld) (status : DmacChannel → Bool)
    (clear : DmacChannel → DmacChannel) (result : Int) :
    ChainFrame w (dmaIsr status clear result w) := by
  unfold dmaIsr
  split
  · exact ⟨rfl, rfl, rfl⟩
  · rename_i i _
    simp only
    split
    · exact ⟨rfl, rfl, rfl⟩
    · rename_i job _
      exact ⟨rfl, (complete_frame w.pool job result).2.2.2, rfl⟩

/-- A step of the worker leaves the chains. -/
theorem dmaWork_frame {w w' : DmaWorld} (sound : DmaSound w)
    (stepped : dmaStep (some w) .work = some (some w')) : ChainFrame w w' := by
  cases worked : dmaProcessXferJob w with
  | some after =>
    simp only [dmaStep, worked, Option.some.injEq] at stepped
    rw [← stepped]
    unfold dmaProcessXferJob at worked
    split at worked
    · rw [← Option.some.inj worked]
      exact ⟨rfl, rfl, rfl⟩
    · have frame := dmaXferLoop_frame w.pool.transfer w
      rw [← Option.some.inj worked]
      exact ⟨frame.dmaMemPoolDma, frame.owner, frame.llpDescr⟩
    · exact absurd worked (by simp)
  | none =>
    simp only [dmaStep, worked, dmaProcessDoneJob, Option.map_eq_some_iff] at stepped
    obtain ⟨after, walked, pool, found, result⟩ := stepped
    obtain ⟨pool', defined, _, frame⟩ := sound.pool.finishStep walked
    rw [found] at defined
    rw [← result, Option.some.inj defined]
    exact ⟨rfl, frame.owner, rfl⟩

/-- A step fills the chain of a record, or leaves the chains. -/
theorem dmaStep_chains {w w' : DmaWorld} {e : DmaEvent} (sound : DmaSound w) (held : Chained w)
    (stepped : dmaStep (some w) e = some (some w')) : Chained w' := by
  cases e with
  | copy xfer =>
    obtain ⟨_, result⟩ := guarded_step stepped
    cases result
    unfold dmaCopy
    split
    · exact held.frame ⟨rfl, rfl, rfl⟩
    · exact held.frame ⟨rfl, rfl, rfl⟩
  | alloc xfer =>
    obtain ⟨_, result⟩ := guarded_step stepped
    cases result
    unfold dmaJobAlloc
    split
    · exact held.frame ⟨rfl, rfl, rfl⟩
    · exact held.frame ⟨rfl, rfl, rfl⟩
  | enqueue job xfer =>
    obtain ⟨_, result⟩ := guarded_step stepped
    cases result
    exact held.enqueue job xfer
  | testBusy xfer =>
    obtain ⟨_, result⟩ := guarded_step stepped
    cases result
    unfold dmaTestBusy
    split
    · exact held.frame ⟨rfl, rfl, rfl⟩
    · exact held.frame ⟨rfl, rfl, rfl⟩
  | scheduleXfer xfer | runXfer | runDone | raise i ok =>
    obtain ⟨_, result⟩ := guarded_step stepped
    cases result
    exact held.frame ⟨rfl, rfl, rfl⟩
  | work => exact held.frame (dmaWork_frame sound stepped)
  | tcIsr | errIsr =>
    rw [← Option.some.inj (Option.some.inj stepped)]
    exact held.frame (dmaIsr_frame w _ _ _)

/-- In every reachable state the records have the chains of their requests. -/
theorem dma_chained {w : DmaWorld} (reached : dmaSystem.Reachable (some w)) : Chained w := by
  suffices held : ∃ w', some w = some w' ∧ DmaSound w' ∧ Chained w' by
    obtain ⟨w', same, _, chained⟩ := held
    rw [Option.some.inj same]
    exact chained
  refine reached.invariant (fun s start => ?_) (fun s e s' held stepped => ?_)
  · obtain ⟨w, same, fresh⟩ := start
    refine ⟨w, same, dmaInit_sound fresh, ?_⟩
    intro job xfer owner
    rw [fresh.1] at owner
    cases owner
  · obtain ⟨w, same, sound, chained⟩ := held
    rw [same] at stepped
    obtain ⟨w', defined, after⟩ := dmaStep_sound sound stepped
    rw [defined] at stepped
    exact ⟨w', defined, after, dmaStep_chains sound chained stepped⟩

/-! ## The call -/

/-- What the steps of a call do, and what its record has until the request is called back. -/
structure CopyTells (xfer : DmaXfer) (w : DmaWorld) : Prop where
  /-- The entry calls back with an error or goes on. -/
  entered : ∀ w', dmaStep (some w) (.copy xfer) = some (some w') →
    (xfer, dmacResponseErr) ∈ w'.pool.called ∨ .started xfer ∈ w'.pool.calls
  /-- The call finds no record and calls back with an error, or takes one. -/
  taken : ∀ w', dmaStep (some w) (.alloc xfer) = some (some w') →
    (xfer, dmacResponseErr) ∈ w'.pool.called ∨ ∃ job, .holding job xfer ∈ w'.pool.calls
  /-- The call queues its record. -/
  queued : ∀ job w', dmaStep (some w) (.enqueue job xfer) = some (some w') →
    job ∈ w'.pool.transfer ∧ w'.pool.owner job = some xfer
  /-- The record of the request has a chain that tells what was asked. -/
  chain : ∀ job ∈ w.pool.waiting (dmaRunning w), w.pool.owner job = some xfer →
    ChainTells (dmaLlpDescrDma w job) xfer (w.llpDescr job)

/-- A record is queued with its request. -/
theorem dmaEnqueue_queued (w : DmaWorld) (job : Nat) (xfer : DmaXfer) :
    job ∈ (dmaEnqueue w job xfer).pool.transfer ∧
      (dmaEnqueue w job xfer).pool.owner job = some xfer :=
  ⟨List.mem_append_right _ List.mem_cons_self, Function.update_self ..⟩

/-- The steps of a call refuse a request with an error, or go on to queue it. -/
theorem Chained.copyTells {w : DmaWorld} (held : Chained w) {xfer : DmaXfer}
    (fits : ∀ vec ∈ xfer.vec, VecFits vec) : CopyTells xfer w := by
  refine ⟨?_, ?_, ?_, ?_⟩
  · intro w' stepped
    obtain ⟨_, result⟩ := guarded_step stepped
    cases result
    unfold dmaCopy
    split
    · exact .inl (List.mem_append_right _ List.mem_cons_self)
    · exact .inr List.mem_cons_self
  · intro w' stepped
    obtain ⟨_, result⟩ := guarded_step stepped
    cases result
    unfold dmaJobAlloc
    split
    · exact .inl (List.mem_append_right _ List.mem_cons_self)
    · rename_i job _
      exact .inr ⟨job, List.mem_cons_self⟩
  · intro job w' stepped
    obtain ⟨_, result⟩ := guarded_step stepped
    cases result
    exact dmaEnqueue_queued w job xfer
  · intro job _ owner
    rw [held job xfer owner]
    exact (chainTells_iff _ _).mpr fits

/-- A request of one to `MAX_DMA_VEC` vectors is queued when it is made first. -/
theorem first_copy {xfer : DmaXfer} (vectors : 1 ≤ xfer.vec.length ∧ xfer.vec.length ≤ maxDmaVec) :
    dmaSystem.Reachable
      (some (dmaEnqueue (dmaJobAlloc (dmaCopy dmaFresh xfer) xfer) 0 xfer)) := by
  have fresh : dmaInit dmaFresh := ⟨rfl, rfl, rfl, rfl, fun _ => ⟨by simp [dmaFresh], rfl, rfl⟩⟩
  have entered : dmaSystem.step (some dmaFresh) (.copy xfer) =
      some (some (dmaCopy dmaFresh xfer)) := if_pos ⟨vectors.1, vectors.2, List.not_mem_nil⟩
  have taken : dmaSystem.step (some (dmaCopy dmaFresh xfer)) (.alloc xfer) =
      some (some (dmaJobAlloc (dmaCopy dmaFresh xfer) xfer)) := if_pos List.mem_cons_self
  have queued : dmaSystem.step (some (dmaJobAlloc (dmaCopy dmaFresh xfer) xfer)) (.enqueue 0 xfer) =
      some (some (dmaEnqueue (dmaJobAlloc (dmaCopy dmaFresh xfer) xfer) 0 xfer)) :=
    if_pos List.mem_cons_self
  exact .step (.step (.step (.init ⟨dmaFresh, rfl, fresh⟩) trivial entered) trivial taken) trivial
    queued

/-- A request is refused with an error or gets a chain that tells what it asks for, in every run and
until it is called back, exactly when all of its vectors fit. -/
theorem dma_copy_tells_iff (xfer : DmaXfer)
    (vectors : 1 ≤ xfer.vec.length ∧ xfer.vec.length ≤ maxDmaVec) :
    (∀ w, dmaSystem.Reachable (some w) → CopyTells xfer w) ↔ ∀ vec ∈ xfer.vec, VecFits vec := by
  constructor
  · intro tells
    obtain ⟨inside, owner⟩ := dmaEnqueue_queued (dmaJobAlloc (dmaCopy dmaFresh xfer) xfer) 0 xfer
    have told := (tells _ (first_copy vectors)).chain 0
      (List.mem_append_left _ (List.mem_append_left _ (List.mem_append_left _ inside))) owner
    rw [dma_chained (first_copy vectors) 0 xfer owner] at told
    exact (chainTells_iff _ _).mp told
  · intro fits w reached
    exact (dma_chained reached).copyTells fits

/-- Sixteen bytes in words between two masters of number 0. -/
def wordCopy : DmaXfer := ⟨0, [⟨0xC0001000, 0xC0002000, 16, 0, 0, 0, 0, 2, 2⟩]⟩

/-- Its vector fits, so its chain tells what it asks for. -/
theorem dma_copy_tells_words :
    (1 ≤ wordCopy.vec.length ∧ wordCopy.vec.length ≤ maxDmaVec) ∧
      ∀ w, dmaSystem.Reachable (some w) → CopyTells wordCopy w := by
  have one : 1 ≤ wordCopy.vec.length ∧ wordCopy.vec.length ≤ maxDmaVec := by decide
  apply And.intro one
  apply (dma_copy_tells_iff wordCopy one).mpr
  intro vec member
  rw [List.mem_singleton.mp member]
  exact ⟨by decide, by decide, rfl, rfl, by decide, by decide, by decide, by decide⟩

/-- Sixteen bytes in words with the source at master 1, both addresses counted up. -/
def secondMasterCopy : DmaXfer := ⟨0, [⟨0xC0001000, 0xC0002000, 16, 0, 1, 0, 0, 2, 2⟩]⟩

/-- The queued descriptor counts the source address down. -/
theorem dma_copy_counts_down :
    ∃ w, dmaSystem.run (some dmaFresh) [.copy secondMasterCopy, .alloc secondMasterCopy,
        .enqueue 0 secondMasterCopy] = some (some w) ∧
      (w.llpDescr 0).map (fun descr => descr.srcAddrCtl) = [1] ∧
      secondMasterCopy.vec.map (fun vec => vec.srcAddrCtl) = [0] :=
  ⟨_, rfl, by decide, by decide⟩

end Fvs318g.Verif.DmaDescr
