import Mathlib.Data.Nat.Bitwise
import Fvs318g.Kernel.SkBuff
import Fvs318g.Lib.JobPool
import Fvs318g.Lib.System

/-!
# The general DMA controller

`dma_copy` takes a job record, fills its chain of descriptors, queues it and schedules the
transfer work. `dma_process_xfer_job` starts queued jobs on the free ones of the channels 0 to 6,
the interrupt handlers move the job of a finished channel to the done queue, and
`dma_process_done_job` calls the requests back and frees the records.

There is one CPU. A section with the lock held or with interrupts off is one step; between two
steps of a call or of a work function any other step may come. Channel 7, which
`dma_memcpy_busy_wait` drives by itself, is not among the channels here.
-/

namespace Fvs318g.Arch

open Lib Kernel

/-- `DMA_XFER_MAX_Q_LEN`. -/
def dmaXferMaxQLen : Nat := 32

/-- `DMA_BUSY_MAX_Q_LEN`. -/
def dmaBusyMaxQLen : Int := 7

/-- `MAX_DMA_VEC`. -/
def maxDmaVec : Nat := 32

/-- The channels up to `DMA_CHANNEL_MAX_ID`. -/
def dmaChannels : Nat := 7

/-- `DMAC_RESPONSE_OK`. -/
def dmacResponseOk : Int := 0

/-- `DMAC_RESPONSE_ERR`. -/
def dmacResponseErr : Int := -1

/-! ## Requests and descriptors -/

/-- `dma_vec_t`. -/
structure DmaVec where
  /-- Virtual source address. -/
  srcAddr : BitVec 32
  /-- Virtual destination address. -/
  dstAddr : BitVec 32
  /-- Bytes. -/
  size : BitVec 32
  /-- The master at the destination. -/
  dstSel : BitVec 8
  /-- The master at the source. -/
  srcSel : BitVec 8
  /-- The address control at the destination. -/
  dstAddrCtl : BitVec 8
  /-- The address control at the source. -/
  srcAddrCtl : BitVec 8
  /-- The width at the destination. -/
  dstWidth : BitVec 8
  /-- The width at the source. -/
  srcWidth : BitVec 8
  deriving DecidableEq, Repr

/-- `dma_xfer_t`: a request, with the `nr_vec` vectors of it. -/
structure DmaXfer where
  /-- What tells one request from another. -/
  id : Nat
  /-- `vec`. -/
  vec : List DmaVec
  deriving DecidableEq, Repr

/-- `dma_llp_descr_t`. -/
structure DmaLlpDescr where
  /-- Physical source address. -/
  srcAddr : BitVec 32
  /-- Physical destination address. -/
  dstAddr : BitVec 32
  /-- The next descriptor. -/
  llp : BitVec 32
  /-- Units of the source width. -/
  totSize : BitVec 12
  /-- The master at the destination. -/
  dstSel : BitVec 1
  /-- The master at the source. -/
  srcSel : BitVec 1
  /-- The address control at the destination. -/
  dstAddrCtl : BitVec 2
  /-- The address control at the source. -/
  srcAddrCtl : BitVec 2
  /-- The width at the destination. -/
  dstWidth : BitVec 3
  /-- The width at the source. -/
  srcWidth : BitVec 3
  /-- No terminal count interrupt after this descriptor. -/
  tcMask : BitVec 1
  deriving DecidableEq, Repr

/-- `sizeof(dma_llp_descr_t)`. -/
def dmaLlpDescrSize : Nat := 16

/-- The shift from bytes to units of the source width. -/
def dmaSizeShift (srcWidth : BitVec 8) : Nat :=
  if srcWidth = 2 then 2 else if srcWidth = 1 then 1 else 0

/-- The descriptor `i` of a request with `nrVec` vectors, in a chain at `llpDescrDma`. -/
def dmaLlpDescr (llpDescrDma nrVec i : Nat) (vec : DmaVec) : DmaLlpDescr where
  srcAddr := BitVec.ofNat 32 (virtToPhys vec.srcAddr.toNat)
  dstAddr := BitVec.ofNat 32 (virtToPhys vec.dstAddr.toNat)
  llp := if i = nrVec - 1 then 0 else BitVec.ofNat 32 (llpDescrDma + (i + 1) * dmaLlpDescrSize)
  totSize := (vec.size >>> dmaSizeShift vec.srcWidth).setWidth 12
  dstSel := vec.dstSel.setWidth 1
  srcSel := vec.srcSel.setWidth 1
  -- the source stores the selections here, not the address controls of the vector
  dstAddrCtl := vec.dstSel.setWidth 2
  srcAddrCtl := vec.srcSel.setWidth 2
  dstWidth := vec.dstWidth.setWidth 3
  srcWidth := vec.srcWidth.setWidth 3
  tcMask := if i = nrVec - 1 then 0 else 1

/-- The chain that `dma_copy` fills. -/
def dmaLlpChain (llpDescrDma : Nat) (xfer : DmaXfer) : List DmaLlpDescr :=
  xfer.vec.mapIdx (dmaLlpDescr llpDescrDma xfer.vec.length)

/-! ## State -/

/-- The registers of a channel and its bits of the two interrupt status registers. -/
structure DmacChannel where
  /-- `DMAC_CH_CSR_REG`. -/
  csr : BitVec 32
  /-- `DMAC_CH_SRC_ADDR_REG`. -/
  srcAddr : BitVec 32
  /-- `DMAC_CH_DST_ADDR_REG`. -/
  dstAddr : BitVec 32
  /-- `DMAC_CH_LLP_REG`. -/
  llp : BitVec 32
  /-- `DMAC_CH_SIZE_REG`. -/
  size : BitVec 32
  /-- The bit of `DMAC_INT_TC_STATUS_REG`. -/
  tcStatus : Bool
  /-- The bit of `DMAC_INT_ERR_STATUS_REG`. -/
  errStatus : Bool
  deriving DecidableEq, Repr

/-- The driver and the controller. -/
structure DmaWorld where
  /-- `dma_mem_pool_dma`. -/
  dmaMemPoolDma : Nat
  /-- `dma_job_pool` with its queues, the calls of `dma_copy` and the worker. -/
  pool : JobPool DmaXfer
  /-- `llp_descr` of each job. -/
  llpDescr : Nat → List DmaLlpDescr
  /-- `dma_busy`. -/
  dmaBusy : Bool
  /-- `dma_busy_q_len`. -/
  dmaBusyQLen : Int
  /-- `dma_running_job`. -/
  dmaRunningJob : List (Option Nat)
  /-- The channels. -/
  channel : Nat → DmacChannel

namespace DmaWorld

/-- Change the registers of a channel. -/
def setChannel (w : DmaWorld) (i : Nat) (change : DmacChannel → DmacChannel) : DmaWorld :=
  { w with channel := Function.update w.channel i (change (w.channel i)) }

/-- Change the pool. -/
def onPool (w : DmaWorld) (change : JobPool DmaXfer → JobPool DmaXfer) : DmaWorld :=
  { w with pool := change w.pool }

end DmaWorld

/-- `HAL_DMAC_ENABLE_CHANNEL`. -/
def halDmacEnableChannel (c : DmacChannel) : DmacChannel := { c with csr := c.csr ||| 0x1 }

/-- `HAL_DMAC_DISABLE_CHANNEL`. -/
def halDmacDisableChannel (c : DmacChannel) : DmacChannel := { c with csr := c.csr &&& ~~~0x1 }

/-! ## The functions -/

/-- `llp_descr_dma` of a job. -/
def dmaLlpDescrDma (w : DmaWorld) (job : Nat) : Nat :=
  w.dmaMemPoolDma + job * (maxDmaVec * dmaLlpDescrSize)

/-- The entry of `dma_copy`, up to its test of the queue length. -/
def dmaCopy (w : DmaWorld) (xfer : DmaXfer) : DmaWorld :=
  if w.pool.transferLen > dmaXferMaxQLen then
    w.onPool fun pool => (pool.submit xfer).refuse xfer dmacResponseErr
  else w.onPool fun pool => pool.submit xfer

/-- `dma_job_alloc` in `dma_copy`. -/
def dmaJobAlloc (w : DmaWorld) (xfer : DmaXfer) : DmaWorld :=
  match w.pool.free.head? with
  | none => w.onPool fun pool => pool.refuse xfer dmacResponseErr
  | some job => w.onPool fun pool => pool.alloc xfer job

/-- The filling of the descriptors in `dma_copy`, and the section that queues the job. -/
def dmaEnqueue (w : DmaWorld) (job : Nat) (xfer : DmaXfer) : DmaWorld :=
  { w with
    llpDescr := Function.update w.llpDescr job (dmaLlpChain (dmaLlpDescrDma w job) xfer)
    pool := w.pool.enqueue job xfer }

/-- The test of `dma_busy` at the end of `dma_copy`. -/
def dmaTestBusy (w : DmaWorld) (xfer : DmaXfer) : DmaWorld :=
  if w.dmaBusy then w.onPool fun pool => pool.accept (.queued xfer) xfer
  else w.onPool fun pool => pool.moveCall (.queued xfer) [.waking xfer]

/-- The `schedule_work` at the end of `dma_copy`. -/
def dmaScheduleXfer (w : DmaWorld) (xfer : DmaXfer) : DmaWorld :=
  w.onPool fun pool => (pool.accept (.waking xfer) xfer).scheduleTransfer

/-- The control register for the first descriptor of a job. -/
def dmaCsr (csr : BitVec 32) (descr : DmaLlpDescr) : BitVec 32 :=
  let csr := if descr.tcMask = 1 then csr ||| (1#32 <<< 31) else csr &&& ~~~(1#32 <<< 31)
  let csr := csr &&& ~~~(0x3#32 <<< 11)
  let csr := csr &&& ~~~(0x3#32 <<< 8)
  let csr := csr &&& ~~~(0x3#32 <<< 5)
  let csr := csr &&& ~~~(0x3#32 <<< 3)
  csr |||
    ((descr.srcWidth.setWidth 32 <<< 11) ||| (descr.dstWidth.setWidth 32 <<< 8) |||
      (descr.srcAddrCtl.setWidth 32 <<< 5) ||| (descr.dstAddrCtl.setWidth 32 <<< 3) |||
      (descr.srcSel.setWidth 32 <<< 2) ||| (descr.dstSel.setWidth 32 <<< 1))

/-- Program a channel with a descriptor. -/
def dmaProgram (descr : DmaLlpDescr) (c : DmacChannel) : DmacChannel :=
  halDmacEnableChannel
    { c with
      csr := dmaCsr c.csr descr
      srcAddr := descr.srcAddr
      dstAddr := descr.dstAddr
      llp := descr.llp
      size := descr.totSize.setWidth 32 }

/-- A cleared descriptor, as the records have before their first use. -/
def dmaNoDescr : DmaLlpDescr := ⟨0, 0, 0, 0, 0, 0, 0, 0, 0, 0, 0⟩

/-- Start a job on channel `i`. -/
def dmaStartJob (w : DmaWorld) (i job : Nat) : DmaWorld :=
  let w := { w with
    pool := w.pool.start job
    dmaRunningJob := w.dmaRunningJob.set i (some job)
    dmaBusyQLen := w.dmaBusyQLen + 1 }
  w.setChannel i (dmaProgram ((w.llpDescr job).headD dmaNoDescr))

/-- The loop of `dma_process_xfer_job` over the transfer queue, with the lock held. -/
def dmaXferLoop (w : DmaWorld) : List Nat → DmaWorld
  | [] => w
  | job :: rest =>
    let w := match w.dmaRunningJob.findIdx? Option.isNone with
      | none => w
      | some i => dmaStartJob w i job
    if w.dmaBusyQLen = dmaBusyMaxQLen then { w with dmaBusy := true }
    else dmaXferLoop w rest

/-- `dma_process_xfer_job` from its test of `dma_busy` on: its two steps. -/
def dmaProcessXferJob (w : DmaWorld) : Option DmaWorld :=
  match w.pool.worker with
  | .entered =>
    some (w.onPool fun pool => { pool with worker := if w.dmaBusy then .idle else .checked })
  | .checked =>
    some ((dmaXferLoop w w.pool.transfer).onPool fun pool => { pool with worker := .idle })
  | _ => none

/-- `dma_process_done_job`: the steps of its walk. -/
def dmaProcessDoneJob (w : DmaWorld) : Option (Option DmaWorld) :=
  w.pool.finishStep.map fun after => after.map fun pool => { w with pool := pool }

/-- What an interrupt handler does with the job of channel `i`. -/
def dmaFinishJob (w : DmaWorld) (i job : Nat) (result : Int) : DmaWorld :=
  { w with
    dmaRunningJob := w.dmaRunningJob.set i none
    dmaBusyQLen := w.dmaBusyQLen - 1
    dmaBusy := false
    pool := w.pool.complete job result }

/-- An interrupt handler: the lowest channel whose status is set is served. -/
def dmaIsr (status : DmacChannel → Bool) (clear : DmacChannel → DmacChannel) (result : Int)
    (w : DmaWorld) : DmaWorld :=
  match (List.range dmaChannels).find? fun i => status (w.channel i) with
  | none => w
  | some i =>
    let w := w.setChannel i halDmacDisableChannel
    let w := match w.dmaRunningJob.getD i none with
      | none => w
      | some job => dmaFinishJob w i job result
    w.setChannel i clear

/-- `dma_tc_isr`. -/
def dmaTcIsr : DmaWorld → DmaWorld :=
  dmaIsr (·.tcStatus) (fun c => { c with tcStatus := false }) dmacResponseOk

/-- `dma_err_isr`. -/
def dmaErrIsr : DmaWorld → DmaWorld :=
  dmaIsr (·.errStatus) (fun c => { c with errStatus := false }) dmacResponseErr

/-! ## Runs -/

/-- What may happen. -/
inductive DmaEvent where
  /-- A call of `dma_copy`. -/
  | copy (xfer : DmaXfer)
  /-- A call takes a record, or finds none. -/
  | alloc (xfer : DmaXfer)
  /-- A call fills and queues its record. -/
  | enqueue (job : Nat) (xfer : DmaXfer)
  /-- A call looks at `dma_busy`. -/
  | testBusy (xfer : DmaXfer)
  /-- A call schedules the transfer work. -/
  | scheduleXfer (xfer : DmaXfer)
  /-- The worker takes up the transfer work. -/
  | runXfer
  /-- The worker takes up the done work. -/
  | runDone
  /-- The next step of the worker. -/
  | work
  /-- Channel `i` raises its completion or its error. -/
  | raise (i : Nat) (ok : Bool)
  /-- The completion handler. -/
  | tcIsr
  /-- The error handler. -/
  | errIsr
  deriving Repr

/-- The channel is enabled and has raised neither interrupt. -/
def dmaTransferring (c : DmacChannel) : Bool := c.csr.getLsbD 0 && !c.tcStatus && !c.errStatus

/-- One step; `some none` is the state after undefined behaviour. -/
def dmaStep : Option DmaWorld → DmaEvent → Option (Option DmaWorld)
  | none, _ => none
  | some w, .copy xfer =>
    if 1 ≤ xfer.vec.length ∧ xfer.vec.length ≤ maxDmaVec ∧ xfer ∉ w.pool.issued then
      some (some (dmaCopy w xfer))
    else none
  | some w, .alloc xfer =>
    if .started xfer ∈ w.pool.calls then some (some (dmaJobAlloc w xfer)) else none
  | some w, .enqueue job xfer =>
    if .holding job xfer ∈ w.pool.calls then some (some (dmaEnqueue w job xfer)) else none
  | some w, .testBusy xfer =>
    if .queued xfer ∈ w.pool.calls then some (some (dmaTestBusy w xfer)) else none
  | some w, .scheduleXfer xfer =>
    if .waking xfer ∈ w.pool.calls then some (some (dmaScheduleXfer w xfer)) else none
  | some w, .runXfer =>
    if w.pool.worker = .idle ∧ w.pool.transferPending then
      some (some (w.onPool JobPool.beginTransfer))
    else none
  | some w, .runDone =>
    if w.pool.worker = .idle ∧ w.pool.donePending then
      some (some (w.onPool JobPool.beginDone))
    else none
  | some w, .work =>
    match dmaProcessXferJob w with
    | some after => some (some after)
    | none => dmaProcessDoneJob w
  | some w, .raise i ok =>
    if i < dmaChannels ∧ dmaTransferring (w.channel i) then
      some (some (w.setChannel i fun c =>
        { c with tcStatus := ok, errStatus := !ok }))
    else none
  | some w, .tcIsr => some (some (dmaTcIsr w))
  | some w, .errIsr => some (some (dmaErrIsr w))

/-- After `dma_init`: the channels are off and no interrupt is raised. -/
def dmaInit (w : DmaWorld) : Prop :=
  w.pool = JobPool.initial dmaXferMaxQLen ∧ w.dmaBusy = false ∧ w.dmaBusyQLen = 0 ∧
    w.dmaRunningJob = List.replicate dmaChannels none ∧
    ∀ i, (w.channel i).csr.getLsbD 0 = false ∧ (w.channel i).tcStatus = false ∧
      (w.channel i).errStatus = false

/-- The runs of the driver. -/
def dmaSystem : System (Option DmaWorld) DmaEvent where
  init s := ∃ w, s = some w ∧ dmaInit w
  step := dmaStep

end Fvs318g.Arch
