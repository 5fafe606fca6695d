import Mathlib.Data.Nat.Bitwise
import Fvs318g.Kernel.SkBuff
import Fvs318g.Lib.JobPool
import Fvs318g.Lib.System

/-!
# The high-speed DMA controller

The driver has the shape of the general one, with a single channel. Its transfer work differs:
`hsdma_process_xfer_job` takes the first entry of the transfer queue without looking whether the
queue has one or whether a job runs. A call of `hsdma_copy` gives a request with an unaligned
vector up after it has taken a record for it.

The head of an empty list is its own successor, so the entry taken from an empty queue is not a
job; what follows is undefined. The controller raises one completion for every job that was
started, and a handler that finds no running job is undefined too.
-/

namespace Fvs318g.Arch

open Lib Kernel

/-- `HSDMA_XFER_MAX_Q_LEN`. -/
def hsdmaXferMaxQLen : Nat := 32

/-- `MAX_HSDMA_VEC`. -/
def maxHsdmaVec : Nat := 32

/-- `HSDMAC_RESPONSE_OK`. -/
def hsdmacResponseOk : Int := 0

/-- `HSDMAC_RESPONSE_ERR`. -/
def hsdmacResponseErr : Int := -1

/-- `HSDMAC_MASTER0_TO_MASTER1`. -/
def hsdmacMaster0ToMaster1 : BitVec 1 := 0

/-! ## Requests and descriptors -/

/-- `hsdma_vec_t`. -/
structure HsdmaVec where
  /-- The direction between the masters. -/
  dataDirection : BitVec 8
  /-- Virtual source address. -/
  srcAddr : BitVec 32
  /-- Virtual destination address. -/
  dstAddr : BitVec 32
  /-- Bytes. -/
  size : BitVec 32
  deriving DecidableEq, Repr

/-- `hsdma_xfer_t`: a request, with the `nr_vec` vectors of it. -/
structure HsdmaXfer where
  /-- What tells one request from another. -/
  id : Nat
  /-- `vec`. -/
  vec : List HsdmaVec
  deriving DecidableEq, Repr

/-- `hsdma_llp_descr_t`. -/
structure HsdmaLlpDescr where
  /-- Physical source address. -/
  srcAddr : BitVec 32
  /-- Physical destination address. -/
  dstAddr : BitVec 32
  /-- The next descriptor. -/
  llp : BitVec 32
  /-- Words. -/
  totSize : BitVec 16
  /-- No terminal count interrupt after this descriptor. -/
  tcMask : BitVec 1
  /-- The direction between the masters. -/
  dataDirection : BitVec 1
  deriving DecidableEq, Repr

/-- `sizeof(hsdma_llp_descr_t)`. -/
def hsdmaLlpDescrSize : Nat := 16

/-- The test that `hsdma_copy` makes of each vector. -/
def hsdmaAligned (vec : HsdmaVec) : Bool :=
  vec.srcAddr &&& 0x3 = 0 && vec.dstAddr &&& 0x3 = 0 && vec.size &&& 0x3 = 0

/-- The descriptor `i` of a request with `nrVec` vectors, in a chain at `llpDescrDma`. -/
def hsdmaLlpDescr (llpDescrDma nrVec i : Nat) (vec : HsdmaVec) : HsdmaLlpDescr where
  srcAddr := BitVec.ofNat 32 (virtToPhys vec.srcAddr.toNat)
  dstAddr := BitVec.ofNat 32 (virtToPhys vec.dstAddr.toNat)
  llp := if i = nrVec - 1 then 0 else BitVec.ofNat 32 (llpDescrDma + (i + 1) * hsdmaLlpDescrSize)
  totSize := ((vec.size >>> 2) &&& 0xFFF).setWidth 16
  tcMask := if i = nrVec - 1 then 0 else 1
  dataDirection := vec.dataDirection.setWidth 1

/-- The chain that `hsdma_copy` fills. -/
def hsdmaLlpChain (llpDescrDma : Nat) (xfer : HsdmaXfer) : List HsdmaLlpDescr :=
  xfer.vec.mapIdx (hsdmaLlpDescr llpDescrDma xfer.vec.length)

/-! ## State -/

/-- The registers of the controller. -/
structure HsdmacRegs where
  /-- `HSDMAC_CONTROL_STATUS_REG`. -/
  controlStatus : BitVec 32
  /-- `HSDMAC_MASTER0_ADDR_REG`. -/
  master0Addr : BitVec 32
  /-- `HSDMAC_MASTER1_ADDR_REG`. -/
  master1Addr : BitVec 32
  /-- `HSDMAC_LLP_REG`. -/
  llp : BitVec 32
  /-- `HSDMAC_TOT_SIZE_REG`. -/
  totSize : BitVec 32
  deriving DecidableEq, Repr

/-- The driver and the controller. -/
structure HsdmaWorld where
  /-- `hsdma_mem_pool_dma`. -/
  hsdmaMemPoolDma : Nat
  /-- `hsdma_job_pool` with its queues, the calls of `hsdma_copy` and the worker. -/
  pool : JobPool HsdmaXfer
  /-- `llp_descr` of each job. -/
  llpDescr : Nat → List HsdmaLlpDescr
  /-- `hsdma_busy`. -/
  hsdmaBusy : Bool
  /-- `hsdma_running_job`. -/
  hsdmaRunningJob : Option Nat
  /-- The registers. -/
  regs : HsdmacRegs
  /-- Started jobs whose completion is still to come. -/
  started : Nat

/-- Change the pool. -/
def HsdmaWorld.onPool (w : HsdmaWorld) (change : JobPool HsdmaXfer → JobPool HsdmaXfer) :
    HsdmaWorld :=
  { w with pool := change w.pool }

/-! ## The functions -/

/-- `llp_descr_dma` of a job. -/
def hsdmaLlpDescrDma (w : HsdmaWorld) (job : Nat) : Nat :=
  w.hsdmaMemPoolDma + job * (maxHsdmaVec * hsdmaLlpDescrSize)

/-- The entry of `hsdma_copy`, up to its test of the queue length. -/
def hsdmaCopy (w : HsdmaWorld) (xfer : HsdmaXfer) : HsdmaWorld :=
  if w.pool.transferLen > hsdmaXferMaxQLen then
    w.onPool fun pool => (pool.submit xfer).refuse xfer hsdmacResponseErr
  else w.onPool fun pool => pool.submit xfer

/-- `hsdma_job_alloc` in `hsdma_copy`. -/
def hsdmaJobAlloc (w : HsdmaWorld) (xfer : HsdmaXfer) : HsdmaWorld :=
  match w.pool.free.head? with
  | none => w.onPool fun pool => pool.refuse xfer hsdmacResponseErr
  | some job => w.onPool fun pool => pool.alloc xfer job

/-- The filling of the descriptors in `hsdma_copy`, up to the first unaligned vector. -/
def hsdmaFill (w : HsdmaWorld) (job : Nat) (xfer : HsdmaXfer) : HsdmaWorld :=
  let chain := hsdmaLlpChain (hsdmaLlpDescrDma w job) xfer
  { w with
    llpDescr := Function.update w.llpDescr job
      (chain.take (xfer.vec.takeWhile hsdmaAligned).length) }

/-- The rest of `hsdma_copy`: a request with an unaligned vector is answered with an error, any
other is queued. -/
def hsdmaEnqueue (w : HsdmaWorld) (job : Nat) (xfer : HsdmaXfer) : HsdmaWorld :=
  if xfer.vec.all hsdmaAligned then
    (hsdmaFill w job xfer).onPool fun pool => pool.enqueue job xfer
  else (hsdmaFill w job xfer).onPool fun pool => pool.giveUp job xfer hsdmacResponseErr

/-- `hsdma_job_free` in `hsdma_copy`. -/
def hsdmaJobFree (w : HsdmaWorld) (job : Nat) : HsdmaWorld :=
  w.onPool fun pool => (pool.moveCall (.releasing job) []).release job

/-- The test of `hsdma_busy` at the end of `hsdma_copy`. -/
def hsdmaTestBusy (w : HsdmaWorld) (xfer : HsdmaXfer) : HsdmaWorld :=
  if w.hsdmaBusy then w.onPool fun pool => pool.accept (.queued xfer) xfer
  else w.onPool fun pool => pool.moveCall (.queued xfer) [.waking xfer]

/-- The `schedule_work` at the end of `hsdma_copy`. -/
def hsdmaScheduleXfer (w : HsdmaWorld) (xfer : HsdmaXfer) : HsdmaWorld :=
  w.onPool fun pool => (pool.accept (.waking xfer) xfer).scheduleTransfer

/-- Program the controller with a descriptor and enable it. -/
def hsdmaProgram (descr : HsdmaLlpDescr) (r : HsdmacRegs) : HsdmacRegs :=
  let r :=
    if descr.dataDirection = hsdmacMaster0ToMaster1 then
      { r with
        master0Addr := descr.srcAddr
        master1Addr := descr.dstAddr
        totSize := r.totSize &&& ~~~(0x1#32 <<< 29) }
    else
      { r with
        master0Addr := descr.dstAddr
        master1Addr := descr.srcAddr
        totSize := r.totSize ||| (0x1#32 <<< 20) }
  let totSize := r.totSize ||| descr.totSize.setWidth 32
  { r with
    llp := descr.llp
    totSize :=
      if descr.tcMask = 1 then totSize ||| (0x1#32 <<< 28) else totSize &&& ~~~(0x1#32 <<< 28)
    controlStatus := r.controlStatus ||| 0x1 }

/-- A cleared descriptor, as the records have before their first use. -/
def hsdmaNoDescr : HsdmaLlpDescr := ⟨0, 0, 0, 0, 0, 0⟩

/-- `hsdma_process_xfer_job`. -/
def hsdmaProcessXferJob (w : HsdmaWorld) : Option HsdmaWorld :=
  match w.pool.transfer.head? with
  | none => none
  | some job =>
    some { w with
      pool := { w.pool.start job with worker := .idle }
      hsdmaRunningJob := some job
      hsdmaBusy := true
      regs := hsdmaProgram ((w.llpDescr job).headD hsdmaNoDescr) w.regs
      started := w.started + 1 }

/-- `hsdma_process_done_job`: the steps of its walk. -/
def hsdmaProcessDoneJob (w : HsdmaWorld) : Option (Option HsdmaWorld) :=
  w.pool.finishStep.map fun after => after.map fun pool => { w with pool := pool }

/-- The result that `hsdma_isr` reads from the controller. -/
def hsdmaResult (r : HsdmacRegs) : Int :=
  if r.controlStatus.getLsbD 12 then hsdmacResponseErr else hsdmacResponseOk

/-- `hsdma_isr`. -/
def hsdmaIsr (w : HsdmaWorld) : Option HsdmaWorld :=
  match w.hsdmaRunningJob with
  | none => none
  | some job =>
    some { w with
      hsdmaRunningJob := none
      hsdmaBusy := false
      regs := { w.regs with controlStatus := w.regs.controlStatus &&& ~~~0x1 }
      pool := w.pool.complete job (hsdmaResult w.regs) }

/-! ## Runs -/

/-- What may happen. -/
inductive HsdmaEvent where
  /-- A call of `hsdma_copy`. -/
  | copy (xfer : HsdmaXfer)
  /-- A call takes a record, or finds none. -/
  | alloc (xfer : HsdmaXfer)
  /-- A call fills its record, and queues it or gives it up. -/
  | enqueue (job : Nat) (xfer : HsdmaXfer)
  /-- A call frees the record of a request that it gave up. -/
  | release (job : Nat)
  /-- A call looks at `hsdma_busy`. -/
  | testBusy (xfer : HsdmaXfer)
  /-- A call schedules the transfer work. -/
  | scheduleXfer (xfer : HsdmaXfer)
  /-- The worker takes up the transfer work. -/
  | runXfer
  /-- The worker takes up the done work. -/
  | runDone
  /-- The next step of the worker. -/
  | work
  /-- A started job completes, in its error bit or without, and its interrupt is served. -/
  | isr (failed : Bool)
  deriving Repr

/-- The completion of a started job. -/
def hsdmaComplete (w : HsdmaWorld) (failed : Bool) : HsdmaWorld :=
  let status := w.regs.controlStatus
  { w with
    started := w.started - 1
    regs := { w.regs with
      controlStatus :=
        if failed then status ||| (0x1#32 <<< 12) else status &&& ~~~(0x1#32 <<< 12) } }

/-- One step; `some none` is the state after undefined behaviour. -/
def hsdmaStep : Option HsdmaWorld → HsdmaEvent → Option (Option HsdmaWorld)
  | none, _ => none
  | some w, .copy xfer =>
    if xfer.vec.length ≤ maxHsdmaVec ∧ xfer ∉ w.pool.issued then some (some (hsdmaCopy w xfer))
    else none
  | some w, .alloc xfer =>
    if .started xfer ∈ w.pool.calls then some (some (hsdmaJobAlloc w xfer)) else none
  | some w, .enqueue job xfer =>
    if .holding job xfer ∈ w.pool.calls then some (some (hsdmaEnqueue w job xfer)) else none
  | some w, .release job =>
    if .releasing job ∈ w.pool.calls then some (some (hsdmaJobFree w job)) else none
  | some w, .testBusy xfer =>
    if .queued xfer ∈ w.pool.calls then some (some (hsdmaTestBusy w xfer)) else none
  | some w, .scheduleXfer xfer =>
    if .waking xfer ∈ w.pool.calls then some (some (hsdmaScheduleXfer w xfer)) else none
  | some w, .runXfer =>
    if w.pool.worker = .idle ∧ w.pool.transferPending then
      some (some (w.onPool JobPool.beginTransfer))
    else none
  | some w, .runDone =>
    if w.pool.worker = .idle ∧ w.pool.donePending then
      some (some (w.onPool JobPool.beginDone))
    else none
  | some w, .work =>
    if w.pool.worker = .entered then some (hsdmaProcessXferJob w) else hsdmaProcessDoneJob w
  | some w, .isr failed =>
    if 0 < w.started then some (hsdmaIsr (hsdmaComplete w failed)) else none

/-- After `hsdma_init`. -/
def hsdmaInit (w : HsdmaWorld) : Prop :=
  w.pool = JobPool.initial hsdmaXferMaxQLen ∧ w.hsdmaBusy = false ∧ w.hsdmaRunningJob = none ∧
    w.regs.controlStatus = 0x0 ∧ w.regs.totSize = 0x10000000 ∧ w.started = 0

/-- The runs of the driver. -/
def hsdmaSystem : System (Option HsdmaWorld) HsdmaEvent where
  init s := ∃ w, s = some w ∧ hsdmaInit w
  step := hsdmaStep

end Fvs318g.Arch
