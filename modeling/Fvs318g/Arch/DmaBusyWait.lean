import Fvs318g.Kernel.Mapping

/-!
# Copies that wait for the channel

`dma_memcpy_busy_wait` cuts a copy into chunks and moves each with channel 7 of the general DMA
controller. `dma_copy_busy_wait` programs the channel, polls its status bits for some time, disables
it, and copies by itself when the channel has failed or has not come to its end.

What the channel does with a chunk is an input: when it finishes or fails, counted in polls, and how
many units it has moved when it is disabled before that. The status bits stay until they are
cleared. The channel is disabled between chunks, so it is not busy when one begins.
-/

namespace Fvs318g.Arch

open Lib Kernel

/-- `DMA_COPY_BUSY_WAIT_LOOP`. -/
def dmaCopyBusyWaitLoop : Nat := 1000

/-- `dma_burst_size`, which is `DMAC_CH_SRC_BURST_SIZE_32`. -/
def dmaBurstSize : Word := 0x4

/-- The control word of channel 7 for units of a width: priority 3, normal mode, both addresses
counted up, from master 1 to master 0. -/
def dmaChCtl (width : Word) : Word :=
  (0xf#32 <<< 25) ||| (0x3#32 <<< 22) ||| (dmaBurstSize <<< 16) ||| (width <<< 11) |||
    (width <<< 8) ||| (0x0#32 <<< 7) ||| (0x0#32 <<< 5) ||| (0x0#32 <<< 3) ||| (0x0#32 <<< 1) |||
    (0x1#32 <<< 2)

/-- `DMA_CH_CTL_8BIT_WIDTH`. -/
def dmaChCtl8BitWidth : Word := dmaChCtl 0x0#32

/-- `DMA_CH_CTL_16BIT_WIDTH`. -/
def dmaChCtl16BitWidth : Word := dmaChCtl 0x1#32

/-- `DMA_CH_CTL_32BIT_WIDTH`. -/
def dmaChCtl32BitWidth : Word := dmaChCtl 0x2#32

/-! ## The channel -/

/-- The bits of channel 7 in `DMAC_TC_STATUS_REG` and `DMAC_ERR_STATUS_REG`. -/
structure DmaStatus where
  /-- The terminal count. -/
  tc : Bool
  /-- The error. -/
  err : Bool
  deriving DecidableEq, Repr

/-- What becomes of a chunk; the times are the first poll that would see it. -/
inductive ChunkOutcome where
  /-- The terminal count comes. -/
  | finishes (poll : Nat)
  /-- The error comes. -/
  | fails (poll : Nat)
  /-- The channel goes on until it is disabled. -/
  | runs
  deriving DecidableEq, Repr

/-- What the channel does with a chunk. -/
structure ChunkTiming where
  /-- What becomes of the chunk. -/
  outcome : ChunkOutcome
  /-- The units moved when the channel is disabled before the chunk is finished. -/
  moved : Nat
  deriving DecidableEq, Repr

namespace ChunkTiming

/-- The terminal count is there at a poll. -/
def finishedBy (timing : ChunkTiming) (poll : Nat) : Bool :=
  match timing.outcome with
  | .finishes first => first ≤ poll
  | _ => false

/-- The error is there at a poll. -/
def failedBy (timing : ChunkTiming) (poll : Nat) : Bool :=
  match timing.outcome with
  | .fails first => first ≤ poll
  | _ => false

end ChunkTiming

/-- What a chunk was started with. -/
structure ProgrammedChunk where
  /-- The width of a unit in bytes. -/
  width : Nat
  /-- `DMAC_CH_SRC_ADDR_REG`. -/
  srcAddr : Word
  /-- `DMAC_CH_DST_ADDR_REG`. -/
  dstAddr : Word
  /-- `DMAC_CH_SIZE_REG`. -/
  size : Word
  deriving DecidableEq, Repr

/-- Channel 7 and the memory behind it. -/
structure BusyWaitChannel where
  /-- The memory. -/
  memory : BusMemory 32
  /-- `DMAC_CH_CSR_REG`. -/
  csr : Word
  /-- `DMAC_CH_SRC_ADDR_REG`. -/
  srcAddr : Word
  /-- `DMAC_CH_DST_ADDR_REG`. -/
  dstAddr : Word
  /-- `DMAC_CH_SIZE_REG`. -/
  size : Word
  /-- The status bits. -/
  status : DmaStatus
  /-- The chunks that the channel was started with, the last one first. -/
  programmed : List ProgrammedChunk

namespace BusyWaitChannel

/-- The bytes of a unit, from `DMAC_CH_SRC_WIDTH_BIT_INDEX`. -/
def width (c : BusyWaitChannel) : Nat := 2 ^ (field c.csr 11 2).toNat

/-- The transfer count in the size register. -/
def count (c : BusyWaitChannel) : Nat := (c.size &&& 0xfff#32).toNat

/-- Move units as the control register says. -/
def move (c : BusyWaitChannel) (units : Nat) : BusyWaitChannel :=
  let t : Transfer 32 := ⟨c.memory, c.srcAddr, c.dstAddr⟩
  let srcCtl := AddrCtl.ofField (field c.csr 5 2)
  let dstCtl := AddrCtl.ofField (field c.csr 3 2)
  { c with memory := (t.units srcCtl dstCtl c.width units).memory }

/-- What the channel has done to memory and status after a number of polls. -/
def transferred (timing : ChunkTiming) (polls : Nat) (c : BusyWaitChannel) : BusyWaitChannel :=
  let finished := timing.finishedBy polls
  let units := if finished then c.count else min timing.moved c.count
  { c.move units with
    status := ⟨c.status.tc || finished, c.status.err || timing.failedBy polls⟩ }

end BusyWaitChannel

/-! ## The functions -/

/-- The polls of `dma_copy_busy_wait`: the count at which they end, and whether on an error. -/
def busyWaitPoll (timing : ChunkTiming) (status : DmaStatus) (i : Nat) : Nat → Nat × Bool
  | 0 => (i, false)
  | left + 1 =>
    if status.tc || timing.finishedBy i then (i, false)
    else if status.err || timing.failedBy i then (i, true)
    else busyWaitPoll timing status (i + 1) left

/-- The number of polls that were made when they ended at a count. -/
def pollsMade (i : Nat) : Nat := if i = dmaCopyBusyWaitLoop then i else i + 1

/-- `dma_copy_busy_wait`. -/
def dmaCopyBusyWait (timing : ChunkTiming) (dst src len : Word) (dmaLenShift : Nat)
    (c : BusyWaitChannel) : BusyWaitChannel :=
  let len := len >>> dmaLenShift
  let c := { c with
    srcAddr := busAddress src
    dstAddr := busAddress dst
    size := len
    csr := c.csr ||| 0x1#32
    programmed := ⟨c.width, busAddress src, busAddress dst, len⟩ :: c.programmed }
  let (i, err) := busyWaitPoll timing c.status 0 dmaCopyBusyWaitLoop
  let c := c.transferred timing (pollsMade i)
  let c := { c with csr := c.csr &&& ~~~0x1#32 }
  if err ∨ i = dmaCopyBusyWaitLoop then
    let c := if err then { c with status := { c.status with err := false } } else c
    { c with
      memory := copyRange c.memory (busAddress dst) (busAddress src) (len <<< dmaLenShift).toNat }
  else { c with status := { c.status with tc := false } }

/-- The loop of `dma_memcpy_busy_wait` from chunk `k` on; every round but the last takes
`dmaMaxLen` bytes off, so `rounds` need not be more than the bytes left. -/
def busyWaitChunks (timings : Nat → ChunkTiming) (dmaLenShift : Nat) (dmaMaxLen : Word) :
    Nat → Nat → Word → Word → Word → BusyWaitChannel → BusyWaitChannel
  | 0, _, _, _, _, c => c
  | rounds + 1, k, pdst, psrc, len, c =>
    if len = 0 then c
    else if len > dmaMaxLen then
      busyWaitChunks timings dmaLenShift dmaMaxLen rounds (k + 1) (pdst + dmaMaxLen)
        (psrc + dmaMaxLen) (len - dmaMaxLen)
        (dmaCopyBusyWait (timings k) pdst psrc dmaMaxLen dmaLenShift c)
    else dmaCopyBusyWait (timings k) pdst psrc len dmaLenShift c

/-- The shift from bytes to the widest units that both addresses and the length allow. -/
def dmaLenShift (dst src len : Word) : Nat :=
  if src &&& 0x3#32 = 0 ∧ dst &&& 0x3#32 = 0 ∧ len &&& 3#32 = 0 then 2
  else if src &&& 0x1#32 = 0 ∧ dst &&& 0x1#32 = 0 ∧ len &&& 1#32 = 0 then 1
  else 0

/-- The control word that goes with a shift. -/
def dmaChCtlOfShift : Nat → Word
  | 2 => dmaChCtl32BitWidth
  | 1 => dmaChCtl16BitWidth
  | _ => dmaChCtl8BitWidth

/-- `DMA_MAX_LEN_8BIT_WIDTH`, `DMA_MAX_LEN_16BIT_WIDTH` and `DMA_MAX_LEN_32BIT_WIDTH`. -/
def dmaMaxLen (dmaLenShift : Nat) : Word := 0xfff#32 <<< dmaLenShift

/-- `dma_memcpy_busy_wait`; `timings` has what the channel does with each chunk. -/
def dmaMemcpyBusyWait (timings : Nat → ChunkTiming) (dst src len : Word) (c : BusyWaitChannel) :
    BusyWaitChannel :=
  let shift := dmaLenShift dst src len
  busyWaitChunks timings shift (dmaMaxLen shift) len.toNat 0 dst src len
    { c with csr := dmaChCtlOfShift shift }

end Fvs318g.Arch
