import Fvs318g.Kernel.Mapping

/-!
# Copies by the general DMA controller of the STR9100

`gdmac_init` sets up channel 0, and `memcpy2`, or `memcpy3` with `memcpy3_check`, copy with it: they
program addresses and size, enable the channel and wait for its terminal count. The channel moves
the bytes of `XFR_SIZE` one at a time and steps its addresses as its control register says; between
two polls of a wait it makes one such step. The caches are in step with the memory.
-/

namespace Fvs318g.Star

open Lib Kernel

/-! ## The controller -/

/-- The registers that the driver uses, and the memory behind the controller. -/
structure Gdmac where
  /-- The memory. -/
  memory : BusMemory 32
  /-- `GDMAC_CSR`. -/
  csr : Word
  /-- `GDMAC_CH0_CSR` to `GDMAC_CH3_CSR`. -/
  channelCsr : Nat → Word
  /-- `GDMAC_CH0_SRC_ADDR`. -/
  srcAddr : Word
  /-- `GDMAC_CH0_DST_ADDR`. -/
  dstAddr : Word
  /-- `GDMAC_CH0_XFR_SIZE`. -/
  xfrSize : Word
  /-- The bit of channel 0 in `GDMAC_TC_STATUS`. -/
  tcStatus : Bool

namespace Gdmac

/-- The controller and its channel 0 are enabled. -/
def running (g : Gdmac) : Bool := g.csr.getLsbD 0 && (g.channelCsr 0).getLsbD 0

/-- The bit of channel 0 in `GDMAC_CH_BUSY_STATUS`. -/
def busy (g : Gdmac) : Bool := g.running && g.xfrSize != 0

/-- The address control of the source, `GDMAC_CH_SRC_ADDR_CTL_BIT`. -/
def srcAddrCtl (g : Gdmac) : AddrCtl := .ofField (field (g.channelCsr 0) 5 2)

/-- The address control of the destination, `GDMAC_CH_DST_ADDR_CTL_BIT`. -/
def dstAddrCtl (g : Gdmac) : AddrCtl := .ofField (field (g.channelCsr 0) 3 2)

/-- The transfer that channel 0 is at. -/
def transfer (g : Gdmac) : Transfer 32 := ⟨g.memory, g.srcAddr, g.dstAddr⟩

/-- One step of channel 0: a byte, or the terminal count after the last one. -/
def step (g : Gdmac) : Gdmac :=
  if g.running then
    if g.xfrSize = 0 then { g with tcStatus := true }
    else
      let moved := g.transfer.unit g.srcAddrCtl g.dstAddrCtl 1
      { g with
        memory := moved.memory
        srcAddr := moved.src
        dstAddr := moved.dst
        xfrSize := g.xfrSize - 1 }
  else g

/-- Poll while a condition holds; nothing when the polls run out. -/
def wait (condition : Gdmac → Bool) : Nat → Gdmac → Option Gdmac
  | 0, _ => none
  | polls + 1, g => if condition g then wait condition polls g.step else some g

end Gdmac

/-! ## Access macros -/

/-- `GDMAC_READ_CSR`. -/
def gdmacReadCsr (g : Gdmac) : Word := g.csr &&& 0xf#32

/-- `GDMAC_WRITE_CSR`. -/
def gdmacWriteCsr (status : Word) (g : Gdmac) : Gdmac := { g with csr := status &&& 0xf#32 }

/-- `GDMAC_CONFIG_MASTER0_LITTLE_ENDIAN`. -/
def gdmacConfigMaster0LittleEndian (g : Gdmac) : Gdmac :=
  gdmacWriteCsr (gdmacReadCsr g &&& ~~~(1#32 <<< 1)) g

/-- `GDMAC_CONFIG_MASTER1_LITTLE_ENDIAN`. -/
def gdmacConfigMaster1LittleEndian (g : Gdmac) : Gdmac :=
  gdmacWriteCsr (gdmacReadCsr g &&& ~~~(1#32 <<< 2)) g

/-- `GDMAC_ENABLE`. -/
def gdmacEnable (g : Gdmac) : Gdmac := gdmacWriteCsr (gdmacReadCsr g ||| (1#32 <<< 0)) g

/-- `GDMAC_CHANNEL_READ_CSR`. -/
def gdmacChannelReadCsr (ch : Nat) (g : Gdmac) : Word := g.channelCsr ch &&& 0x00ffffff#32

/-- `GDMAC_CHANNEL_WRITE_CSR`. -/
def gdmacChannelWriteCsr (ch : Nat) (status : Word) (g : Gdmac) : Gdmac :=
  { g with channelCsr := Function.update g.channelCsr ch (status &&& 0x00ffffff#32) }

/-- `GDMAC_CHANNEL_ENABLE`. -/
def gdmacChannelEnable (ch : Nat) (g : Gdmac) : Gdmac :=
  gdmacChannelWriteCsr ch (gdmacChannelReadCsr ch g ||| (1#32 <<< 0)) g

/-- `GDMAC_CHANNEL_DISABLE`. -/
def gdmacChannelDisable (ch : Nat) (g : Gdmac) : Gdmac :=
  gdmacChannelWriteCsr ch (gdmacChannelReadCsr ch g &&& ~~~(1#32 <<< 0)) g

/-- `GDMAC_CHANNEL_WRITE_XFR_SIZE` of channel 0. -/
def gdmacChannelWriteXfrSize (size : Word) (g : Gdmac) : Gdmac :=
  { g with xfrSize := size &&& 0xfff#32 }

/-! ## The functions -/

/-- `gdmac_channel_init`. -/
def gdmacChannelInit (g : Gdmac) : Gdmac :=
  gdmacChannelDisable 3 (gdmacChannelDisable 2 (gdmacChannelDisable 1 (gdmacChannelDisable 0 g)))

/-- The control word of channel 0: priority 3, bursts of 256, units of 8 bits, normal mode, and
both addresses counted down. -/
def gdmacChannelControl : Word :=
  (0x3#32 <<< 22) ||| (0x7#32 <<< 16) ||| (0x0#32 <<< 11) ||| (0x0#32 <<< 8) ||| (0x0#32 <<< 7) |||
    (0x1#32 <<< 5) ||| (0x1#32 <<< 3)

/-- `gdmac_channel_control_init`. -/
def gdmacChannelControlInit (g : Gdmac) : Gdmac := gdmacChannelWriteCsr 0 gdmacChannelControl g

/-- `gdmac_init`. -/
def gdmacInit (g : Gdmac) : Gdmac :=
  let g := gdmacConfigMaster0LittleEndian g
  let g := gdmacConfigMaster1LittleEndian g
  let g := gdmacEnable g
  gdmacChannelControlInit (gdmacChannelInit g)

/-- The end of a copy: wait for the terminal count, disable the channel, clear the status. -/
def memcpy3Check (polls : Nat) (g : Gdmac) : Option Gdmac := do
  let g ← g.wait (fun g => !g.tcStatus) polls
  return { gdmacChannelDisable 0 g with tcStatus := false }

/-- `memcpy3`. -/
def memcpy3 (polls : Nat) (dst src len : Word) (g : Gdmac) : Option Gdmac := do
  let g ← g.wait Gdmac.busy polls
  let g := { g with
    srcAddr := busAddress src, dstAddr := busAddress dst, xfrSize := len &&& 0xFFF#32 }
  return gdmacChannelEnable 0 (gdmacChannelWriteXfrSize len g)

/-- `memcpy2`. -/
def memcpy2 (polls : Nat) (dst src len : Word) (g : Gdmac) : Option Gdmac := do
  let g ← g.wait Gdmac.busy polls
  let g := { g with srcAddr := busAddress src, dstAddr := busAddress dst }
  let g := gdmacChannelEnable 0 (gdmacChannelWriteXfrSize len g)
  let g ← g.wait (fun g => !g.tcStatus) polls
  return { gdmacChannelDisable 0 g with tcStatus := false }

end Fvs318g.Star
