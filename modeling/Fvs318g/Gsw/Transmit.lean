import Fvs318g.Kernel.Base
import Fvs318g.Kernel.SkBuff
import Fvs318g.Lib.Ring
import Fvs318g.Lib.System

/-!
# The transmit ring of the switch driver

`star_gsw_send_packet` with scatter-gather, as the driver is configured (`STAR_GSW_SG`
defined, `FREE_TX_SKB_MULTI` and `STAR_GSW_TIMER` not), on the ring that
`star_gsw_buffer_alloc` sets up. The function walks the ring three times: it claims one
descriptor for the linear part and one for each fragment, it points them at the data, and
it hands them to the hardware by clearing `cown`. Finished buffers met in the first walk
are collected in the array `skb_free` and freed at the end; a store past the end of that
array has no defined outcome, and the model says so.

The environment is the hardware, which sets `cown` again in ring order, and the callers,
who never pass a buffer that the driver has already accepted.
-/

namespace Fvs318g.Gsw

open Kernel Lib

/-- `STAR_GSW_MAX_TFD_NUM`. -/
def starGswMaxTfdNum : Nat := 80

/-- `MIN_PACKET_LEN`. -/
def minPacketLen : Nat := 60

/-- `VLAN0_GROUP_ID`. -/
def vlan0GroupId : Nat := 0

/-- `VLAN1_GROUP_ID`. -/
def vlan1GroupId : Nat := 1

/-- `htons(ETH_P_IP)`. -/
def ethPIp : UInt16 := htons 0x0800

/-- The fields of `STAR_GSW_TXDESC` that the driver writes. -/
structure TxDesc where
  /-- Physical address of the data. -/
  dataPtr : Nat := 0
  /-- 16-bit length of the data. -/
  length : Nat := 0
  /-- TCP checksum offload. -/
  tco : Bool := false
  /-- UDP checksum offload. -/
  uco : Bool := false
  /-- IP checksum offload. -/
  ico : Bool := false
  /-- 3-bit port map. -/
  pmap : Nat := 0
  /-- Force route. -/
  fr : Bool := false
  /-- Interrupt on completion. -/
  interrupt : Bool := false
  /-- Last segment of a frame. -/
  ls : Bool := false
  /-- First segment of a frame. -/
  fs : Bool := false
  /-- End of ring. -/
  eor : Bool := false
  /-- Set while the processor owns the descriptor. -/
  cown : Bool := false
  /-- 3-bit VLAN group. -/
  vid : Nat := 0
  /-- Insert a VLAN tag. -/
  insv : Bool := false
  deriving DecidableEq, Repr, Inhabited

/-- `TXRING_INFO` without the base addresses. -/
structure TxRing where
  /-- The descriptors at `vir_addr`. -/
  desc : Vector TxDesc starGswMaxTfdNum
  /-- The next descriptor to claim. -/
  curIndex : Nat
  /-- The buffer to free when a descriptor is claimed again. -/
  skbPtr : Vector (Option SkBuff) starGswMaxTfdNum
  deriving DecidableEq

/-- What the transmit path reads of a `struct net_device`. -/
structure NetDevice where
  /-- `dev == STAR_GSW_WAN_DEV`. -/
  wan : Bool
  /-- `priv->pmap`. -/
  pmap : Int
  deriving DecidableEq, Repr

/-- The transmit counters of `priv->stats`. -/
structure TxStats where
  /-- `tx_packets`. -/
  packets : Nat := 0
  /-- `tx_bytes`. -/
  bytes : Nat := 0
  deriving DecidableEq, Repr

/-- The driver state that the transmit path touches. -/
structure TxDriver where
  /-- `txring`. -/
  ring : TxRing
  /-- `GSW_TS_DMA_CONTROL`: transmit DMA is running. -/
  tsDma : Bool
  /-- `GSW_FS_DMA_CONTROL`: receive DMA is running. -/
  fsDma : Bool
  /-- The interrupt controller masks the switch's status line. -/
  statusMasked : Bool
  /-- The interrupt controller masks the receive line. -/
  fsrcMasked : Bool
  /-- `netif_queue_stopped(dev)`. -/
  queueStopped : Bool
  /-- `priv->stats` of the WAN device. -/
  wanStats : TxStats
  /-- `priv->stats` of the LAN device. -/
  lanStats : TxStats
  /-- Every call of `dev_kfree_skb`, in order. -/
  freed : List SkBuff
  deriving DecidableEq

namespace TxRing

/-- Overwrite one descriptor. -/
def setDesc (ring : TxRing) (i : Nat) (d : TxDesc) : TxRing :=
  { ring with desc := setSlot ring.desc i d }

end TxRing

/-- The transmit half of `star_gsw_buffer_alloc`. -/
def txRingAlloc : TxRing where
  desc := Vector.ofFn fun i : Fin starGswMaxTfdNum =>
    { eor := i.val == starGswMaxTfdNum - 1, cown := true, ico := false, uco := true, tco := true }
  curIndex := 0
  skbPtr := Vector.replicate starGswMaxTfdNum none

/-! ## `star_gsw_send_packet` -/

/-- The checksum bits: offload is asked for IP, and for UDP or TCP inside IP. -/
def checksumBits (skb : SkBuff) (d : TxDesc) : TxDesc :=
  if skb.protocol = ethPIp then
    if skb.ipProtocol = ipprotoUdp then { d with ico := true, uco := true, tco := false }
    else if skb.ipProtocol = ipprotoTcp then { d with ico := true, uco := false, tco := true }
    else { d with ico := true, uco := false, tco := false }
  else { d with ico := false, uco := false, tco := false }

/-- The routing bits: by VLAN when the device has no port map, by port otherwise. -/
def routeBits (dev : NetDevice) (d : TxDesc) : TxDesc :=
  let d := if dev.pmap = -1 then
    { d with insv := true, pmap := 1, vid := if dev.wan then vlan0GroupId else vlan1GroupId }
    else d
  if dev.pmap ≠ -1 then { d with insv := false, pmap := (dev.pmap % 8).toNat } else d

/-- What the first walk writes into the descriptor of part `f`. -/
def claimDesc (skb : SkBuff) (dev : NetDevice) (f : Nat) (d : TxDesc) : TxDesc :=
  let d := { d with fs := f == 0, ls := f == skb.nrFrags }
  let d := checksumBits skb d
  routeBits dev { d with interrupt := false, fr := true }

/-- `skb_free[skb_free_count++] = skb_ptr[cur_index]` when the slot is not null. The array
has `MAX_SKB_FRAGS` entries; a store past its end is undefined. -/
def storeFree (skbFree : List SkBuff) : Option SkBuff → Option (List SkBuff)
  | none => some skbFree
  | some skb => if skbFree.length < maxSkbFrags then some (skbFree ++ [skb]) else none

/-- How the first walk ends. -/
inductive Claim where
  /-- A descriptor still belongs to the hardware. -/
  | busy (ring : TxRing)
  /-- Every part has a descriptor; the finished buffers are collected. -/
  | claimed (ring : TxRing) (skbFree : List SkBuff)
  /-- A store past the end of `skb_free`. -/
  | overrun

/-- The first walk, with its own copy of `cur_index`. -/
def claim (skb : SkBuff) (dev : NetDevice) (ring : TxRing) (curIndex f : Nat)
    (skbFree : List SkBuff) : Nat → Claim
  | 0 => .claimed ring skbFree
  | left + 1 =>
    let txdesc := slot ring.desc curIndex
    if txdesc.cown = false then .busy ring
    else
      match storeFree skbFree (slot ring.skbPtr curIndex) with
      | none => .overrun
      | some skbFree =>
        claim skb dev (ring.setDesc curIndex (claimDesc skb dev f txdesc))
          (wrap starGswMaxTfdNum curIndex) (f + 1) skbFree left

/-- The length of the linear part as the descriptor stores it: short frames are sent with
the minimal length. -/
def linearLength (skb : SkBuff) : Nat :=
  if skb.nrFrags = 0 ∧ skb.headlen < minPacketLen then minPacketLen else skb.headlen % 2 ^ 16

/-- Point the descriptor at `cur_index` at some data, record the buffer and step. -/
def fillSlot (ring : TxRing) (dataPtr length : Nat) (owner : Option SkBuff) : TxRing where
  desc := setSlot ring.desc ring.curIndex
    { slot ring.desc ring.curIndex with dataPtr := dataPtr, length := length }
  skbPtr := setSlot ring.skbPtr ring.curIndex owner
  curIndex := wrap starGswMaxTfdNum ring.curIndex

/-- The descriptor of the linear part. -/
def fillLinear (skb : SkBuff) (ring : TxRing) : TxRing :=
  fillSlot ring (virtToPhys skb.data) (linearLength skb)
    (if skb.nrFrags ≠ 0 then none else some skb)

/-- The second walk: one descriptor for each fragment, from fragment `f` on. -/
def fillFrags (skb : SkBuff) (ring : TxRing) (f : Nat) : List SkbFrag → TxRing
  | [] => ring
  | frag :: frags =>
    fillFrags skb
      (fillSlot ring (virtToPhys (frag.pageAddress + frag.pageOffset)) (frag.size % 2 ^ 16)
        (if f = skb.nrFrags - 1 then some skb else none)) (f + 1) frags

/-- The third walk: give `left` descriptors from `orgIndex` to the hardware. -/
def handOver (ring : TxRing) (orgIndex : Nat) : Nat → TxRing
  | 0 => ring
  | left + 1 =>
    handOver (ring.setDesc orgIndex { slot ring.desc orgIndex with cown := false })
      (wrap starGswMaxTfdNum orgIndex) left

/-- The counters after a frame. -/
def countSent (dev : NetDevice) (skb : SkBuff) (driver : TxDriver) : TxDriver :=
  let bump (stats : TxStats) : TxStats := ⟨stats.packets + 1, stats.bytes + skb.len⟩
  if dev.wan then { driver with wanStats := bump driver.wanStats }
  else { driver with lanStats := bump driver.lanStats }

/-- How a call of `star_gsw_send_packet` ends. -/
inductive SendResult where
  /-- Return value 1: the caller keeps the buffer. -/
  | busy (driver : TxDriver)
  /-- Return value 0: the driver keeps the buffer. -/
  | sent (driver : TxDriver)
  /-- Undefined behaviour: a store past the end of `skb_free`. -/
  | overrun

/-- `star_gsw_send_packet`. -/
def starGswSendPacket (driver : TxDriver) (skb : SkBuff) (dev : NetDevice) : SendResult :=
  -- HAL_GSW_TS_DMA_STOP() comes before the ring is looked at
  let driver := { driver with tsDma := false }
  match claim skb dev driver.ring driver.ring.curIndex 0 [] (skb.nrFrags + 1) with
  | .busy ring => .busy { driver with ring := ring }
  | .overrun => .overrun
  | .claimed ring skbFree =>
    let filled := fillFrags skb (fillLinear skb ring) 0 skb.frags
    let ring := handOver filled driver.ring.curIndex (skb.nrFrags + 1)
    .sent { countSent dev skb { driver with ring := ring, tsDma := true } with
      freed := driver.freed ++ skbFree }

/-- `star_gsw_enable`: receive DMA and the interrupt lines, nothing of the transmit side. -/
def starGswEnable (driver : TxDriver) : TxDriver :=
  { driver with fsDma := true, statusMasked := false, fsrcMasked := false }

/-- `star_gsw_timeout`, called by the transmit watchdog. -/
def starGswTimeout (driver : TxDriver) : TxDriver :=
  { starGswEnable driver with queueStopped := false }

/-! ## The driver among its callers and the hardware -/

/-- The driver, the hardware's position in the ring and the buffers accepted so far. -/
structure TxWorld where
  /-- The driver. -/
  driver : TxDriver
  /-- The descriptor the hardware completes next. -/
  tssd : Nat
  /-- The buffers of the calls that returned 0, in order. -/
  accepted : List SkBuff
  deriving DecidableEq

/-- What can happen next. -/
inductive TxEvent where
  /-- A call of `star_gsw_send_packet`. -/
  | send (skb : SkBuff) (dev : NetDevice)
  /-- The hardware completes its next descriptor. -/
  | complete
  /-- A call of `star_gsw_timeout`. -/
  | timeout

/-- The state after `star_gsw_buffer_alloc`, with transmit DMA not yet started. -/
def txInit : TxWorld where
  driver :=
    { ring := txRingAlloc, tsDma := false, fsDma := false, statusMasked := true,
      fsrcMasked := true, queueStopped := false, wanStats := {}, lanStats := {}, freed := [] }
  tssd := 0
  accepted := []

/-- The hardware sets `cown` on the descriptor it is at, if the hardware owns it. -/
def hwComplete (w : TxWorld) : Option TxWorld :=
  let d := slot w.driver.ring.desc w.tssd
  if d.cown then none
  else some { w with
    driver := { w.driver with ring := w.driver.ring.setDesc w.tssd { d with cown := true } }
    tssd := wrap starGswMaxTfdNum w.tssd }

/-- One event; an inner `none` is the state after undefined behaviour. A buffer that was
accepted belongs to the driver, so no caller passes it again. -/
def txStep : Option TxWorld → TxEvent → Option (Option TxWorld)
  | none, _ => none
  | some w, .send skb dev =>
    if skb.id ∈ w.accepted.map SkBuff.id then none
    else
      match starGswSendPacket w.driver skb dev with
      | .busy driver => some (some { w with driver := driver })
      | .sent driver => some (some { w with driver := driver, accepted := w.accepted ++ [skb] })
      | .overrun => some none
  | some w, .complete => (hwComplete w).map some
  | some w, .timeout => some (some { w with driver := starGswTimeout w.driver })

/-- The transmit side as a transition system. -/
def txSystem : System (Option TxWorld) TxEvent where
  init w := w = some txInit
  step := txStep

end Fvs318g.Gsw
