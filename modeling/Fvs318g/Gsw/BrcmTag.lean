import Fvs318g.Gsw.Arl
import Fvs318g.Gsw.Transmit

/-!
# Management tags and IGMP snooping

With snooping on, the LAN port of the switch expects a four-byte tag after the two MAC
addresses of every frame, and puts one into every frame it delivers. `brcmTagAdd` makes
room in the buffer and writes the tag, with the ports of a multicast group taken from the
ARL table. `brcmTagDelete` removes the tag of a received frame and, before that, follows
IGMP joins and leaves in the table. `star_gsw_send_packet_wrapper` calls `brcmTagAdd` on
every transmit attempt, and the queueing layer repeats an attempt that was busy. On the way
up `eth_type_trans` classifies the frame as it arrived and `brcmTagDelete` runs after it.
-/

namespace Fvs318g.Gsw

open Kernel Lib

/-- `BRCM_TAG_SIZE`. -/
def brcmTagSize : Nat := 4

/-- `ETH_MAC_ADDR_BYTES`. -/
def ethMacAddrBytes : Nat := 12

/-- `IGMP_JOIN`. -/
def igmpJoin : UInt8 := 0x16

/-- `IGMP_LEAVE`. -/
def igmpLeave : UInt8 := 0x17

/-- `ETH_LAN_INT`. -/
def ethLanInt : String := "eth0"

/-- `igmp_v3_mcast_dest_Mac`. -/
def igmpV3McastDestMac : MacAddr := ⟨0x01, 0x00, 0x5e, 0x00, 0x00, 0x22⟩

/-- `igmp_v2_query_dest_Mac`. -/
def igmpV2QueryDestMac : MacAddr := ⟨0x01, 0x00, 0x5e, 0x00, 0x00, 0x01⟩

/-- `igmp_v2_leave_dest_Mac`. -/
def igmpV2LeaveDestMac : MacAddr := ⟨0x01, 0x00, 0x5e, 0x00, 0x00, 0x02⟩

namespace MacAddr

/-- `!memcmp(mac, multicast_dest_Mac, 3)`. -/
def isMulticast (mac : MacAddr) : Bool := mac.b0 == 0x01 && mac.b1 == 0x00 && mac.b2 == 0x5e

end MacAddr

/-! ## `brcmTagDelete` -/

/-- The entry that stands for a member of a group on a port. -/
def groupEntry (mac : MacAddr) (port age : Nat) : GswArlTableEntry where
  filter := 0
  vlanMac := 1
  vlanGid := port
  ageField := age
  portMap := port
  macAddr := mac

/-- The join half: the destination on the port is written, unless it is there. -/
def snoopJoin (table : ArlTable) (mac : MacAddr) (port : Nat) : List GswArlTableEntry :=
  if starGswSearchArlTable table mac port then [] else [groupEntry mac port 0x7]

/-- The leave half: the group on the port is written as invalid, if it is there. -/
def snoopLeave (table : ArlTable) (mac : MacAddr) (port : Nat) : List GswArlTableEntry :=
  if starGswSearchArlTable table mac port then [groupEntry mac port 0x0] else []

/-- The group of a leave message, rebuilt from the last three bytes of the IP address. -/
def leaveMac (m : Memory) (data : Nat) : MacAddr :=
  ⟨0x01, 0x00, 0x5e, m (data + 37) &&& 0x7f, m (data + 38), m (data + 39)⟩

/-- The entries that `brcmTagDelete` writes to the table, in order. -/
def snoopWrites (m : Memory) (table : ArlTable) (skb : SkBuff) : List GswArlTableEntry :=
  let mac := macAt m skb.macRaw
  let port := (m (skb.macRaw + 15) &&& 0x1f).toNat
  if mac.isMulticast ∧ mac ≠ igmpV3McastDestMac then
    let joined := if m (skb.data + 32) = igmpJoin then snoopJoin table mac port else []
    let table := joined.foldl starGswWriteArlTableEntry table
    let left :=
      if mac = igmpV2LeaveDestMac ∧ m (skb.data + 32) = igmpLeave then
        snoopLeave table (leaveMac m skb.data) port
      else []
    joined ++ left
  else []

/-- What `brcmTagDelete` does to the table. -/
def snoop (m : Memory) (table : ArlTable) (skb : SkBuff) : ArlTable :=
  (snoopWrites m table skb).foldl starGswWriteArlTableEntry table

/-- `brcmTagDelete`. -/
def brcmTagDelete (m : Memory) (table : ArlTable) (skb : SkBuff) : Memory × ArlTable × SkBuff :=
  let table := snoop m table skb
  let m := memmove m (skb.macRaw + brcmTagSize) skb.macRaw ethMacAddrBytes
  let macRaw := skb.macRaw + brcmTagSize
  let protocol : UInt16 := ((m (macRaw + 12)).toUInt16 <<< 8) + (m (macRaw + 13)).toUInt16
  (m, table, { skb with
    macRaw := macRaw
    data := skb.data + brcmTagSize
    len := skb.len - brcmTagSize
    protocol := htons protocol })

/-! ## `brcmTagAdd`

The function runs on a memory that remembers what was written. -/

/-- Pad a short frame to 60 bytes, at the tail or else by moving it down; without room it
stays short. -/
def brcmPadTraced (t : Traced) (skb : SkBuff) : Traced × SkBuff :=
  if skb.len < 60 then
    let padLen := 60 - skb.len
    if skb.tailroom < padLen then
      if skb.headroom > padLen then
        ((t.memmove (skb.data - padLen) skb.data skb.len).memset (skb.data - padLen + skb.len) 0
          padLen, skb.push padLen)
      else (t, skb)
    else (t.memset (skb.data + skb.len) 0 padLen, skb.put padLen)
  else (t, skb)

/-- Lengthen the frame by the tag, at the tail or else by moving it down; without room it
keeps its length. -/
def brcmRoomTraced (t : Traced) (skb : SkBuff) : Traced × SkBuff :=
  if skb.tailroom > brcmTagSize then (t, skb.put brcmTagSize)
  else if skb.headroom > brcmTagSize then
    ((t.memmove (skb.data - brcmTagSize) skb.data skb.len).memset
      (skb.data - brcmTagSize + skb.len) 0 brcmTagSize, skb.push brcmTagSize)
  else (t, skb)

/-- The ports of a multicast group: bit `i` says that the search for group id `i` hits. -/
def groupPorts (table : ArlTable) (mac : MacAddr) : Nat :=
  (List.range 8).foldl
    (fun pMap i => if starGswSearchArlTable table mac i then pMap ||| (0x1 <<< i) else pMap) 0

/-- The four bytes of the tag for a destination. -/
def brcmTag (table : ArlTable) (mac : MacAddr) : List UInt8 :=
  if mac.isMulticast ∧ mac ≠ igmpV2QueryDestMac then
    [0x20, 0x00, 0x00, UInt8.ofNat (groupPorts table mac)]
  else [0x00, 0x00, 0x00, 0x00]

/-- `brcmTagAdd`, with its result: it always reports success. The length of the last move is
computed in unsigned arithmetic. -/
def brcmTagAddTraced (t : Traced) (table : ArlTable) (skb : SkBuff) : Traced × SkBuff × Int :=
  let (t, skb) := brcmPadTraced t skb
  let (t, skb) := brcmRoomTraced t skb
  let t := t.memmove (skb.data + 16) (skb.data + 12) ((skb.len + 2 ^ 32 - 12) % 2 ^ 32)
  (t.store (skb.data + 12) (brcmTag table (macAt t.memory skb.data)), skb, 0)

/-- What `brcmTagAdd` does to the memory and the buffer. -/
def brcmTagAdd (m : Memory) (table : ArlTable) (skb : SkBuff) : Memory × SkBuff :=
  let (t, skb, _) := brcmTagAddTraced ⟨m, []⟩ table skb
  (t.memory, skb)

/-! ## Transmit attempts -/

/-- The state that an attempt of the queueing layer meets. -/
structure Attempt where
  /-- The driver, with its ring. -/
  driver : TxDriver
  /-- The ARL table. -/
  table : ArlTable

/-- `star_gsw_send_packet_wrapper`, on a buffer whose device has the name `devName`. -/
def starGswSendPacketWrapper (igmpSnoopStatus : Bool) (devName : String) (m : Memory)
    (attempt : Attempt) (skb : SkBuff) (dev : NetDevice) : Memory × SkBuff × SendResult :=
  let (m, skb) :=
    if devName = ethLanInt ∧ igmpSnoopStatus then brcmTagAdd m attempt.table skb else (m, skb)
  (m, skb, starGswSendPacket attempt.driver skb dev)

/-- What the hardware reads for one descriptor. -/
def hwFrame (m : Memory) (d : TxDesc) : List UInt8 := bytes m (physToVirt d.dataPtr) d.length

/-- `qdisc_restart` on one buffer: a busy attempt requeues the buffer as the driver left it,
and the next one starts from there. The result is the frame that the hardware reads from
the first descriptor of the accepted buffer. -/
def transmit (igmpSnoopStatus : Bool) (devName : String) (dev : NetDevice) :
    List Attempt → Memory → SkBuff → Option (List UInt8)
  | [], _, _ => none
  | attempt :: rest, m, skb =>
    match starGswSendPacketWrapper igmpSnoopStatus devName m attempt skb dev with
    | (m, skb, .busy _) => transmit igmpSnoopStatus devName dev rest m skb
    | (m, _, .sent driver) =>
      some (hwFrame m (slot driver.ring.desc attempt.driver.ring.curIndex))
    | (_, _, .overrun) => none

/-! ## Receiving -/

/-- `ETH_HLEN`. -/
def ethHlen : Nat := 14

/-- `ETH_P_802_3`. -/
def ethP8023 : UInt16 := 0x0001

/-- `ETH_P_802_2`. -/
def ethP8022 : UInt16 := 0x0004

/-- `skb->pkt_type`, as far as `eth_type_trans` sets it. -/
inductive PktType where
  /-- `PACKET_HOST`. -/
  | host
  /-- `PACKET_BROADCAST`. -/
  | broadcast
  /-- `PACKET_MULTICAST`. -/
  | multicast
  /-- `PACKET_OTHERHOST`. -/
  | otherhost
  deriving DecidableEq, Repr

/-- The addresses of a device that `eth_type_trans` compares with. -/
structure EthAddrs where
  /-- `dev->dev_addr`. -/
  devAddr : MacAddr
  /-- `dev->broadcast`. -/
  broadcast : MacAddr

/-- A half word as a little-endian machine loads it. -/
def loadHalf (m : Memory) (a : Nat) : UInt16 := (m a).toUInt16 + ((m (a + 1)).toUInt16 <<< 8)

/-- The packet type that `eth_type_trans` derives from the destination. -/
def ethPktType (dev : EthAddrs) (dest : MacAddr) (pktType : PktType) : PktType :=
  if 0x01 &&& dest.b0 ≠ 0 then
    if dest = dev.broadcast then .broadcast else .multicast
  else if dest ≠ dev.devAddr then .otherhost
  else pktType

/-- `eth_type_trans`: the buffer behind its header, its packet type and the protocol. -/
def ethTypeTrans (m : Memory) (dev : EthAddrs) (pktType : PktType) (skb : SkBuff) :
    SkBuff × PktType × UInt16 :=
  let skb := { skb with macRaw := skb.data }.pull ethHlen
  let hProto := loadHalf m (skb.macRaw + 12)
  let protocol :=
    if 1536 ≤ htons hProto then hProto
    else if loadHalf m skb.data = 0xFFFF then htons ethP8023
    else htons ethP8022
  (skb, ethPktType dev (macAt m skb.macRaw) pktType, protocol)

/-- What the receive path hands on. -/
structure Handed where
  /-- The memory. -/
  memory : Memory
  /-- The ARL table. -/
  table : ArlTable
  /-- The buffer. -/
  skb : SkBuff
  /-- Its packet type. -/
  pktType : PktType

/-- The part of `star_gsw_receive_packet` between the checksum and the upper layers, on a
buffer whose device has the name `devName`. -/
def receiveFrame (igmpSnoopStatus : Bool) (devName : String) (dev : EthAddrs) (m : Memory)
    (table : ArlTable) (pktType : PktType) (skb : SkBuff) : Handed :=
  let typed := ethTypeTrans m dev pktType skb
  let skb := { typed.1 with protocol := typed.2.2 }
  if devName = ethLanInt ∧ igmpSnoopStatus then
    let deleted := brcmTagDelete m table skb
    ⟨deleted.1, deleted.2.1, deleted.2.2, typed.2.1⟩
  else ⟨m, table, skb, typed.2.1⟩

end Fvs318g.Gsw
