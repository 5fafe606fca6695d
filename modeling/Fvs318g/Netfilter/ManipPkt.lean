import Fvs318g.Kernel.Base
import Fvs318g.Kernel.Checksum
import Fvs318g.Lib.Fields
import Fvs318g.Netfilter.Nat

/-!
# Rewriting the headers of a packet

`manip_pkt` of `ip_nat_core.c` and its protocol parts (`ip_nat_proto_tcp.c`, `ip_nat_proto_udp.c`,
`ip_nat_proto_icmp.c`), `invert_tuplepr` with the protocols of `ip_conntrack`, and `ip_nat_packet`,
which decides what to rewrite. A packet is the bytes at
`skb->data`, from its IP header on; header fields are named by their offsets and hold values in
network order. Checksums are not computed again but corrected by the difference.
-/

namespace Fvs318g.Netfilter

open Lib Kernel

/-! ## Fields of the headers -/

/-- A 16-bit field. -/
def get16 (data : List UInt8) (off : Nat) : UInt16 := UInt16.ofNat (fieldAt data off 2)

/-- A 32-bit field. -/
def get32 (data : List UInt8) (off : Nat) : UInt32 := UInt32.ofNat (fieldAt data off 4)

/-- Write a 16-bit field. -/
def set16 (data : List UInt8) (off : Nat) (v : UInt16) : List UInt8 := setField data off 2 v.toNat

/-- Write a 32-bit field. -/
def set32 (data : List UInt8) (off : Nat) (v : UInt32) : List UInt8 := setField data off 4 v.toNat

/-- `iph->ihl * 4`. -/
def iphdrLen (data : List UInt8) (iphdroff : Nat) : Nat := byteAt data iphdroff % 16 * 4

/-- The header at an offset, with its options: what `ip_fast_csum` is given. -/
def iphdr (data : List UInt8) (iphdroff : Nat) : List UInt8 :=
  (data.drop iphdroff).take (iphdrLen data iphdroff)

/-- Offset of `iph->check`. -/
def iphCheck : Nat := 10

/-- Offset of `iph->saddr`. -/
def iphSaddr : Nat := 12

/-- Offset of `iph->daddr`. -/
def iphDaddr : Nat := 16

/-- `sizeof(struct iphdr)`. -/
def iphdrSize : Nat := 20

/-- Offset of the address that a manipulation changes. -/
def ManipType.addrField : ManipType → Nat
  | .src => iphSaddr
  | .dst => iphDaddr

/-- Offset of the port that a manipulation changes, in a TCP or UDP header. -/
def ManipType.portField : ManipType → Nat
  | .src => 0
  | .dst => 2

/-- The address that a manipulation writes. -/
def Tuple.ip (t : Tuple) : ManipType → UInt32
  | .src => t.src.ip
  | .dst => t.dst.ip

/-- `skb_make_writable`; the argument says whether a copy or a pull of that length succeeds. -/
def skbMakeWritable (writable : Nat → Bool) (data : List UInt8) (writableLen : Nat) : Bool :=
  decide (writableLen ≤ data.length) && writable writableLen

/-! ## Checksums of a packet -/

/-- What is behind the IP header. -/
def ipSegment (data : List UInt8) : List UInt8 := data.drop (iphdrLen data 0)

/-- `csum_tcpudp_magic` of a packet as it is, as `tcp_v4_check` is used: zero if the checksum of the
segment is right. -/
def segmentCheck (data : List UInt8) (proto : UInt16) : UInt16 :=
  csumTcpudpMagic (get32 data iphSaddr) (get32 data iphDaddr)
    (UInt16.ofNat (ipSegment data).length) proto (csumPartial 0 (ipSegment data) 0)

/-- `csum_fold(skb_checksum(skb, hdrlen, skb->len - hdrlen, 0))`: zero if the checksum of an ICMP
message is right. -/
def messageCheck (data : List UInt8) : UInt16 := csumFold (csumPartial 0 (ipSegment data) 0)

/-! ## Correcting a checksum -/

/-- The bytes of a word in memory. -/
def wordBytes (v : UInt32) : List UInt8 := setField [0, 0, 0, 0] 0 4 v.toNat

/-- `ip_nat_cheat_check`. The array `diffs` lies on the stack, at a multiple of four. -/
def ipNatCheatCheck (oldvalinv newval : UInt32) (oldcheck : UInt16) : UInt16 :=
  csumFold (csumPartial 0 (wordBytes oldvalinv ++ wordBytes newval) (oldcheck ^^^ 0xffff).toUInt32)

/-- The correction for an address and a port. -/
def cheatBoth (oldip newip : UInt32) (oldport newport check : UInt16) : UInt16 :=
  ipNatCheatCheck (~~~oldip) newip
    (ipNatCheatCheck (oldport ^^^ 0xffff).toUInt32 newport.toUInt32 check)

/-! ## The protocols -/

/-- `sizeof(struct tcphdr)`. -/
def tcphdrSize : Nat := 20

/-- Offset of `tcph->check`. -/
def tcphCheck : Nat := 16

/-- `tcp_manip_pkt`. The header inside an ICMP error may be cut after eight bytes; then there is no
checksum to correct. -/
def tcpManipPkt (writable : Nat → Bool) (data : List UInt8) (iphdroff : Nat) (tuple : Tuple)
    (maniptype : ManipType) : Option (List UInt8) :=
  let hdroff := iphdroff + iphdrLen data iphdroff
  let hdrsize := if data.length ≥ hdroff + tcphdrSize then tcphdrSize else 8
  if skbMakeWritable writable data (hdroff + hdrsize) then
    let oldip := get32 data (iphdroff + maniptype.addrField)
    let oldport := get16 data (hdroff + maniptype.portField)
    let newport := tuple.port maniptype
    let ported := set16 data (hdroff + maniptype.portField) newport
    if hdrsize < tcphdrSize then some ported
    else
      some (set16 ported (hdroff + tcphCheck)
        (cheatBoth oldip (tuple.ip maniptype) oldport newport (get16 ported (hdroff + tcphCheck))))
  else none

/-- Offset of `udph->check`. -/
def udphCheck : Nat := 6

/-- `udp_manip_pkt`. A zero checksum means that there is none. -/
def udpManipPkt (writable : Nat → Bool) (data : List UInt8) (iphdroff : Nat) (tuple : Tuple)
    (maniptype : ManipType) : Option (List UInt8) :=
  let hdroff := iphdroff + iphdrLen data iphdroff
  if skbMakeWritable writable data (hdroff + 8) then
    let oldip := get32 data (iphdroff + maniptype.addrField)
    let oldport := get16 data (hdroff + maniptype.portField)
    let newport := tuple.port maniptype
    let check := get16 data (hdroff + udphCheck)
    let checked :=
      if check ≠ 0 then
        set16 data (hdroff + udphCheck)
          (cheatBoth oldip (tuple.ip maniptype) oldport newport check)
      else data
    some (set16 checked (hdroff + maniptype.portField) newport)
  else none

/-- Offset of the checksum of an ICMP header. -/
def icmphCheck : Nat := 2

/-- Offset of `un.echo.id`. -/
def icmphId : Nat := 4

/-- `icmp_manip_pkt`: the identifier is written for either kind of manipulation. -/
def icmpManipPkt (writable : Nat → Bool) (data : List UInt8) (iphdroff : Nat) (tuple : Tuple) :
    Option (List UInt8) :=
  let hdroff := iphdroff + iphdrLen data iphdroff
  if skbMakeWritable writable data (hdroff + 8) then
    let id := get16 data (hdroff + icmphId)
    let check := get16 data (hdroff + icmphCheck)
    let checked := set16 data (hdroff + icmphCheck)
      (ipNatCheatCheck (id ^^^ 0xffff).toUInt32 tuple.src.all.toUInt32 check)
    some (set16 checked (hdroff + icmphId) tuple.src.all)
  else none

/-- `p->manip_pkt` for the protocols that `ip_nat_init` registers, and `unknown_manip_pkt`. -/
def protoManipPkt (writable : Nat → Bool) (proto : UInt8) (data : List UInt8) (iphdroff : Nat)
    (tuple : Tuple) (maniptype : ManipType) : Option (List UInt8) :=
  if proto = ipprotoTcp then tcpManipPkt writable data iphdroff tuple maniptype
  else if proto = ipprotoUdp then udpManipPkt writable data iphdroff tuple maniptype
  else if proto = ipprotoIcmp then icmpManipPkt writable data iphdroff tuple
  else some data

/-! ## `manip_pkt` and `ip_nat_packet` -/

/-- The address part of `manip_pkt`. -/
def manipAddr (data : List UInt8) (iphdroff : Nat) (newip : UInt32) (maniptype : ManipType) :
    List UInt8 :=
  let off := iphdroff + maniptype.addrField
  let check := ipNatCheatCheck (~~~get32 data off) newip (get16 data (iphdroff + iphCheck))
  set32 (set16 data (iphdroff + iphCheck) check) off newip

/-- `manip_pkt`; nothing stands for the result 0. -/
def manipPkt (writable : Nat → Bool) (proto : UInt8) (data : List UInt8) (iphdroff : Nat)
    (target : Tuple) (maniptype : ManipType) : Option (List UInt8) := do
  if skbMakeWritable writable data (iphdroff + iphdrSize) then
    let data ← protoManipPkt writable proto data iphdroff target maniptype
    some (manipAddr data iphdroff (target.ip maniptype) maniptype)
  else none

/-- `ct->status & statusbit`: whether packets of a direction are rewritten by a manipulation. -/
def Conntrack.manipulates (ct : Conntrack) (dir : Dir) (mtype : ManipType) : Bool :=
  match mtype, dir with
  | .src, .original => ct.srcNat
  | .dst, .original => ct.dstNat
  | .src, .reply => ct.dstNat
  | .dst, .reply => ct.srcNat

/-- `invmap` of `ip_conntrack_proto_icmp.c`: the type that answers a type, plus one. -/
def invmap : List UInt8 := [9, 0, 0, 0, 0, 0, 0, 0, 1, 0, 0, 0, 0, 15, 14, 17, 16, 19, 18]

/-- `icmp_invert_tuple`: the identifier, and the type with the code, that it leaves in a tuple that
holds `stale`. In `dst.all` the type is the low byte and the code the high one. -/
def icmpInvertTuple (stale orig : Tuple) : UInt16 × UInt16 :=
  let inverse := invmap.getD (orig.dst.all.toNat % 256) 0
  if inverse = 0 then (stale.src.all, stale.dst.all)
  else (orig.src.all, (orig.dst.all &&& 0xff00) ||| (inverse - 1).toUInt16)

/-- `protocol->invert_tuple` for TCP and UDP, for ICMP and for any other protocol: what it leaves in
`src.all` and `dst.all`. -/
def protoInvertTuple (stale orig : Tuple) : UInt16 × UInt16 :=
  if orig.dst.protonum = ipprotoTcp ∨ orig.dst.protonum = ipprotoUdp then
    (orig.dst.all, orig.src.all)
  else if orig.dst.protonum = ipprotoIcmp then icmpInvertTuple stale orig
  else (0, 0)

/-- `invert_tuplepr` into a tuple that holds `stale`, without its result, which `ip_nat_packet` does
not look at. -/
def invertTuplepr (stale orig : Tuple) : Tuple where
  src := ⟨orig.dst.ip, (protoInvertTuple stale orig).1⟩
  dst := ⟨orig.src.ip, (protoInvertTuple stale orig).2, orig.dst.protonum, orig.dst.dir.flip⟩

/-- `ip_nat_packet`; nothing stands for `NF_DROP`. The target is not initialised: `stale` is what it
holds before. -/
def ipNatPacket (writable : Nat → Bool) (stale : Tuple) (ct : Conntrack) (dir : Dir)
    (hooknum : HookNum) (data : List UInt8) : Option (List UInt8) :=
  if ct.manipulates dir hooknum.manip then
    -- the packet is to look like the inverse of the other direction
    let target := invertTuplepr stale (ct.tuplehash dir.flip)
    manipPkt writable target.dst.protonum data 0 target hooknum.manip
  else some data

/-! ## The tuple of a packet -/

/-- Offset of `iph->frag_off`. -/
def iphFragOff : Nat := 6

/-- Offset of `iph->protocol`. -/
def iphProtocol : Nat := 9

/-- `ip_ct_get_tuple` with `tcp_pkt_to_tuple` or `udp_pkt_to_tuple`; nothing for a later fragment
or a packet without the ports. -/
def ipCtGetTuple (data : List UInt8) (iphdroff dataoff : Nat) : Option Tuple :=
  if get16 data (iphdroff + iphFragOff) &&& htons 0x1fff ≠ 0 then none
  else if dataoff + 8 ≤ data.length then
    some
      { src := ⟨get32 data (iphdroff + iphSaddr), get16 data dataoff⟩
        dst :=
          { ip := get32 data (iphdroff + iphDaddr)
            all := get16 data (dataoff + 2)
            protonum := UInt8.ofNat (byteAt data (iphdroff + iphProtocol))
            dir := .original } }
  else none

end Fvs318g.Netfilter
