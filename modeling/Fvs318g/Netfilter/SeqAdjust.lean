import Fvs318g.Lib.StreamEdit
import Fvs318g.Netfilter.ManipPkt

/-!
# Changing the length of a TCP stream

`ip_nat_helper.c`: a helper replaces text in a packet, and from there on the sequence numbers of the
two ends differ. Each direction of a connection keeps the position of its last change and the
offsets before and behind it; every later packet is corrected by them, with the selective
acknowledgements in its options. An offset is an `int32_t`, kept here as its 32-bit pattern.
-/

namespace Fvs318g.Netfilter

open Lib Kernel

/-! ## The offsets -/

/-- `after` of `net/tcp.h`. -/
def after (a b : UInt32) : Bool := before b a

/-- `struct ip_nat_seq`. -/
structure NatSeq where
  /-- `correction_pos`. -/
  correctionPos : UInt32
  /-- `offset_before`. -/
  offsetBefore : UInt32
  /-- `offset_after`. -/
  offsetAfter : UInt32
  deriving DecidableEq, Repr

/-- `adjust_tcp_sequence`, for the direction of the packet. -/
def adjustTcpSequence (thisWay : NatSeq) (seq sizediff : UInt32) : NatSeq :=
  if thisWay.offsetBefore = thisWay.offsetAfter ∨ before thisWay.correctionPos seq then
    ⟨seq, thisWay.offsetAfter, thisWay.offsetAfter + sizediff⟩
  else thisWay

/-- `newseq` of `ip_nat_seq_adjust`, in host order. -/
def newSeq (thisWay : NatSeq) (seq : UInt32) : UInt32 :=
  if after seq thisWay.correctionPos then seq + thisWay.offsetAfter else seq + thisWay.offsetBefore

/-- `newack` of `ip_nat_seq_adjust`, and the edges of a block in `sack_adjust`, in host order. -/
def newAck (otherWay : NatSeq) (ack : UInt32) : UInt32 :=
  if after (ack - otherWay.offsetBefore) otherWay.correctionPos then ack - otherWay.offsetAfter
  else ack - otherWay.offsetBefore

/-! ## Selective acknowledgements -/

/-- Offset of `tcph->seq`. -/
def tcphSeq : Nat := 4

/-- Offset of `tcph->ack_seq`. -/
def tcphAckSeq : Nat := 8

/-- `tcph->doff * 4`. -/
def tcphdrLen (data : List UInt8) (tcph : Nat) : Nat := byteAt data (tcph + 12) / 16 * 4

/-- Where the data of a segment start. -/
def tcpDataoff (data : List UInt8) : Nat := iphdrLen data 0 + tcphdrLen data (iphdrLen data 0)

/-- Two fields of the segment that are written with the correction of the checksum; the correction
for the second one is made first. -/
def correct32 (data : List UInt8) (tcph first second : Nat) (v w : UInt32) : List UInt8 :=
  let check := ipNatCheatCheck (~~~get32 data first) v
    (ipNatCheatCheck (~~~get32 data second) w (get16 data (tcph + tcphCheck)))
  set32 (set32 (set16 data (tcph + tcphCheck) check) first v) second w

/-- `sizeof(struct tcp_sack_block)`. -/
def sackBlockSize : Nat := 8

/-- The edges of the block at an offset, translated. -/
def sackBlock (natseq : NatSeq) (data : List UInt8) (tcph sackoff : Nat) : List UInt8 :=
  correct32 data tcph sackoff (sackoff + 4) (htonl (newAck natseq (htonl (get32 data sackoff))))
    (htonl (newAck natseq (htonl (get32 data (sackoff + 4)))))

/-- `sack_adjust`, for a number of blocks. -/
def sackAdjust (natseq : NatSeq) (tcph : Nat) : Nat → Nat → List UInt8 → List UInt8
  | 0, _, data => data
  | n + 1, sackoff, data =>
    sackAdjust natseq tcph n (sackoff + sackBlockSize) (sackBlock natseq data tcph sackoff)

/-- `TCPOPT_SACK`. -/
def tcpoptSack : Nat := 5

/-- The option at an offset is a list of blocks. -/
def isSack (data : List UInt8) (optoff : Nat) : Bool :=
  byteAt data optoff == tcpoptSack && decide (2 + sackBlockSize ≤ byteAt data (optoff + 1)) &&
    (byteAt data (optoff + 1) - 2) % sackBlockSize == 0

/-- The loop of `ip_nat_sack_adjust`, with at most `n` options; nothing stands for the result 0. -/
def sackOptions (natseq : NatSeq) (tcph optend : Nat) : Nat → Nat → List UInt8 → Option (List UInt8)
  | 0, _, data => some data
  | n + 1, optoff, data =>
    if optoff < optend then
      if byteAt data optoff = 0 then some data
      else if byteAt data optoff = 1 then sackOptions natseq tcph optend n (optoff + 1) data
      else
        let len := byteAt data (optoff + 1)
        -- no partial options
        if optoff + 1 = optend ∨ optoff + len > optend ∨ len < 2 then none
        else
          sackOptions natseq tcph optend n (optoff + len)
            (if isSack data optoff then
              sackAdjust natseq tcph ((len - 2) / sackBlockSize) (optoff + 2) data
            else data)
    else some data

/-- `ip_nat_sack_adjust`. -/
def ipNatSackAdjust (writable : Nat → Bool) (data : List UInt8) (natseq : NatSeq) :
    Option (List UInt8) :=
  let tcph := iphdrLen data 0
  let optoff := tcph + tcphdrSize
  let optend := tcph + tcphdrLen data tcph
  if skbMakeWritable writable data optend then
    sackOptions natseq tcph optend (optend - optoff) optoff data
  else none

/-! ## `ip_nat_seq_adjust` -/

/-- `ip_nat_seq_adjust`; nothing stands for the result 0. -/
def ipNatSeqAdjust (writable : Nat → Bool) (data : List UInt8) (thisWay otherWay : NatSeq) :
    Option (List UInt8) :=
  let tcph := iphdrLen data 0
  if skbMakeWritable writable data (tcph + tcphdrSize) then
    let newseq := htonl (newSeq thisWay (htonl (get32 data (tcph + tcphSeq))))
    let newack := htonl (newAck otherWay (htonl (get32 data (tcph + tcphAckSeq))))
    ipNatSackAdjust writable
      (correct32 data tcph (tcph + tcphSeq) (tcph + tcphAckSeq) newseq newack) otherWay
  else none

/-! ## Replacing text -/

/-- Offset of `iph->tot_len`. -/
def iphTotLen : Nat := 2

/-- `ip_send_check`. -/
def ipSendCheck (data : List UInt8) : List UInt8 :=
  let cleared := set16 data iphCheck 0
  set16 cleared iphCheck (ipFastCsum (iphdr cleared 0))

/-- `mangle_contents`: the text `rep` in the place of `matchLen` bytes, in the packet as its headers
then have it. -/
def mangleContents (data : List UInt8) (dataoff matchOffset matchLen : Nat) (rep : List UInt8) :
    List UInt8 :=
  let replaced := data.take (dataoff + matchOffset) ++ rep ++
    data.drop (dataoff + matchOffset + matchLen)
  ipSendCheck (set16 replaced iphTotLen (htons (UInt16.ofNat replaced.length)))

/-- The checksum of a TCP segment, computed again. -/
def tcpSendCheck (data : List UInt8) : List UInt8 :=
  let cleared := set16 data (iphdrLen data 0 + tcphCheck) 0
  set16 cleared (iphdrLen data 0 + tcphCheck) (segmentCheck cleared 6)

/-- What the called functions find: the room behind the packet, and whether a larger copy can be
made. -/
structure MangleEnv where
  /-- `skb_make_writable`, by length. -/
  writable : Nat → Bool
  /-- `skb_tailroom`. -/
  tailroom : Nat
  /-- `skb_copy_expand` succeeds. -/
  copied : Bool

/-- `enlarge_skb`. -/
def enlargeSkb (env : MangleEnv) (data : List UInt8) (extra : Nat) : Bool :=
  decide (data.length + extra ≤ 65535) && env.copied

/-- `ip_nat_mangle_tcp_packet`: the packet and the offsets of its direction; nothing stands for the
result 0. -/
def ipNatMangleTcpPacket (env : MangleEnv) (data : List UInt8) (thisWay : NatSeq)
    (matchOffset matchLen : Nat) (rep : List UInt8) : Option (List UInt8 × NatSeq) :=
  if !skbMakeWritable env.writable data data.length then none
  else if rep.length > matchLen ∧ rep.length - matchLen > env.tailroom ∧
      !enlargeSkb env data (rep.length - matchLen) then none
  else
    let tcph := iphdrLen data 0
    let mangled := tcpSendCheck
      (mangleContents data (tcpDataoff data) matchOffset matchLen rep)
    if rep.length ≠ matchLen then
      some (mangled, adjustTcpSequence thisWay (htonl (get32 mangled (tcph + tcphSeq)))
        (UInt32.ofInt (rep.length - matchLen)))
    else some (mangled, thisWay)

end Fvs318g.Netfilter
