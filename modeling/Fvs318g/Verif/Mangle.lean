import Fvs318g.Verif.SeqAdjust
import Fvs318g.Verif.SeqPacket

/-!
# Replacing text in a packet

`ip_nat_mangle_tcp_packet` moves the end of the payload, writes the length into the IP header, and
computes both checksums again. The packet that it leaves is well formed whatever the checksums were
before; only the named fields of the two headers differ, and the payload is the old one with the
text in its place. The offsets of the direction go on standing for the edits of the stream, with the
new one if it is the first or behind the last one.
-/

namespace Fvs318g.Verif.Mangle

open Lib Kernel Netfilter Checksum ManipPkt
open NatRoundTrip (TcpPacket)
open SeqPacket (seqOf get32_congr)
open SeqAdjust (Matches matches_adjust nearLast record window)

/-! ## A checksum that is computed again -/

/-- A sum over a buffer in which the complement of the sum was stored is all ones. -/
theorem fold16_complement {data : List UInt8} {off extra : Nat} {check : UInt16}
    (even : off % 2 = 0) (inside : off + 2 ≤ data.length) (cleared : get16 data off = 0)
    (complement : check.toNat = 0xffff - fold16 (wordSum data + extra))
    (positive : 0 < wordSum (set16 data off check) + extra) :
    0xffff - fold16 (wordSum (set16 data off check) + extra) = 0 := by
  have stored := wordSum_set16 check even inside
  rw [cleared, UInt16.toNat_zero, Nat.add_zero] at stored
  have balanced := complement_fold16 (wordSum data + extra)
  have all : fold16 (wordSum (set16 data off check) + extra) = fold16 65535 := by
    rw [fold16_eq_iff]
    unfold Nat.ModEq at stored
    omega
  rw [all]
  rfl

/-- The IP header behind `ip_send_check`. -/
theorem iphdr_ipSendCheck (data : List UInt8) :
    iphdr (ipSendCheck data) 0 = set16 (set16 (iphdr data 0) iphCheck 0) iphCheck
      (ipFastCsum (set16 (iphdr data 0) iphCheck 0)) := by
  have header : ∀ (d : List UInt8) (v : UInt16), iphdr (set16 d iphCheck v) 0 =
      set16 (iphdr d 0) iphCheck v := by
    intro d v
    rw [iphdr, set16, iphdrLen_setField _ _ (by decide), List.drop_zero, take_setField, iphdr,
      List.drop_zero, set16]
  rw [ipSendCheck, header, header]

/-- `ip_send_check` leaves a header that a receiver accepts. -/
theorem ipFastCsum_ipSendCheck {data : List UInt8} (long : 20 ≤ iphdrLen data 0)
    (full : iphdrLen data 0 ≤ data.length) : ipFastCsum (iphdr (ipSendCheck data) 0) = 0 := by
  have length : (iphdr data 0).length = iphdrLen data 0 := by
    rw [iphdr, List.length_take, List.drop_zero]
    omega
  have multiple : iphdrLen data 0 % 4 = 0 := by
    unfold iphdrLen
    omega
  have first : byteAt (iphdr data 0) 0 = byteAt data 0 := by
    rw [iphdr, byteAt_take _ (by omega), List.drop_zero]
  have positive : 0 < byteAt data 0 := by
    unfold iphdrLen at long
    omega
  rw [iphdr_ipSendCheck]
  generalize iphdr data 0 = header at length first
  have csum : ∀ {h : List UInt8}, h.length = header.length →
      (ipFastCsum h).toNat = 0xffff - fold16 (wordSum h) := by
    intro h same
    apply toNat_ipFastCsum
    · intro none
      rw [none, List.length_nil] at same
      omega
    · omega
  have size : ∀ v : UInt16, (set16 header iphCheck v).length = header.length := fun v =>
    length_setField header iphCheck 2 v.toNat
  apply UInt16.toNat_inj.mp
  rw [csum (by rw [set16, length_setField, size]), UInt16.toNat_zero]
  have counts := byteAt_le_wordSum (set16 (set16 header iphCheck 0) iphCheck
    (ipFastCsum (set16 header iphCheck 0))) 0
  rw [set16, byteAt_setField _ _ (.inl (by decide)), set16,
    byteAt_setField _ _ (.inl (by decide)), first] at counts
  refine @fold16_complement _ iphCheck 0 _ rfl ?_ ?_ (csum (size 0)) ?_
  · rw [size]
    unfold iphCheck
    omega
  · exact get16_set16 0 (by unfold iphCheck; omega)
  · exact Nat.lt_of_lt_of_le positive counts

/-- The segment with a field of it written. -/
theorem segment_set16 {data : List UInt8} (off : Nat) (v : UInt16) (long : 20 ≤ iphdrLen data 0) :
    ipSegment (set16 data (iphdrLen data 0 + off) v) = set16 (ipSegment data) off v := by
  rw [ipSegment, set16, iphdrLen_setField _ _ (by omega), drop_setField, ipSegment, set16]

/-- The new checksum of a TCP segment is one that a receiver accepts. -/
theorem segmentCheck_tcpSendCheck {data : List UInt8} (packet : TcpPacket data) :
    segmentCheck (tcpSendCheck data) 6 = 0 := by
  have long := packet.long
  have full := packet.full
  unfold tcphdrSize at full
  have length : (ipSegment data).length = data.length - iphdrLen data 0 := List.length_drop
  have same : ∀ (d : List UInt8) (v : UInt16), SameHeader data d →
      SameHeader data (set16 d (iphdrLen data 0 + tcphCheck) v) := fun d v known =>
    known.write v (Nat.le_add_right _ _)
  have first := same data 0 ⟨rfl, rfl⟩
  have second := same _ (segmentCheck (set16 data (iphdrLen data 0 + tcphCheck) 0) 6) first
  have again : ipSegment (tcpSendCheck data) = set16 (set16 (ipSegment data) tcphCheck 0) tcphCheck
      (segmentCheck (set16 data (iphdrLen data 0 + tcphCheck) 0) 6) :=
    segment_set16_set16 _ _ _ _ long
  have once : ipSegment (set16 data (iphdrLen data 0 + tcphCheck) 0) =
      set16 (ipSegment data) tcphCheck 0 := segment_set16 _ _ long
  have known := toNat_segmentCheck (set16 data (iphdrLen data 0 + tcphCheck) 0) 6
  rw [once, first.addresses long, Nat.add_assoc, Nat.add_assoc] at known
  have protocol : 0 < (htons 6).toNat := by decide
  apply UInt16.toNat_inj.mp
  rw [toNat_segmentCheck, again, tcpSendCheck, second.addresses long, Nat.add_assoc, Nat.add_assoc,
    UInt16.toNat_zero]
  rw [show (set16 (set16 (ipSegment data) tcphCheck 0) tcphCheck
    (segmentCheck (set16 data (iphdrLen data 0 + tcphCheck) 0) 6)).length =
      (set16 (ipSegment data) tcphCheck 0).length from length_setField _ _ _ _]
  refine fold16_complement rfl ?_ ?_ known (by omega)
  · rw [set16, length_setField, length]
    unfold tcphCheck
    omega
  · exact get16_set16 0 (by rw [length]; unfold tcphCheck; omega)

/-! ## The packet -/

/-- A packet as another one with a text in the place of a part of the payload. -/
structure Replaced (data data' : List UInt8) (matchOffset matchLen : Nat) (rep : List UInt8) :
    Prop where
  /-- The payload. -/
  payload : data'.drop (tcpDataoff data) = (data.drop (tcpDataoff data)).take matchOffset ++ rep ++
    (data.drop (tcpDataoff data)).drop (matchOffset + matchLen)
  /-- The headers beside the length and the two checksums. -/
  headers : ∀ i < tcpDataoff data, i ∉ [2, 3, 10, 11, iphdrLen data 0 + 16, iphdrLen data 0 + 17] →
    byteAt data' i = byteAt data i
  /-- `iph->tot_len`, which has 16 bits. -/
  totLen : data'.length < 65536 → (htons (get16 data' iphTotLen)).toNat = data'.length
  /-- The checksum of the IP header. -/
  ipCheck : ipFastCsum (iphdr data' 0) = 0
  /-- The checksum of the segment. -/
  tcpCheck : segmentCheck data' 6 = 0

section Packet

variable {env : MangleEnv} {data data' : List UInt8} {thisWay natseq : NatSeq}
  {matchOffset matchLen : Nat} {rep : List UInt8}

/-- The payload as it is moved. -/
def spliced (data : List UInt8) (k matchLen : Nat) (rep : List UInt8) : List UInt8 :=
  data.take k ++ rep ++ data.drop (k + matchLen)

/-- The front stays. -/
theorem take_spliced {k n : Nat} (inside : k ≤ data.length) (below : n ≤ k) :
    (spliced data k matchLen rep).take n = data.take n := by
  have length : (data.take k).length = k := by
    rw [List.length_take]
    omega
  rw [spliced, List.append_assoc, List.take_append_of_le_length (by omega), List.take_take,
    Nat.min_eq_left below]

/-- The payload is spliced. -/
theorem drop_spliced {off : Nat} (inside : off + matchOffset ≤ data.length) :
    (spliced data (off + matchOffset) matchLen rep).drop off =
      (data.drop off).take matchOffset ++ rep ++ (data.drop off).drop (matchOffset + matchLen) := by
  have length : (data.take (off + matchOffset)).length = off + matchOffset := by
    rw [List.length_take]
    omega
  rw [spliced, List.append_assoc, List.drop_append_of_le_length (by omega), List.drop_take,
    List.append_assoc, List.drop_drop, Nat.add_sub_cancel_left, Nat.add_assoc]

/-- The bytes that the three fields leave. -/
theorem byteAt_tcpSendCheck (d : List UInt8) {i : Nat}
    (outside : i ∉ [iphdrLen d 0 + 16, iphdrLen d 0 + 17]) :
    byteAt (tcpSendCheck d) i = byteAt d i := by
  simp only [List.mem_cons, List.not_mem_nil, or_false, not_or] at outside
  have apart : i < iphdrLen d 0 + tcphCheck ∨ iphdrLen d 0 + tcphCheck + 2 ≤ i := by
    unfold tcphCheck
    omega
  rw [tcpSendCheck, set16, byteAt_setField _ _ apart, set16, byteAt_setField _ _ apart]

/-- Only the checksum field is written. -/
theorem byteAt_ipSendCheck (d : List UInt8) {i : Nat} (outside : i ∉ [10, 11]) :
    byteAt (ipSendCheck d) i = byteAt d i := by
  simp only [List.mem_cons, List.not_mem_nil, or_false, not_or] at outside
  have apart : i < iphCheck ∨ iphCheck + 2 ≤ i := by
    unfold iphCheck
    omega
  rw [ipSendCheck, set16, byteAt_setField _ _ apart, set16, byteAt_setField _ _ apart]

/-- Fields before the payload are all that is written after it was moved. -/
theorem drop_written {d : List UInt8} {n : Nat} (long : 20 ≤ iphdrLen d 0)
    (behind : iphdrLen d 0 + 20 ≤ n) (len : UInt16) :
    (tcpSendCheck (ipSendCheck (set16 d iphTotLen len))).drop n = d.drop n := by
  have total : iphTotLen + 2 ≤ n := by
    unfold iphTotLen
    omega
  have ip : iphCheck + 2 ≤ n := by
    unfold iphCheck
    omega
  have header : iphdrLen (ipSendCheck (set16 d iphTotLen len)) 0 = iphdrLen d 0 := by
    rw [ipSendCheck, set16, iphdrLen_setField _ _ (by decide), set16,
      iphdrLen_setField _ _ (by decide), set16, iphdrLen_setField _ _ (by decide)]
  have tcp : iphdrLen (ipSendCheck (set16 d iphTotLen len)) 0 + tcphCheck + 2 ≤ n := by
    unfold tcphCheck
    omega
  rw [tcpSendCheck, set16, drop_setField_of_le _ _ tcp, set16, drop_setField_of_le _ _ tcp,
    ipSendCheck, set16, drop_setField_of_le _ _ ip, set16, drop_setField_of_le _ _ ip, set16,
    drop_setField_of_le _ _ total]

/-- The corrections keep the length. -/
theorem length_mangled (d : List UInt8) (len : UInt16) :
    (tcpSendCheck (ipSendCheck (set16 d iphTotLen len))).length = d.length := by
  rw [tcpSendCheck, set16, length_setField, set16, length_setField, ipSendCheck, set16,
    length_setField, set16, length_setField, set16, length_setField]

/-- The length and both checksums of a packet with whole headers, written as `mangle_contents` and
its caller write them. -/
theorem written_headers {d : List UInt8} (packet : TcpPacket d) (len : UInt16) :
    get16 (tcpSendCheck (ipSendCheck (set16 d iphTotLen len))) iphTotLen = len ∧
      ipFastCsum (iphdr (tcpSendCheck (ipSendCheck (set16 d iphTotLen len))) 0) = 0 ∧
      segmentCheck (tcpSendCheck (ipSendCheck (set16 d iphTotLen len))) 6 = 0 := by
  have long := packet.long
  have full := packet.full
  unfold tcphdrSize at full
  have first : iphdrLen (set16 d iphTotLen len) 0 = iphdrLen d 0 := by
    rw [set16, iphdrLen_setField _ _ (by decide)]
  have second : iphdrLen (ipSendCheck (set16 d iphTotLen len)) 0 = iphdrLen d 0 := by
    rw [ipSendCheck, set16, iphdrLen_setField _ _ (by decide), set16,
      iphdrLen_setField _ _ (by decide), first]
  have length : (ipSendCheck (set16 d iphTotLen len)).length = d.length := by
    rw [ipSendCheck, set16, length_setField, set16, length_setField, set16, length_setField]
  have sent : TcpPacket (ipSendCheck (set16 d iphTotLen len)) :=
    ⟨by omega, by unfold tcphdrSize; omega⟩
  have before : iphTotLen + 2 ≤ iphdrLen (ipSendCheck (set16 d iphTotLen len)) 0 + tcphCheck := by
    rw [second]
    unfold iphTotLen
    omega
  refine ⟨?_, ?_, segmentCheck_tcpSendCheck sent⟩
  · rw [tcpSendCheck, set16, get16_setField _ _ (.inl before), set16,
      get16_setField _ _ (.inl before), ipSendCheck, set16,
      get16_setField _ _ (.inl (by decide)), set16, get16_setField _ _ (.inl (by decide)),
      get16_set16 _ (by unfold iphTotLen; omega)]
  · have behind : iphdrLen (ipSendCheck (set16 d iphTotLen len)) 0 ≤
        iphdrLen (ipSendCheck (set16 d iphTotLen len)) 0 + tcphCheck := Nat.le_add_right _ _
    have same : SameHeader (ipSendCheck (set16 d iphTotLen len))
        (tcpSendCheck (ipSendCheck (set16 d iphTotLen len))) :=
      (SameHeader.write ⟨rfl, rfl⟩ _ behind).write _ behind
    rw [same.header sent.long]
    exact ipFastCsum_ipSendCheck (by omega) (by rw [first, set16, length_setField]; omega)

/-- What `ip_nat_mangle_tcp_packet` returns when it succeeds. -/
theorem ipNatMangleTcpPacket_some
    (done : ipNatMangleTcpPacket env data thisWay matchOffset matchLen rep = some (data', natseq)) :
    data' = tcpSendCheck (mangleContents data (tcpDataoff data) matchOffset matchLen rep) ∧
      natseq = if rep.length = matchLen then thisWay
        else adjustTcpSequence thisWay (htonl (get32 data' (iphdrLen data 0 + tcphSeq)))
          (UInt32.ofInt (rep.length - matchLen)) := by
  unfold ipNatMangleTcpPacket at done
  split at done
  · cases done
  · split at done
    · cases done
    · by_cases same : rep.length = matchLen
      · rw [if_neg (not_not_intro same)] at done
        cases done
        exact ⟨rfl, (if_pos same).symm⟩
      · rw [if_pos same] at done
        cases done
        exact ⟨rfl, (if_neg same).symm⟩

/-- The packet that is left when `ip_nat_mangle_tcp_packet` succeeds. -/
theorem replaced_of_mangle (packet : TcpPacket data)
    (options : 20 ≤ tcphdrLen data (iphdrLen data 0))
    (inside : tcpDataoff data + matchOffset + matchLen ≤ data.length)
    (done : ipNatMangleTcpPacket env data thisWay matchOffset matchLen rep = some (data', natseq)) :
    Replaced data data' matchOffset matchLen rep := by
  have long := packet.long
  have start : iphdrLen data 0 + 20 ≤ tcpDataoff data := Nat.add_le_add_left options _
  -- the packet after the move, before the headers are written
  generalize moved : spliced data (tcpDataoff data + matchOffset) matchLen rep = d
  have result : data' = tcpSendCheck (ipSendCheck
      (set16 d iphTotLen (htons (UInt16.ofNat d.length)))) := by
    rw [(ipNatMangleTcpPacket_some done).1, mangleContents, ← moved]
    rfl
  have front : ∀ i < tcpDataoff data, byteAt d i = byteAt data i := by
    intro i below
    have taken := @take_spliced data matchLen rep _ (tcpDataoff data)
      (show tcpDataoff data + matchOffset ≤ data.length by omega) (Nat.le_add_right _ _)
    rw [← byteAt_take d below, ← moved, taken, byteAt_take data below]
  have header : iphdrLen d 0 = iphdrLen data 0 := by rw [iphdrLen, front 0 (by omega), iphdrLen]
  have length : tcpDataoff data ≤ d.length := by
    rw [← moved, spliced, List.length_append, List.length_append, List.length_take]
    omega
  have whole : TcpPacket d := ⟨by omega, by unfold tcphdrSize; omega⟩
  obtain ⟨total, ip, tcp⟩ := written_headers whole (htons (UInt16.ofNat d.length))
  refine ⟨?_, ?_, ?_, ?_, ?_⟩
  · rw [result, drop_written whole.long (by omega), ← moved]
    exact drop_spliced (by omega)
  · intro i below outside
    simp only [List.mem_cons, List.not_mem_nil, or_false, not_or] at outside
    have sent : iphdrLen (ipSendCheck (set16 d iphTotLen (htons (UInt16.ofNat d.length)))) 0 =
        iphdrLen data 0 := by
      rw [iphdrLen, byteAt_ipSendCheck _ (by decide), set16,
        byteAt_setField _ _ (.inl (by decide)), ← header, iphdrLen]
    rw [result, byteAt_tcpSendCheck _ (by simp [sent]; omega),
      byteAt_ipSendCheck _ (by simp; omega), set16,
      byteAt_setField _ _ (by unfold iphTotLen; omega), front i below]
  · intro fits
    rw [result, length_mangled] at fits ⊢
    rw [total, htons_htons]
    exact UInt16.toNat_ofNat_of_lt fits
  · rw [result, ip]
  · rw [result, tcp]

/-- The sequence number of the packet is in a part of the header that stays. -/
theorem seqOf_mangle (packet : TcpPacket data) (options : 20 ≤ tcphdrLen data (iphdrLen data 0))
    (replaced : Replaced data data' matchOffset matchLen rep) :
    get32 data' (iphdrLen data 0 + tcphSeq) = seqOf data := by
  have long := packet.long
  have start : iphdrLen data 0 + 20 ≤ tcpDataoff data := Nat.add_le_add_left options _
  rw [seqOf]
  apply get32_congr
  intro i low high
  unfold tcphSeq at low high
  apply replaced.headers i (by omega)
  simp only [List.mem_cons, List.not_mem_nil, or_false, not_or]
  omega

/-- The packet that `ip_nat_mangle_tcp_packet` leaves: the payload has the text in its place, the
length and both checksums are right whatever they were, and no other byte of the headers changes.
The offsets of the direction change only if the length does, and the packet is the first to change
it or lies behind the last one that did. If they stood for the edits of the stream, they stand for
them with this one recorded. -/
theorem mangle_tcp_packet (packet : TcpPacket data)
    (options : 20 ≤ tcphdrLen data (iphdrLen data 0))
    (inside : tcpDataoff data + matchOffset + matchLen ≤ data.length)
    (done : ipNatMangleTcpPacket env data thisWay matchOffset matchLen rep = some (data', natseq)) :
    Replaced data data' matchOffset matchLen rep ∧
      (natseq =
        if rep.length ≠ matchLen ∧ (thisWay.offsetBefore = thisWay.offsetAfter ∨
            before thisWay.correctionPos (htonl (seqOf data)) = true) then
          ⟨htonl (seqOf data), thisWay.offsetAfter,
            thisWay.offsetAfter + UInt32.ofInt (rep.length - matchLen)⟩
        else thisWay) ∧
      ∀ edits pos, Matches thisWay edits → UInt32.ofInt pos = htonl (seqOf data) →
        nearLast edits pos = true → rep.length < window → matchLen < window →
        Matches natseq
          (if rep.length = matchLen then edits else record edits ⟨pos, rep.length - matchLen⟩) := by
  have replaced := replaced_of_mangle packet options inside done
  have offsets := (ipNatMangleTcpPacket_some done).2
  rw [seqOf_mangle packet options replaced] at offsets
  refine ⟨replaced, ?_, ?_⟩
  · rw [offsets]
    by_cases same : rep.length = matchLen
    · rw [if_pos same, if_neg fun changed => changed.1 same]
    · rw [if_neg same, adjustTcpSequence]
      simp only [ne_eq, same, not_false_eq_true, true_and]
  · intro edits pos held number near short short'
    rw [offsets]
    by_cases same : rep.length = matchLen
    · rw [if_pos same, if_pos same]
      exact held
    · rw [if_neg same, if_neg same, ← number]
      have nonzero : (rep.length : Int) - matchLen ≠ 0 := by omega
      have low : -window < (rep.length : Int) - matchLen := by omega
      have high : (rep.length : Int) - matchLen < window := by omega
      exact matches_adjust (e := ⟨pos, rep.length - matchLen⟩) held nonzero low high near

end Packet

/-- A packet with the payload `PORT 1,2,3,4,5,6`. -/
def portPacket : List UInt8 :=
  [0x45, 0x00, 0x00, 0x3a, 0x00, 0x01, 0x00, 0x00, 0x40, 0x06, 0xa9, 0x03, 0xc0, 0xa8, 0x01, 0x02,
    0x08, 0x08, 0x08, 0x08, 0x04, 0xd2, 0x00, 0x15, 0x00, 0x00, 0x00, 0x65, 0x00, 0x00, 0x04, 0x4c,
    0x50, 0x18, 0x04, 0x00, 0x23, 0x85, 0x00, 0x00, 0x50, 0x4f, 0x52, 0x54, 0x20, 0x31, 0x2c, 0x32,
    0x2c, 0x33, 0x2c, 0x34, 0x2c, 0x35, 0x2c, 0x36, 0x0d, 0x0a]

/-- The text `10,0,0,1,19,136`. -/
def portText : List UInt8 :=
  [0x31, 0x30, 0x2c, 0x30, 0x2c, 0x30, 0x2c, 0x31, 0x2c, 0x31, 0x39, 0x2c, 0x31, 0x33, 0x36]

/-- The packet with the text in it. -/
def portPacketOut : List UInt8 :=
  [0x45, 0x00, 0x00, 0x3e, 0x00, 0x01, 0x00, 0x00, 0x40, 0x06, 0xa8, 0xff, 0xc0, 0xa8, 0x01, 0x02,
    0x08, 0x08, 0x08, 0x08, 0x04, 0xd2, 0x00, 0x15, 0x00, 0x00, 0x00, 0x65, 0x00, 0x00, 0x04, 0x4c,
    0x50, 0x18, 0x04, 0x00, 0xae, 0x34, 0x00, 0x00, 0x50, 0x4f, 0x52, 0x54, 0x20, 0x31, 0x30, 0x2c,
    0x30, 0x2c, 0x30, 0x2c, 0x31, 0x2c, 0x31, 0x39, 0x2c, 0x31, 0x33, 0x36, 0x0d, 0x0a]

/-- The first edit of a stream, and one before an edit at 200, which leaves the offsets. -/
theorem mangle_tcp_packet_port :
    ipNatMangleTcpPacket ⟨fun _ => true, 0, true⟩ portPacket ⟨0, 0, 0⟩ 5 11 portText =
        some (portPacketOut, ⟨101, 0, 4⟩) ∧
      Replaced portPacket portPacketOut 5 11 portText ∧ Matches ⟨101, 0, 4⟩ [⟨101, 4⟩] ∧
    ipNatMangleTcpPacket ⟨fun _ => true, 0, true⟩ portPacket ⟨200, 0, 5⟩ 5 11 portText =
        some (portPacketOut, ⟨200, 0, 5⟩) ∧ Matches ⟨200, 0, 5⟩ [⟨200, 5⟩] := by
  have packet : TcpPacket portPacket := ⟨by decide, by decide⟩
  have done : ipNatMangleTcpPacket ⟨fun _ => true, 0, true⟩ portPacket ⟨0, 0, 0⟩ 5 11 portText =
      some (portPacketOut, ⟨101, 0, 4⟩) := by decide +kernel
  have done' : ipNatMangleTcpPacket ⟨fun _ => true, 0, true⟩ portPacket ⟨200, 0, 5⟩ 5 11 portText =
      some (portPacketOut, ⟨200, 0, 5⟩) := by decide +kernel
  have first := mangle_tcp_packet packet (by decide) (by decide) done
  have second := mangle_tcp_packet packet (by decide) (by decide) done'
  refine ⟨done, first.1, ?_, done', ?_⟩
  · have number : UInt32.ofInt 101 = htonl (seqOf portPacket) := by decide +kernel
    exact first.2.2 [] 101 ⟨rfl, rfl⟩ number rfl (by decide) (by decide)
  · have number : UInt32.ofInt 101 = htonl (seqOf portPacket) := by decide +kernel
    have held : Matches ⟨200, 0, 5⟩ [⟨200, 5⟩] := ⟨rfl, rfl, rfl, by decide, by decide, by decide⟩
    exact second.2.2 [⟨200, 5⟩] 101 held number rfl (by decide) (by decide)

end Fvs318g.Verif.Mangle
