import Fvs318g.Lib.System
import Fvs318g.Netfilter.ManipPkt
import Fvs318g.Verif.Checksum

/-!
# Rewriting keeps checksums

A correction by `ip_nat_cheat_check` moves a checksum by the difference of what it covers, modulo
65535. The sum over a header or a segment therefore stays the same when a field in it and its
checksum are written together, and with it what a receiver computes: a right checksum stays right,
and a wrong one stays wrong by the same amount. The corrected field of a UDP datagram can be zero,
though, and a receiver takes that for a datagram without a checksum.
-/

namespace Fvs318g.Verif.ManipPkt

open Lib Kernel Netfilter Checksum

/-! ## Fields -/

variable (data : List UInt8)

/-- Two bytes as a number. -/
theorem toNat_get16 (off : Nat) : (get16 data off).toNat = fieldAt data off 2 :=
  UInt16.toNat_ofNat_of_lt (fieldAt_lt data off 2)

/-- Four bytes as a number. -/
theorem toNat_get32 (off : Nat) : (get32 data off).toNat = fieldAt data off 4 :=
  UInt32.toNat_ofNat_of_lt (fieldAt_lt data off 4)

/-- What is written reads back. -/
theorem get16_set16 {data : List UInt8} {off : Nat} (v : UInt16) (inside : off + 2 ≤ data.length) :
    get16 (set16 data off v) off = v := by
  apply UInt16.toNat_inj.mp
  rw [toNat_get16, set16, fieldAt_setField _ inside]
  exact Nat.mod_eq_of_lt v.toNat_lt

/-- What is written reads back. -/
theorem get32_set32 {data : List UInt8} {off : Nat} (v : UInt32) (inside : off + 4 ≤ data.length) :
    get32 (set32 data off v) off = v := by
  apply UInt32.toNat_inj.mp
  rw [toNat_get32, set32, fieldAt_setField _ inside]
  exact Nat.mod_eq_of_lt v.toNat_lt

/-- A field apart from one that is written. -/
theorem get16_setField {off n off' : Nat} (v : Nat) (apart : off' + 2 ≤ off ∨ off + n ≤ off') :
    get16 (setField data off n v) off' = get16 data off' := by
  rw [get16, fieldAt_setField_of_disjoint _ _ apart, get16]

/-- A field beside the write stays. -/
theorem get32_setField {off n off' : Nat} (v : Nat) (apart : off' + 4 ≤ off ∨ off + n ≤ off') :
    get32 (setField data off n v) off' = get32 data off' := by
  rw [get32, fieldAt_setField_of_disjoint _ _ apart, get32]

/-- A 16-bit field at an even offset is a word of the sum. -/
theorem wordSum_set16 {data : List UInt8} {off : Nat} (v : UInt16) (even : off % 2 = 0)
    (inside : off + 2 ≤ data.length) :
    wordSum (set16 data off v) + (get16 data off).toNat ≡ wordSum data + v.toNat [MOD 65535] := by
  have exchanged := wordSum_setField v.toNat inside
  have small : v.toNat % 256 ^ 2 = v.toNat := Nat.mod_eq_of_lt v.toNat_lt
  rwa [weight, if_pos even, Nat.one_mul, Nat.one_mul, small, ← toNat_get16] at exchanged

/-- A 32-bit field at an even offset is two words of the sum. -/
theorem wordSum_set32 {data : List UInt8} {off : Nat} (v : UInt32) (even : off % 2 = 0)
    (inside : off + 4 ≤ data.length) :
    wordSum (set32 data off v) + (get32 data off).toNat ≡ wordSum data + v.toNat [MOD 65535] := by
  have exchanged := wordSum_setField v.toNat inside
  have small : v.toNat % 256 ^ 4 = v.toNat := Nat.mod_eq_of_lt v.toNat_lt
  rwa [weight, if_pos even, Nat.one_mul, Nat.one_mul, small, ← toNat_get32] at exchanged

/-! ## Corrections -/

/-- The complement of a halfword. -/
theorem toNat_complement16 (x : UInt16) : (x ^^^ 0xffff).toNat = 0xffff - x.toNat := by
  have flipped : x ^^^ 0xffff = ~~~x := by
    apply UInt16.toBitVec_inj.mp
    rw [UInt16.toBitVec_xor, UInt16.toBitVec_not, BitVec.not_def, BitVec.xor_comm]
    rfl
  rw [flipped, UInt16.toNat_not]
  rfl

/-- The complement of a word. -/
theorem toNat_complement32 (x : UInt32) : (~~~x).toNat = 0xffffffff - x.toNat := by
  rw [UInt32.toNat_not]
  rfl

/-- The bytes of a word have the sum of its halves. -/
theorem wordSum_wordBytes (v : UInt32) :
    wordSum (wordBytes v) = v.toNat % 2 ^ 16 + v.toNat / 2 ^ 16 := by
  have bound : v.toNat < 2 ^ 32 := v.toNat_lt
  simp only [wordBytes, setField, List.set_cons_zero, List.set_cons_succ, wordSum,
    UInt8.toNat_ofNat']
  omega

/-- What `ip_nat_cheat_check` returns. -/
theorem toNat_ipNatCheatCheck (oldvalinv newval : UInt32) (oldcheck : UInt16) :
    (ipNatCheatCheck oldvalinv newval oldcheck).toNat =
      0xffff - fold16 (0xffff - oldcheck.toNat + oldvalinv.toNat + newval.toNat) := by
  have even : (wordBytes oldvalinv).length % 2 = 0 := by
    rw [wordBytes, length_setField]
    rfl
  rw [ipNatCheatCheck, toNat_csumFold, fold16_csumPartial, UInt16.toNat_toUInt32,
    toNat_complement16, wordSum_append _ even, wordSum_wordBytes, wordSum_wordBytes]
  congr 1
  rw [fold16_eq_iff]
  omega

/-- The remainder of a complemented representation. -/
theorem complement_fold16 (n : Nat) : (0xffff - fold16 n + n) % 65535 = 0 := by
  unfold fold16
  split <;> omega

/-- A corrected checksum together with the new value is the old checksum with the old value. -/
theorem cheatCheck_modEq {oldvalinv : UInt32} {old : Nat} (newval : UInt32) (oldcheck : UInt16)
    (inverse : (oldvalinv.toNat + old) % 65535 = 0) :
    (ipNatCheatCheck oldvalinv newval oldcheck).toNat + newval.toNat ≡
      oldcheck.toNat + old [MOD 65535] := by
  have bound : oldcheck.toNat < 2 ^ 16 := oldcheck.toNat_lt
  have zero := complement_fold16 (0xffff - oldcheck.toNat + oldvalinv.toNat + newval.toNat)
  rw [toNat_ipNatCheatCheck]
  unfold Nat.ModEq
  omega

/-- A word is exchanged in the sum. -/
theorem cheatCheck32 (old newval : UInt32) (oldcheck : UInt16) :
    (ipNatCheatCheck (~~~old) newval oldcheck).toNat + newval.toNat ≡
      oldcheck.toNat + old.toNat [MOD 65535] := by
  apply cheatCheck_modEq
  have bound : old.toNat < 2 ^ 32 := old.toNat_lt
  rw [toNat_complement32]
  omega

/-- A halfword is exchanged in the sum. -/
theorem cheatCheck16 (old newval oldcheck : UInt16) :
    (ipNatCheatCheck (old ^^^ 0xffff).toUInt32 newval.toUInt32 oldcheck).toNat + newval.toNat ≡
      oldcheck.toNat + old.toNat [MOD 65535] := by
  have corrected := @cheatCheck_modEq (old ^^^ 0xffff).toUInt32 old.toNat newval.toUInt32 oldcheck
  rw [UInt16.toNat_toUInt32, UInt16.toNat_toUInt32] at corrected
  apply corrected
  have bound : old.toNat < 2 ^ 16 := old.toNat_lt
  rw [toNat_complement16]
  omega

/-- Address and port are exchanged in the sum. -/
theorem cheatBoth_modEq (oldip newip : UInt32) (oldport newport check : UInt16) :
    (cheatBoth oldip newip oldport newport check).toNat + newip.toNat + newport.toNat ≡
      check.toNat + oldip.toNat + oldport.toNat [MOD 65535] := by
  have outer := cheatCheck32 oldip newip
    (ipNatCheatCheck (oldport ^^^ 0xffff).toUInt32 newport.toUInt32 check)
  have inner := cheatCheck16 oldport newport check
  unfold cheatBoth
  unfold Nat.ModEq at outer inner ⊢
  omega

/-- When the correction gives zero. -/
theorem cheatBoth_eq_zero_iff {newip : UInt32} (given : newip ≠ 0) (oldip : UInt32)
    (oldport newport check : UInt16) :
    cheatBoth oldip newip oldport newport check = 0 ↔
      newip.toNat + newport.toNat ≡
        check.toNat + oldip.toNat + oldport.toNat [MOD 65535] := by
  have moved := cheatBoth_modEq oldip newip oldport newport check
  constructor
  · intro zero
    rwa [zero, UInt16.toNat_zero, Nat.zero_add] at moved
  · intro same
    have positive : 0 < newip.toNat := by
      have nonzero : newip.toNat ≠ 0 := fun zero => given (UInt32.toNat_inj.mp zero)
      omega
    apply UInt16.toNat_inj.mp
    -- a multiple of 65535 that is not zero folds to 0xffff, so the complement is not 0xffff
    have value := toNat_ipNatCheatCheck (~~~oldip) newip
      (ipNatCheatCheck (oldport ^^^ 0xffff).toUInt32 newport.toUInt32 check)
    rw [← cheatBoth] at value
    unfold fold16 at value
    unfold Nat.ModEq at same moved
    rw [UInt16.toNat_zero]
    split at value <;> omega

/-! ## The IP header -/

/-- The two address fields. -/
theorem addrField_cases (maniptype : ManipType) :
    maniptype.addrField = 12 ∨ maniptype.addrField = 16 := by
  cases maniptype
  · exact .inl rfl
  · exact .inr rfl

/-- A field behind the first byte of the header leaves the length of the header. -/
theorem iphdrLen_setField {iphdroff off n : Nat} (v : Nat) (behind : iphdroff < off) :
    iphdrLen (setField data off n v) iphdroff = iphdrLen data iphdroff := by
  rw [iphdrLen, byteAt_setField _ _ (.inl behind), iphdrLen]

/-- What the address part writes, seen in the header alone. -/
theorem iphdr_manipAddr (iphdroff : Nat) (newip : UInt32) (maniptype : ManipType)
    (long : 20 ≤ iphdrLen data iphdroff) :
    iphdr (manipAddr data iphdroff newip maniptype) iphdroff =
      manipAddr (iphdr data iphdroff) 0 newip maniptype := by
  have addr := addrField_cases maniptype
  have check : get16 (iphdr data iphdroff) iphCheck = get16 data (iphdroff + iphCheck) := by
    rw [get16, iphdr, fieldAt_take _ (by unfold iphCheck; omega), fieldAt_drop, get16]
  have ip : get32 (iphdr data iphdroff) maniptype.addrField =
      get32 data (iphdroff + maniptype.addrField) := by
    rw [get32, iphdr, fieldAt_take _ (by omega), fieldAt_drop, get32]
  unfold manipAddr
  simp only [Nat.zero_add, check, ip]
  rw [iphdr, set32, set16, iphdrLen_setField _ _ (by omega),
    iphdrLen_setField _ _ (by unfold iphCheck; omega), drop_setField, drop_setField, take_setField,
    take_setField]
  rfl

/-- The sum of a header does not change with an address and its correction. -/
theorem wordSum_manipAddr {header : List UInt8} (newip : UInt32) (maniptype : ManipType)
    (long : 20 ≤ header.length) :
    wordSum (manipAddr header 0 newip maniptype) ≡ wordSum header [MOD 65535] := by
  have addr := addrField_cases maniptype
  have corrected := cheatCheck32 (get32 header maniptype.addrField) newip (get16 header iphCheck)
  have first := wordSum_set16 (ipNatCheatCheck (~~~get32 header maniptype.addrField) newip
    (get16 header iphCheck)) (show iphCheck % 2 = 0 from rfl)
    (show iphCheck + 2 ≤ header.length by unfold iphCheck; omega)
  have second := @wordSum_set32 (set16 header iphCheck
    (ipNatCheatCheck (~~~get32 header maniptype.addrField) newip (get16 header iphCheck)))
    maniptype.addrField newip (by omega) (by rw [set16, length_setField]; omega)
  have kept : get32 (set16 header iphCheck (ipNatCheatCheck (~~~get32 header maniptype.addrField)
      newip (get16 header iphCheck))) maniptype.addrField = get32 header maniptype.addrField :=
    get32_setField _ _ (.inr (by unfold iphCheck; omega))
  rw [kept] at second
  unfold manipAddr
  simp only [Nat.zero_add]
  unfold Nat.ModEq at corrected first second ⊢
  omega

/-- `manip_pkt` leaves the result of `ip_fast_csum`. -/
theorem ipFastCsum_manipAddr {data : List UInt8} {iphdroff : Nat} (newip : UInt32)
    (maniptype : ManipType) (long : 20 ≤ iphdrLen data iphdroff)
    (inside : iphdroff + iphdrLen data iphdroff ≤ data.length) :
    ipFastCsum (iphdr (manipAddr data iphdroff newip maniptype) iphdroff) =
      ipFastCsum (iphdr data iphdroff) := by
  have addr := addrField_cases maniptype
  have length : (iphdr data iphdroff).length = iphdrLen data iphdroff := by
    rw [iphdr, List.length_take, List.length_drop]
    omega
  have length' : (manipAddr (iphdr data iphdroff) 0 newip maniptype).length =
      iphdrLen data iphdroff := by
    rw [manipAddr, set32, set16, length_setField, length_setField, length]
  have multiple : iphdrLen data iphdroff % 4 = 0 := by
    unfold iphdrLen
    omega
  have first : byteAt (iphdr data iphdroff) 0 = byteAt data iphdroff := by
    rw [iphdr, byteAt_take _ (by omega), byteAt_drop, Nat.add_zero]
  have first' : byteAt (manipAddr (iphdr data iphdroff) 0 newip maniptype) 0 =
      byteAt data iphdroff := by
    rw [manipAddr, set32, set16, byteAt_setField _ _ (by omega),
      byteAt_setField _ _ (by unfold iphCheck; omega), first]
  -- the first byte holds the version and the length, so that neither sum is zero
  have positive : 0 < byteAt data iphdroff := by
    unfold iphdrLen at long
    omega
  have counts := byteAt_le_wordSum (iphdr data iphdroff) 0
  have counts' := byteAt_le_wordSum (manipAddr (iphdr data iphdroff) 0 newip maniptype) 0
  have same : fold16 (wordSum (manipAddr (iphdr data iphdroff) 0 newip maniptype)) =
      fold16 (wordSum (iphdr data iphdroff)) := by
    rw [fold16_eq_iff]
    exact ⟨wordSum_manipAddr newip maniptype (by omega), by omega⟩
  apply UInt16.toNat_inj.mp
  rw [iphdr_manipAddr _ _ _ _ long, toNat_ipFastCsum, toNat_ipFastCsum, same]
  · intro none
    rw [none] at length
    simp only [List.length_nil] at length
    omega
  · omega
  · intro none
    rw [none] at length'
    simp only [List.length_nil] at length'
    omega
  · omega

/-! ## The addresses -/

/-- A new address keeps the header's length. -/
theorem iphdrLen_manipAddr (iphdroff : Nat) (newip : UInt32) (maniptype : ManipType) :
    iphdrLen (manipAddr data iphdroff newip maniptype) iphdroff = iphdrLen data iphdroff := by
  have addr := addrField_cases maniptype
  rw [manipAddr, set32, set16, iphdrLen_setField _ _ (by omega),
    iphdrLen_setField _ _ (by unfold iphCheck; omega)]

/-- The bytes behind the addresses stay. -/
theorem drop_manipAddr (newip : UInt32) (maniptype : ManipType) {k : Nat} (behind : 20 ≤ k) :
    (manipAddr data 0 newip maniptype).drop k = data.drop k := by
  have addr := addrField_cases maniptype
  rw [manipAddr, set32, set16, drop_setField_of_le _ _ (by omega),
    drop_setField_of_le _ _ (by unfold iphCheck; omega)]

/-- The address that is written. -/
theorem get32_manipAddr {data : List UInt8} (newip : UInt32) (maniptype : ManipType)
    (long : 20 ≤ data.length) :
    get32 (manipAddr data 0 newip maniptype) maniptype.addrField = newip := by
  have addr := addrField_cases maniptype
  unfold manipAddr
  rw [Nat.zero_add]
  apply get32_set32
  rw [set16, length_setField]
  omega

/-- The other manipulation. -/
def other : ManipType → ManipType
  | .src => .dst
  | .dst => .src

/-- The other address stays. -/
theorem get32_manipAddr_other (newip : UInt32) (maniptype : ManipType) :
    get32 (manipAddr data 0 newip maniptype) (other maniptype).addrField =
      get32 data (other maniptype).addrField := by
  rw [manipAddr, set32, set16]
  cases maniptype
  · rw [get32_setField _ _ (.inr (by decide)), get32_setField _ _ (.inr (by decide))]
  · rw [get32_setField _ _ (.inl (by decide)), get32_setField _ _ (.inr (by decide))]

/-- The sum of the two addresses. -/
def addrSum (data : List UInt8) : Nat := (get32 data iphDaddr).toNat + (get32 data iphSaddr).toNat

/-- The address to be rewritten and the other one. -/
theorem addrSum_eq (maniptype : ManipType) : addrSum data = (get32 data maniptype.addrField).toNat +
      (get32 data (other maniptype).addrField).toNat := by
  cases maniptype
  · exact Nat.add_comm _ _
  · rfl

/-- The new address counts for the old one. -/
theorem addrSum_manipAddr {data : List UInt8} (newip : UInt32) (maniptype : ManipType)
    (long : 20 ≤ data.length) :
    addrSum (manipAddr data 0 newip maniptype) + (get32 data maniptype.addrField).toNat =
      addrSum data + newip.toNat := by
  rw [addrSum_eq _ maniptype, addrSum_eq data maniptype, get32_manipAddr _ _ long,
    get32_manipAddr_other]
  omega

/-! ## Segments -/

/-- Two fields of a segment. -/
theorem wordSum_set16_set16 {data : List UInt8} {p c : Nat} (v w : UInt16) (evenP : p % 2 = 0)
    (evenC : c % 2 = 0) (apart : p + 2 ≤ c ∨ c + 2 ≤ p) (insideP : p + 2 ≤ data.length)
    (insideC : c + 2 ≤ data.length) :
    wordSum (set16 (set16 data p v) c w) + ((get16 data p).toNat + (get16 data c).toNat) ≡
      wordSum data + (v.toNat + w.toNat) [MOD 65535] := by
  have first := wordSum_set16 v evenP insideP
  have second := @wordSum_set16 (set16 data p v) c w evenC
    (by rw [set16, length_setField]; exact insideC)
  have kept : get16 (set16 data p v) c = get16 data c := get16_setField _ _ (by omega)
  rw [kept] at second
  unfold Nat.ModEq at first second ⊢
  omega

/-- What `csum_tcpudp_magic` computes of a packet. -/
theorem toNat_segmentCheck (proto : UInt16) : (segmentCheck data proto).toNat =
      0xffff - fold16 (wordSum (ipSegment data) + addrSum data +
        (htons (UInt16.ofNat (ipSegment data).length)).toNat + (htons proto).toNat) := by
  have summed := fold16_csumPartial 0 (ipSegment data) 0
  rw [UInt32.toNat_zero, Nat.zero_add] at summed
  rw [segmentCheck, toNat_csumTcpudpMagic, addrSum]
  congr 1
  simp only [Nat.add_assoc]
  exact fold16_add summed rfl

/-- The result stays the same when the address, the port and the correction of the checksum are
written together. -/
theorem segmentCheck_eq {data data' : List UInt8} {oldip newip : UInt32}
    {oldport newport check check' : UInt16} {proto : UInt16} (real : 0 < (htons proto).toNat)
    (length : (ipSegment data').length = (ipSegment data).length)
    (addresses : addrSum data' + oldip.toNat = addrSum data + newip.toNat)
    (fields : wordSum (ipSegment data') + (oldport.toNat + check.toNat) ≡
      wordSum (ipSegment data) + (newport.toNat + check'.toNat) [MOD 65535])
    (corrected : check'.toNat + newip.toNat + newport.toNat ≡
      check.toNat + oldip.toNat + oldport.toNat [MOD 65535]) :
    segmentCheck data' proto = segmentCheck data proto := by
  apply UInt16.toNat_inj.mp
  rw [toNat_segmentCheck, toNat_segmentCheck, length]
  congr 1
  rw [fold16_eq_iff]
  unfold Nat.ModEq at fields corrected
  omega

/-! ## What the protocols write -/

variable {d : List UInt8}

section Protocols

variable {writable : Nat → Bool} {data data' : List UInt8} {tuple : Tuple} {maniptype : ManipType}

/-- Two fields of the segment, written one after the other. -/
theorem segment_set16_set16 (p c : Nat) (v w : UInt16) (long : 20 ≤ iphdrLen data 0) :
    ipSegment (set16 (set16 data (iphdrLen data 0 + p) v) (iphdrLen data 0 + c) w) =
      set16 (set16 (ipSegment data) p v) c w := by
  rw [ipSegment, set16, set16, iphdrLen_setField _ _ (by omega), iphdrLen_setField _ _ (by omega),
    drop_setField, drop_setField, ipSegment, set16, set16]

/-- Fields of the segment lie behind the header. -/
theorem get16_segment (off : Nat) :
    get16 (ipSegment data) off = get16 data (iphdrLen data 0 + off) := by
  rw [get16, ipSegment, fieldAt_drop, get16]

/-- The two port fields. -/
theorem portField_cases (maniptype : ManipType) :
    maniptype.portField = 0 ∨ maniptype.portField = 2 := by
  cases maniptype
  · exact .inl rfl
  · exact .inr rfl

/-- `manip_pkt` runs the protocol part, then the address part. -/
theorem manipPkt_some {proto : UInt8} {iphdroff : Nat}
    (done : manipPkt writable proto data iphdroff tuple maniptype = some data') :
    ∃ d, protoManipPkt writable proto data iphdroff tuple maniptype = some d ∧
      data' = manipAddr d iphdroff (tuple.ip maniptype) maniptype := by
  unfold manipPkt at done
  split at done
  · cases proto : protoManipPkt writable proto data iphdroff tuple maniptype with
    | none => rw [proto] at done; cases done
    | some d =>
      rw [proto] at done
      exact ⟨d, rfl, (Option.some.inj done).symm⟩
  · cases done

/-- What is left of a packet with a whole TCP header. -/
theorem tcpManipPkt_some (full : iphdrLen data 0 + 20 ≤ data.length)
    (done : tcpManipPkt writable data 0 tuple maniptype = some data') :
    data' = set16 (set16 data (iphdrLen data 0 + maniptype.portField) (tuple.port maniptype))
      (iphdrLen data 0 + tcphCheck)
      (cheatBoth (get32 data maniptype.addrField) (tuple.ip maniptype)
        (get16 data (iphdrLen data 0 + maniptype.portField)) (tuple.port maniptype)
        (get16 data (iphdrLen data 0 + tcphCheck))) := by
  have port := portField_cases maniptype
  have kept : get16 (set16 data (iphdrLen data 0 + maniptype.portField) (tuple.port maniptype))
      (iphdrLen data 0 + tcphCheck) = get16 data (iphdrLen data 0 + tcphCheck) :=
    get16_setField _ _ (.inr (by unfold tcphCheck; omega))
  unfold tcpManipPkt at done
  simp only [Nat.zero_add, tcphdrSize, ge_iff_le, full, if_true, kept, Nat.lt_irrefl,
    if_false] at done
  exact (guarded_step done).2.symm

/-- What is left of a UDP datagram. -/
theorem udpManipPkt_some (done : udpManipPkt writable data 0 tuple maniptype = some data') :
    iphdrLen data 0 + 8 ≤ data.length ∧
      data' = set16
        (if get16 data (iphdrLen data 0 + udphCheck) ≠ 0 then
          set16 data (iphdrLen data 0 + udphCheck)
            (cheatBoth (get32 data maniptype.addrField) (tuple.ip maniptype)
              (get16 data (iphdrLen data 0 + maniptype.portField)) (tuple.port maniptype)
              (get16 data (iphdrLen data 0 + udphCheck)))
        else data) (iphdrLen data 0 + maniptype.portField) (tuple.port maniptype) := by
  unfold udpManipPkt at done
  simp only [Nat.zero_add] at done
  obtain ⟨fits, result⟩ := guarded_step done
  rw [skbMakeWritable, Bool.and_eq_true, decide_eq_true_eq] at fits
  exact ⟨fits.1, result.symm⟩

/-- What is left of an ICMP message. -/
theorem icmpManipPkt_some (done : icmpManipPkt writable data 0 tuple = some data') :
    iphdrLen data 0 + 8 ≤ data.length ∧
      data' = set16
        (set16 data (iphdrLen data 0 + icmphCheck)
          (ipNatCheatCheck (get16 data (iphdrLen data 0 + icmphId) ^^^ 0xffff).toUInt32
            tuple.src.all.toUInt32 (get16 data (iphdrLen data 0 + icmphCheck))))
        (iphdrLen data 0 + icmphId) tuple.src.all := by
  unfold icmpManipPkt at done
  simp only [Nat.zero_add] at done
  obtain ⟨fits, result⟩ := guarded_step done
  rw [skbMakeWritable, Bool.and_eq_true, decide_eq_true_eq] at fits
  exact ⟨fits.1, result.symm⟩

/-- The packets have the same IP header and the same length. -/
def SameHeader (data d : List UInt8) : Prop :=
  d.length = data.length ∧ d.take (iphdrLen data 0) = data.take (iphdrLen data 0)

/-- Writes behind the header keep it. -/
theorem SameHeader.write (same : SameHeader data d) {off : Nat} (v : UInt16)
    (behind : iphdrLen data 0 ≤ off) : SameHeader data (set16 d off v) := by
  constructor
  · rw [set16, length_setField, same.1]
  · rw [set16, take_setField_of_le _ _ _ behind, same.2]

/-- The length of the header. -/
theorem SameHeader.hdrLen (same : SameHeader data d) (long : 20 ≤ iphdrLen data 0) :
    iphdrLen d 0 = iphdrLen data 0 := by
  have first := congrArg (byteAt · 0) same.2
  simp only [byteAt_take _ (show 0 < iphdrLen data 0 by omega)] at first
  rw [iphdrLen, first, iphdrLen]

/-- The words of the header. -/
theorem SameHeader.word (same : SameHeader data d) {off : Nat}
    (inside : off + 4 ≤ iphdrLen data 0) : get32 d off = get32 data off := by
  have equal := congrArg (fieldAt · off 4) same.2
  simp only [fieldAt_take _ inside] at equal
  rw [get32, equal, get32]

/-- The bytes of the header. -/
theorem SameHeader.header (same : SameHeader data d) (long : 20 ≤ iphdrLen data 0) :
    iphdr d 0 = iphdr data 0 := by
  rw [iphdr, same.hdrLen long, List.drop_zero, same.2, iphdr, List.drop_zero]

/-- The addresses of the header. -/
theorem SameHeader.addresses (same : SameHeader data d) (long : 20 ≤ iphdrLen data 0) :
    addrSum d = addrSum data := by
  rw [addrSum, same.word (by unfold iphDaddr; omega),
    same.word (by unfold iphSaddr; omega), addrSum]

/-- No protocol touches the IP header. -/
theorem sameHeader_protoManipPkt {proto : UInt8}
    (done : protoManipPkt writable proto data 0 tuple maniptype = some data') :
    SameHeader data data' := by
  have itself : SameHeader data data := ⟨rfl, rfl⟩
  have behind : ∀ off, iphdrLen data 0 ≤ iphdrLen data 0 + off := fun off => Nat.le_add_right _ _
  unfold protoManipPkt at done
  split at done
  · unfold tcpManipPkt at done
    simp only [Nat.zero_add] at done
    generalize (if data.length ≥ iphdrLen data 0 + tcphdrSize then tcphdrSize else 8) = hdrsize
      at done
    split at done
    · split at done
      · rw [← Option.some.inj done]
        exact itself.write _ (behind _)
      · rw [← Option.some.inj done]
        exact (itself.write _ (behind _)).write _ (behind _)
    · cases done
  split at done
  · rw [(udpManipPkt_some done).2]
    split
    · exact (itself.write _ (behind _)).write _ (behind _)
    · exact itself.write _ (behind _)
  split at done
  · rw [(icmpManipPkt_some done).2]
    exact (itself.write _ (behind _)).write _ (behind _)
  · cases done
    exact itself

/-- `manip_pkt` leaves the result of `ip_fast_csum`. -/
theorem ipFastCsum_manipPkt {proto : UInt8} (long : 20 ≤ iphdrLen data 0)
    (inside : iphdrLen data 0 ≤ data.length)
    (done : manipPkt writable proto data 0 tuple maniptype = some data') :
    ipFastCsum (iphdr data' 0) = ipFastCsum (iphdr data 0) := by
  obtain ⟨d, protocol, rfl⟩ := manipPkt_some done
  have same := sameHeader_protoManipPkt protocol
  have length := same.hdrLen long
  rw [ipFastCsum_manipAddr _ _ (by omega) (by rw [same.1]; omega), same.header long]

/-- The segment and the addresses behind the protocol part and the address part. -/
theorem segment_manipAddr {d : List UInt8} (same : SameHeader data d) (newip : UInt32)
    (long : 20 ≤ iphdrLen data 0) (inside : iphdrLen data 0 ≤ data.length) :
    ipSegment (manipAddr d 0 newip maniptype) = ipSegment d ∧
      addrSum (manipAddr d 0 newip maniptype) + (get32 data maniptype.addrField).toNat =
        addrSum data + newip.toNat := by
  have addr := addrField_cases maniptype
  have length := same.hdrLen long
  constructor
  · rw [ipSegment, iphdrLen_manipAddr, drop_manipAddr _ _ _ (by omega), ipSegment]
  · have moved := @addrSum_manipAddr d newip maniptype (by rw [same.1]; omega)
    rwa [same.word (by omega), same.addresses long] at moved

/-- Two fields of the segment that are written together with the address, one of them the
checksum. -/
theorem segmentCheck_written {p c : Nat} {v w : UInt16} {proto : UInt16}
    (real : 0 < (htons proto).toNat) (same : SameHeader data d) (newip : UInt32)
    (long : 20 ≤ iphdrLen data 0) (evenP : p % 2 = 0) (evenC : c % 2 = 0)
    (apart : p + 2 ≤ c ∨ c + 2 ≤ p) (insideP : iphdrLen data 0 + p + 2 ≤ data.length)
    (insideC : iphdrLen data 0 + c + 2 ≤ data.length)
    (written : ipSegment d = set16 (set16 (ipSegment data) p v) c w)
    (corrected : w.toNat + newip.toNat + v.toNat ≡ (get16 data (iphdrLen data 0 + c)).toNat +
      (get32 data maniptype.addrField).toNat + (get16 data (iphdrLen data 0 + p)).toNat
        [MOD 65535]) :
    segmentCheck (manipAddr d 0 newip maniptype) proto = segmentCheck data proto := by
  have moved := @segment_manipAddr data maniptype d same newip long (by omega)
  have length : (ipSegment data).length = data.length - iphdrLen data 0 := List.length_drop
  have fields :=
    @wordSum_set16_set16 (ipSegment data) p c v w evenP evenC apart (by omega) (by omega)
  rw [← written, ← moved.1, get16_segment, get16_segment] at fields
  apply segmentCheck_eq real _ moved.2 fields corrected
  rw [moved.1, written, set16, set16, length_setField, length_setField]

/-- The checksum of a TCP segment keeps its value for a receiver. -/
theorem segmentCheck_tcp (long : 20 ≤ iphdrLen data 0)
    (full : iphdrLen data 0 + tcphdrSize ≤ data.length)
    (done : manipPkt writable ipprotoTcp data 0 tuple maniptype = some data') :
    segmentCheck data' 6 = segmentCheck data 6 := by
  obtain ⟨d, protocol, rfl⟩ := manipPkt_some done
  have same := sameHeader_protoManipPkt protocol
  have port := portField_cases maniptype
  unfold tcphdrSize at full
  rw [protoManipPkt, if_pos rfl] at protocol
  have written := congrArg ipSegment (tcpManipPkt_some full protocol)
  rw [segment_set16_set16 _ _ _ _ long] at written
  exact segmentCheck_written (by decide) same _ long (by omega) rfl
    (.inl (by unfold tcphCheck; omega)) (by omega) (by unfold tcphCheck; omega) written
    (cheatBoth_modEq _ _ _ _ _)

/-- The checksum of a UDP datagram that has one keeps its value. -/
theorem segmentCheck_udp (long : 20 ≤ iphdrLen data 0)
    (used : get16 data (iphdrLen data 0 + udphCheck) ≠ 0)
    (done : manipPkt writable ipprotoUdp data 0 tuple maniptype = some data') :
    segmentCheck data' 17 = segmentCheck data 17 := by
  obtain ⟨d, protocol, rfl⟩ := manipPkt_some done
  have same := sameHeader_protoManipPkt protocol
  have port := portField_cases maniptype
  rw [protoManipPkt, if_neg (by decide), if_pos rfl] at protocol
  obtain ⟨fits, left⟩ := udpManipPkt_some protocol
  rw [if_pos used] at left
  have written := congrArg ipSegment left
  rw [segment_set16_set16 _ _ _ _ long] at written
  have corrected := cheatBoth_modEq (get32 data maniptype.addrField) (tuple.ip maniptype)
    (get16 data (iphdrLen data 0 + maniptype.portField)) (tuple.port maniptype)
    (get16 data (iphdrLen data 0 + udphCheck))
  apply segmentCheck_written (by decide) same _ long rfl _ (.inr (by unfold udphCheck; omega))
    (by unfold udphCheck; omega) (by omega) written
  · unfold Nat.ModEq at corrected ⊢
    omega
  · omega

/-- What `manip_pkt` leaves in the fields of a UDP datagram with a checksum. -/
theorem udp_fields (long : 20 ≤ iphdrLen data 0)
    (used : get16 data (iphdrLen data 0 + udphCheck) ≠ 0)
    (done : manipPkt writable ipprotoUdp data 0 tuple maniptype = some data') :
    get32 data' maniptype.addrField = tuple.ip maniptype ∧
      get16 data' (iphdrLen data 0 + maniptype.portField) = tuple.port maniptype ∧
      get16 data' (iphdrLen data 0 + udphCheck) =
        cheatBoth (get32 data maniptype.addrField) (tuple.ip maniptype)
          (get16 data (iphdrLen data 0 + maniptype.portField)) (tuple.port maniptype)
          (get16 data (iphdrLen data 0 + udphCheck)) := by
  obtain ⟨d, protocol, rfl⟩ := manipPkt_some done
  have same := sameHeader_protoManipPkt protocol
  have port := portField_cases maniptype
  have addr := addrField_cases maniptype
  rw [protoManipPkt, if_neg (by decide), if_pos rfl] at protocol
  obtain ⟨fits, left⟩ := udpManipPkt_some protocol
  rw [if_pos used] at left
  -- the address part writes inside the IP header
  have behind : ∀ off, 20 ≤ off →
      get16 (manipAddr d 0 (tuple.ip maniptype) maniptype) off = get16 d off := by
    intro off low
    rw [manipAddr, set32, set16, get16_setField _ _ (.inr (by omega)),
      get16_setField _ _ (.inr (by unfold iphCheck; omega))]
  refine ⟨get32_manipAddr _ _ (by rw [same.1]; omega), ?_, ?_⟩
  · rw [behind _ (by omega), left, get16_set16]
    rw [set16, length_setField]
    omega
  · rw [behind _ (by omega), left, set16, get16_setField _ _ (.inr (by unfold udphCheck; omega)),
      get16_set16]
    unfold udphCheck
    omega

/-- A zero checksum of a UDP datagram stays zero. -/
theorem udp_unchecked (long : 20 ≤ iphdrLen data 0)
    (unused : get16 data (iphdrLen data 0 + udphCheck) = 0)
    (done : manipPkt writable ipprotoUdp data 0 tuple maniptype = some data') :
    get16 data' (iphdrLen data 0 + udphCheck) = 0 := by
  obtain ⟨d, protocol, rfl⟩ := manipPkt_some done
  have port := portField_cases maniptype
  have addr := addrField_cases maniptype
  rw [protoManipPkt, if_neg (by decide), if_pos rfl] at protocol
  rw [(udpManipPkt_some protocol).2, if_neg (not_not_intro unused), manipAddr, set32, set16, set16,
    get16_setField _ _ (.inr (by omega)), get16_setField _ _ (.inr (by unfold iphCheck; omega)),
    get16_setField _ _ (.inr (by unfold udphCheck; omega)), unused]

/-- The checksum of an ICMP message keeps its value, unless the message is zero apart from its
checksum and its identifier. -/
theorem messageCheck_icmp (long : 20 ≤ iphdrLen data 0) {i : Nat} (outside : i < 2 ∨ 6 ≤ i)
    (nonzero : byteAt (ipSegment data) i ≠ 0)
    (done : manipPkt writable ipprotoIcmp data 0 tuple maniptype = some data') :
    messageCheck data' = messageCheck data := by
  obtain ⟨d, protocol, rfl⟩ := manipPkt_some done
  have same := sameHeader_protoManipPkt protocol
  rw [protoManipPkt, if_neg (by decide), if_neg (by decide), if_pos rfl] at protocol
  obtain ⟨fits, left⟩ := icmpManipPkt_some protocol
  have written := congrArg ipSegment left
  rw [segment_set16_set16 _ _ _ _ long] at written
  have moved := @segment_manipAddr data maniptype d same (tuple.ip maniptype) long (by omega)
  have length : (ipSegment data).length = data.length - iphdrLen data 0 := List.length_drop
  have corrected := cheatCheck16 (get16 data (iphdrLen data 0 + icmphId)) tuple.src.all
    (get16 data (iphdrLen data 0 + icmphCheck))
  have fields := @wordSum_set16_set16 (ipSegment data) icmphCheck icmphId
    (ipNatCheatCheck (get16 data (iphdrLen data 0 + icmphId) ^^^ 0xffff).toUInt32
      tuple.src.all.toUInt32 (get16 data (iphdrLen data 0 + icmphCheck)))
    tuple.src.all rfl rfl (.inl (by decide)) (by unfold icmphCheck; omega)
    (by unfold icmphId; omega)
  have kept : byteAt (ipSegment d) i = byteAt (ipSegment data) i := by
    rw [written, set16, set16, byteAt_setField _ _ (by unfold icmphId; omega),
      byteAt_setField _ _ (by unfold icmphCheck; omega)]
  have counts := byteAt_le_wordSum (ipSegment data) i
  have counts' := byteAt_le_wordSum (ipSegment d) i
  rw [← written, get16_segment, get16_segment] at fields
  apply UInt16.toNat_inj.mp
  rw [messageCheck, messageCheck, toNat_csumFold, toNat_csumFold, fold16_csumPartial,
    fold16_csumPartial, moved.1]
  congr 1
  rw [fold16_eq_iff]
  unfold Nat.ModEq at corrected fields
  omega

end Protocols

/-! ## `ip_nat_packet` -/

/-- The protocol of a packet that is translated, as the connection has it. -/
def packetProto (ct : Conntrack) (dir : Dir) : UInt8 := (ct.tuplehash dir.flip).dst.protonum

/-- The inverse of a tuple of a TCP connection. -/
theorem invertTuplepr_tcp (stale : Tuple) {orig : Tuple} (tcp : orig.dst.protonum = ipprotoTcp) :
    invertTuplepr stale orig = orig.invert := by
  rw [invertTuplepr, protoInvertTuple, if_pos (.inl tcp), Tuple.invert]

/-- A hook rewrites the packet to a target of its protocol, or leaves it. -/
theorem ipNatPacket_cases {writable : Nat → Bool} {stale : Tuple} {ct : Conntrack} {dir : Dir}
    {hooknum : HookNum} {data data' : List UInt8}
    (passed : ipNatPacket writable stale ct dir hooknum data = some data') :
    (ct.manipulates dir hooknum.manip = true ∧
      ∃ target, manipPkt writable (packetProto ct dir) data 0 target hooknum.manip = some data') ∨
      ct.manipulates dir hooknum.manip = false ∧ data' = data := by
  unfold ipNatPacket at passed
  split at passed
  · rename_i marked
    exact .inl ⟨marked, _, passed⟩
  · rename_i unmarked
    exact .inr ⟨Bool.eq_false_of_not_eq_true unmarked, (Option.some.inj passed).symm⟩

/-- The checksum of a UDP datagram behind a hook. A datagram without one stays without one. With one
the receiver's sum stays the same, but the field of a rewritten datagram becomes zero exactly when
the old checksum, address and port are the new address and port modulo 65535. -/
def UdpCheckKept (ct : Conntrack) (dir : Dir) (maniptype : ManipType) (data data' : List UInt8) :
    Prop :=
  if get16 data (iphdrLen data 0 + udphCheck) = 0 then
    get16 data' (iphdrLen data 0 + udphCheck) = 0
  else
    segmentCheck data' 17 = segmentCheck data 17 ∧
      if ct.manipulates dir maniptype then
        get32 data' maniptype.addrField ≠ 0 →
          (get16 data' (iphdrLen data 0 + udphCheck) = 0 ↔
            (get32 data' maniptype.addrField).toNat +
                (get16 data' (iphdrLen data 0 + maniptype.portField)).toNat ≡
              (get16 data (iphdrLen data 0 + udphCheck)).toNat +
                (get32 data maniptype.addrField).toNat +
                (get16 data (iphdrLen data 0 + maniptype.portField)).toNat [MOD 65535])
      else data' = data

/-- A rewritten UDP datagram. -/
theorem udpCheckKept_manipPkt {writable : Nat → Bool} {ct : Conntrack} {dir : Dir}
    {data data' : List UInt8} {tuple : Tuple} {maniptype : ManipType}
    (marked : ct.manipulates dir maniptype = true) (long : 20 ≤ iphdrLen data 0)
    (done : manipPkt writable ipprotoUdp data 0 tuple maniptype = some data') :
    UdpCheckKept ct dir maniptype data data' := by
  unfold UdpCheckKept
  by_cases unused : get16 data (iphdrLen data 0 + udphCheck) = 0
  · rw [if_pos unused]
    exact udp_unchecked long unused done
  · rw [if_neg unused]
    refine ⟨segmentCheck_udp long unused done, ?_⟩
    obtain ⟨ip, port, check⟩ := udp_fields long unused done
    rw [if_pos marked, ip, port, check]
    intro given
    exact cheatBoth_eq_zero_iff given _ _ _ _

/-- Translation keeps what receivers compute. The sum of the IP header, of a TCP segment and of a
UDP datagram with a checksum stays the same for every connection, hook and direction, so that a
right checksum stays right and a wrong one wrong, unless the field of a UDP datagram becomes zero;
a UDP datagram without a checksum stays without one. For an ICMP message this needs a byte that is
not zero besides the checksum and the identifier. -/
theorem nat_packet_keeps_checksums {writable : Nat → Bool} {stale : Tuple} {ct : Conntrack}
    {dir : Dir} {hooknum : HookNum} {data data' : List UInt8} (long : 20 ≤ iphdrLen data 0)
    (inside : iphdrLen data 0 ≤ data.length)
    (passed : ipNatPacket writable stale ct dir hooknum data = some data') :
    ipFastCsum (iphdr data' 0) = ipFastCsum (iphdr data 0) ∧
      (packetProto ct dir = ipprotoTcp → iphdrLen data 0 + tcphdrSize ≤ data.length →
        segmentCheck data' 6 = segmentCheck data 6) ∧
      (packetProto ct dir = ipprotoUdp → UdpCheckKept ct dir hooknum.manip data data') ∧
      (packetProto ct dir = ipprotoIcmp →
        (∃ i, (i < 2 ∨ 6 ≤ i) ∧ byteAt (ipSegment data) i ≠ 0) →
        messageCheck data' = messageCheck data) := by
  rcases ipNatPacket_cases passed with ⟨marked, target, done⟩ | ⟨unmarked, rfl⟩
  · refine ⟨ipFastCsum_manipPkt long inside done, ?_, ?_, ?_⟩
    · intro tcp full
      rw [tcp] at done
      exact segmentCheck_tcp long full done
    · intro udp
      rw [udp] at done
      exact udpCheckKept_manipPkt marked long done
    · rintro icmp ⟨i, outside, nonzero⟩
      rw [icmp] at done
      exact messageCheck_icmp long outside nonzero done
  · refine ⟨rfl, fun _ _ => rfl, fun _ => ?_, fun _ _ => rfl⟩
    unfold UdpCheckKept
    split
    · assumption
    · rw [unmarked]
      exact ⟨rfl, rfl⟩

/-- A connection from 192.168.1.2:1234 to 8.8.8.8:80 that leaves as 10.0.0.1:5000. -/
def webConntrack : Conntrack where
  original := ⟨⟨0x0201a8c0, 0xd204⟩, ⟨0x08080808, 0x5000, ipprotoTcp, .original⟩⟩
  reply := ⟨⟨0x08080808, 0x5000⟩, ⟨0x0100000a, 0x8813, ipprotoTcp, .reply⟩⟩
  srcNat := true
  dstNat := false
  srcNatDone := true
  dstNatDone := true
  masqIndex := 0

/-- Its first packet. -/
def webSyn : List UInt8 :=
  [0x45, 0x00, 0x00, 0x28, 0x00, 0x01, 0x00, 0x00, 0x40, 0x06, 0xa9, 0x15, 0xc0, 0xa8, 0x01, 0x02,
    0x08, 0x08, 0x08, 0x08, 0x04, 0xd2, 0x00, 0x50, 0x00, 0x00, 0x00, 0x01, 0x00, 0x00, 0x00, 0x00,
    0x50, 0x02, 0x04, 0x00, 0xd5, 0x05, 0x00, 0x00]

/-- The packet behind `NF_IP_POST_ROUTING`. -/
def webSynOut : List UInt8 :=
  [0x45, 0x00, 0x00, 0x28, 0x00, 0x01, 0x00, 0x00, 0x40, 0x06, 0x60, 0xbf, 0x0a, 0x00, 0x00, 0x01,
    0x08, 0x08, 0x08, 0x08, 0x13, 0x88, 0x00, 0x50, 0x00, 0x00, 0x00, 0x01, 0x00, 0x00, 0x00, 0x00,
    0x50, 0x02, 0x04, 0x00, 0x7d, 0xf9, 0x00, 0x00]

/-- A connection from 192.168.1.2:1234 to 8.8.8.8:53 that leaves as 10.0.0.1:5000. -/
def dnsConntrack : Conntrack :=
  { webConntrack with
    original := ⟨⟨0x0201a8c0, 0xd204⟩, ⟨0x08080808, 0x3500, ipprotoUdp, .original⟩⟩
    reply := ⟨⟨0x08080808, 0x3500⟩, ⟨0x0100000a, 0x8813, ipprotoUdp, .reply⟩⟩ }

/-- A datagram of it, with a right checksum. -/
def dnsQuery : List UInt8 :=
  [0x45, 0x00, 0x00, 0x1e, 0x00, 0x01, 0x00, 0x00, 0x40, 0x11, 0xa9, 0x14, 0xc0, 0xa8, 0x01, 0x02,
    0x08, 0x08, 0x08, 0x08, 0x04, 0xd2, 0x00, 0x35, 0x00, 0x0a, 0x57, 0x0c, 0xd2, 0x0c]

/-- A TCP segment keeps its right checksum. A UDP datagram whose new checksum should be sent as
0xffff leaves with a zero. -/
theorem nat_packet_keeps_checksums_syn :
    ipNatPacket (fun _ => true) webConntrack.reply webConntrack .original .postRouting webSyn =
        some webSynOut ∧
      ipFastCsum (iphdr webSynOut 0) = 0 ∧ segmentCheck webSynOut 6 = 0 ∧
    ∃ data', ipNatPacket (fun _ => true) dnsConntrack.reply dnsConntrack .original .postRouting
        dnsQuery = some data' ∧
      segmentCheck dnsQuery 17 = 0 ∧ segmentCheck data' 17 = 0 ∧ get16 data' 26 = 0 := by
  have passed : ipNatPacket (fun _ => true) webConntrack.reply webConntrack .original .postRouting
      webSyn = some webSynOut := by decide +kernel
  have kept := nat_packet_keeps_checksums (by decide) (by decide) passed
  refine ⟨passed, kept.1.trans (by decide +kernel),
    (kept.2.1 rfl (by decide)).trans (by decide +kernel), ?_⟩
  have sent : (ipNatPacket (fun _ => true) dnsConntrack.reply dnsConntrack .original .postRouting
      dnsQuery).map (fun d => (get32 d 12, get16 d 20)) = some (0x0100000a, 0x8813) := by
    decide +kernel
  obtain ⟨data', passed', fields⟩ := Option.map_eq_some_iff.mp sent
  rw [Prod.mk.injEq] at fields
  have right : segmentCheck dnsQuery 17 = 0 := by decide +kernel
  have udp : segmentCheck data' 17 = segmentCheck dnsQuery 17 ∧
      (get32 data' 12 ≠ 0 → (get16 data' 26 = 0 ↔
        (get32 data' 12).toNat + (get16 data' 20).toNat ≡ 0x0c57 + 0x0201a8c0 + 0xd204
          [MOD 65535])) :=
    (nat_packet_keeps_checksums (by decide) (by decide) passed').2.2.1 rfl
  rw [fields.1, fields.2, right] at udp
  exact ⟨data', passed', right, udp.1, (udp.2 (by decide)).mpr (by decide)⟩

end Fvs318g.Verif.ManipPkt
