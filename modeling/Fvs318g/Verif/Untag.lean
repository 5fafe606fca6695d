import Fvs318g.Verif.BrcmTag

/-!
# Receiving a tagged frame

A tagged frame goes through `eth_type_trans` with its tag in place and through
`brcmTagDelete` after that. Behind the moved addresses every byte of the original frame is
back at its place, so the payload, the length and the header are those of the untagged
frame. The protocol is not: `brcmTagDelete` takes the type field as it is, and
`eth_type_trans` replaces a type field that is a length.
-/

namespace Fvs318g.Verif.Untag

open Kernel Lib Gsw BrcmTag

/-- A frame with a tag after the two MAC addresses. -/
def inserted (tag f : List UInt8) : List UInt8 := f.take 12 ++ tag ++ f.drop 12

/-- The type field of a frame in a buffer that starts at `data`. -/
def typeField (m : Memory) (data : Nat) : UInt16 :=
  ((m (data + 12)).toUInt16 <<< 8) + (m (data + 13)).toUInt16

/-- The type field stands for itself: it is no length, or it is the number that
`eth_type_trans` gives to a frame with such bytes behind its header. -/
def SelfTyped (m : Memory) (data : Nat) : Prop :=
  1536 ≤ typeField m data ∨
    (typeField m data = ethP8023 ∧ m (data + 14) = 0xff ∧ m (data + 15) = 0xff) ∨
    (typeField m data = ethP8022 ∧ ¬ (m (data + 14) = 0xff ∧ m (data + 15) = 0xff))

instance (m : Memory) (data : Nat) : Decidable (SelfTyped m data) :=
  inferInstanceAs (Decidable (_ ∨ _))

/-! ## Half words -/

/-- The value of two bytes with the first one in front. -/
theorem toNat_joined (high low : UInt8) :
    ((high.toUInt16 <<< 8) + low.toUInt16).toNat = high.toNat * 256 + low.toNat := by
  have highBound := high.toNat_lt
  have lowBound := low.toNat_lt
  rw [UInt16.toNat_add, UInt16.toNat_shiftLeft, UInt8.toNat_toUInt16, UInt8.toNat_toUInt16]
  show (high.toNat <<< 8 % 2 ^ 16 + low.toNat) % 2 ^ 16 = _
  rw [Nat.shiftLeft_eq]
  omega

/-- A loaded half word is the two bytes in network order. -/
theorem loadHalf_eq (m : Memory) (a : Nat) :
    loadHalf m a = htons (((m a).toUInt16 <<< 8) + (m (a + 1)).toUInt16) := by
  have first := (m a).toNat_lt
  have second := (m (a + 1)).toNat_lt
  apply UInt16.toNat_inj.mp
  rw [toNat_htons, toNat_joined, loadHalf, UInt16.add_comm, toNat_joined]
  omega

/-- The half word of two bytes that are all ones. -/
theorem loadHalf_ones_iff (m : Memory) (a : Nat) :
    loadHalf m a = 0xFFFF ↔ m a = 0xff ∧ m (a + 1) = 0xff := by
  have first := (m a).toNat_lt
  have second := (m (a + 1)).toNat_lt
  rw [← UInt16.toNat_inj, ← UInt8.toNat_inj, ← UInt8.toNat_inj, loadHalf, UInt16.add_comm,
    toNat_joined]
  show _ = 65535 ↔ _ = 255 ∧ _ = 255
  omega

/-- The exchange of the two bytes loses nothing. -/
theorem htons_inj {x y : UInt16} : htons x = htons y ↔ x = y := by
  constructor
  · intro same
    have back := congrArg htons same
    rwa [htons_htons, htons_htons] at back
  · intro same
    rw [same]

/-! ## The two ways -/

section

variable {m : Memory} {skb : SkBuff} (dev : EthAddrs) (table : ArlTable) (pktType : PktType)
  (ethernet : ethHlen ≤ skb.len)

include ethernet in
/-- `skb_pull` of the header of a whole frame. -/
theorem pull_header : { skb with macRaw := skb.data }.pull ethHlen =
      { skb with
        macRaw := skb.data
        data := skb.data + ethHlen
        len := skb.len - ethHlen } := by
  have whole : ¬ skb.len < ethHlen := by omega
  exact if_neg whole

include ethernet in
/-- `eth_type_trans` on a whole frame, by its bytes. -/
theorem ethTypeTrans_eq :
    ethTypeTrans m dev pktType skb =
      ({ skb with
        macRaw := skb.data
        data := skb.data + ethHlen
        len := skb.len - ethHlen },
      ethPktType dev (macAt m skb.data) pktType,
      if 1536 ≤ typeField m skb.data then htons (typeField m skb.data)
      else if m (skb.data + 14) = 0xff ∧ m (skb.data + 15) = 0xff then htons ethP8023
      else htons ethP8022) := by
  simp only [ethTypeTrans, pull_header ethernet, loadHalf_ones_iff,
    loadHalf_eq m (skb.data + 12), htons_htons]
  rfl

/-- Without snooping the frame goes up as `eth_type_trans` leaves it. -/
theorem receiveFrame_plain :
    receiveFrame false ethLanInt dev m table pktType skb =
      ⟨m, table,
        { (ethTypeTrans m dev pktType skb).1 with
          protocol := (ethTypeTrans m dev pktType skb).2.2 },
        (ethTypeTrans m dev pktType skb).2.1⟩ := by
  have off : ¬ (ethLanInt = ethLanInt ∧ (false : Bool) = true) := by simp
  rw [receiveFrame, if_neg off]

include ethernet in
/-- With snooping the frame goes up without the four bytes behind its addresses. -/
theorem receiveFrame_tagged :
    (receiveFrame true ethLanInt dev m table pktType skb).memory =
      memmove m (skb.data + 4) skb.data 12 ∧
    (receiveFrame true ethLanInt dev m table pktType skb).skb =
      { skb with
        macRaw := skb.data + 4
        data := skb.data + 14 + 4
        len := skb.len - 14 - 4
        protocol := htons (typeField (memmove m (skb.data + 4) skb.data 12) (skb.data + 4)) } ∧
    (receiveFrame true ethLanInt dev m table pktType skb).pktType =
      ethPktType dev (macAt m skb.data) pktType := by
  have on : ethLanInt = ethLanInt ∧ (true : Bool) = true := ⟨rfl, rfl⟩
  rw [receiveFrame, if_pos on, ethTypeTrans_eq dev pktType ethernet]
  exact ⟨rfl, rfl, rfl⟩

end

/-! ## The bytes of the frame -/

section

variable {m m' : Memory} {skb skb' : SkBuff} {tag : List UInt8}
  (four : tag.length = 4) (ethernet : ethHlen ≤ skb.len)
  (carried : frame m' skb' = inserted tag (frame m skb))

include four ethernet carried in
/-- The tag makes the frame four bytes longer. -/
theorem len_carried : skb'.len = skb.len + 4 := by
  have lengths := congrArg List.length carried
  simp only [inserted, frame, List.length_append, List.length_take, List.length_drop,
    length_bytes, four] at lengths
  unfold ethHlen at ethernet
  omega

include four ethernet carried in
/-- A byte of the addresses stands at its place in front of the tag. -/
theorem byte_before {i : Nat} (address : i < 12) : m' (skb'.data + i) = m (skb.data + i) := by
  have length := len_carried four ethernet carried
  unfold ethHlen at ethernet
  have entry := congrArg (fun bytes => bytes[i]?) carried
  simp only [inserted, frame] at entry
  rw [getElem?_bytes m' _ (by omega), take_bytes m _ (by omega), List.append_assoc,
    List.getElem?_append_left (by rw [length_bytes]; exact address),
    getElem?_bytes m _ address] at entry
  exact Option.some.inj entry

include four ethernet carried in
/-- Every other byte stands four places further back. -/
theorem byte_behind {i : Nat} (behind : 12 ≤ i) (inside : i < skb.len) :
    m' (skb'.data + 4 + i) = m (skb.data + i) := by
  have length := len_carried four ethernet carried
  have entry := congrArg (fun bytes => bytes[4 + i]?) carried
  simp only [inserted, frame] at entry
  rw [getElem?_bytes m' _ (by omega), take_bytes m _ (by omega), drop_bytes m _ (by omega),
    List.append_assoc,
    List.getElem?_append_right (by rw [length_bytes]; omega), length_bytes,
    List.getElem?_append_right (by omega), four,
    getElem?_bytes m _ (by omega)] at entry
  have places : skb.data + 12 + (4 + i - 12 - 4) = skb.data + i := by omega
  rw [places, ← Nat.add_assoc] at entry
  exact Option.some.inj entry

include four ethernet carried in
/-- After the move every byte of the untagged frame is four places behind the old start. -/
theorem byte_moved {i : Nat} (inside : i < skb.len) :
    memmove m' (skb'.data + 4) skb'.data 12 (skb'.data + 4 + i) = m (skb.data + i) := by
  by_cases address : i < 12
  · rw [memmove_inside m' _ _ address]
    exact byte_before four ethernet carried address
  · rw [memmove_outside m' _ (by omega)]
    exact byte_behind four ethernet carried (by omega) inside

end

/-! ## Transparency -/

/-- What is handed on agrees in payload, length, header and protocol. -/
structure SameHanded (a b : Handed) : Prop where
  /-- The payload. -/
  payload : frame a.memory a.skb = frame b.memory b.skb
  /-- The length. -/
  len : a.skb.len = b.skb.len
  /-- The link-layer header. -/
  header : bytes a.memory a.skb.macRaw ethHlen = bytes b.memory b.skb.macRaw ethHlen
  /-- The protocol. -/
  protocol : a.skb.protocol = b.skb.protocol

/-- The protocol that `eth_type_trans` gives is the type field exactly when that field
stands for itself. -/
theorem protocol_iff (m : Memory) (data : Nat) :
    htons (typeField m data) =
      (if 1536 ≤ typeField m data then htons (typeField m data)
      else if m (data + 14) = 0xff ∧ m (data + 15) = 0xff then htons ethP8023
      else htons ethP8022) ↔ SelfTyped m data := by
  unfold SelfTyped
  by_cases long : 1536 ≤ typeField m data
  · simp [long]
  · by_cases ones : m (data + 14) = 0xff ∧ m (data + 15) = 0xff
    · simp [long, ones, htons_inj]
    · simp only [long, ones, if_false, htons_inj, not_false_eq_true, and_true, and_false, false_or]

/-- A tagged frame is handed on as the untagged one exactly when its type field stands for
itself. -/
theorem untagged_same_iff {m m' : Memory} {skb skb' : SkBuff} {f tag : List UInt8}
    (ethernet : 14 ≤ f.length) (four : tag.length = 4) (plain : frame m skb = f)
    (carried : frame m' skb' = inserted tag f) (dev : EthAddrs) (table : ArlTable)
    (pktType : PktType) :
    SameHanded (receiveFrame true ethLanInt dev m' table pktType skb')
        (receiveFrame false ethLanInt dev m table pktType skb) ↔
      SelfTyped m skb.data := by
  subst plain
  have whole : ethHlen ≤ skb.len := by
    rw [frame, length_bytes] at ethernet
    exact ethernet
  have length : skb'.len = skb.len + 4 := len_carried four whole carried
  have longer : ethHlen ≤ skb'.len := by omega
  have moved : ∀ i, i < skb.len →
      memmove m' (skb'.data + 4) skb'.data 12 (skb'.data + 4 + i) = m (skb.data + i) :=
    fun i => byte_moved four whole carried
  have type : typeField (memmove m' (skb'.data + 4) skb'.data 12) (skb'.data + 4) =
      typeField m skb.data := by
    unfold ethHlen at whole
    rw [typeField, moved 12 (by omega), moved 13 (by omega)]
    rfl
  have tagged := receiveFrame_tagged (m := m') dev table pktType longer
  have untagged : receiveFrame false ethLanInt dev m table pktType skb = _ :=
    receiveFrame_plain dev table pktType
  rw [ethTypeTrans_eq dev pktType whole] at untagged
  rw [← protocol_iff]
  constructor
  · intro same
    have protocols := same.protocol
    rw [tagged.2.1, untagged, type] at protocols
    exact protocols
  · intro self
    unfold ethHlen at whole
    apply SameHanded.mk
    · rw [frame, frame, tagged.1, tagged.2.1, untagged]
      have count : skb'.len - 14 - 4 = skb.len - 14 := by omega
      show bytes _ (skb'.data + 14 + 4) (skb'.len - 14 - 4) = bytes m (skb.data + 14) (skb.len - 14)
      rw [count]
      apply bytes_congr
      intro i inside
      have byte := moved (14 + i) (by omega)
      have place : skb'.data + 14 + 4 + i = skb'.data + 4 + (14 + i) := by omega
      rw [place, byte, Nat.add_assoc]
    · rw [tagged.2.1, untagged]
      show skb'.len - 14 - 4 = skb.len - 14
      omega
    · rw [tagged.1, tagged.2.1, untagged]
      apply bytes_congr
      intro i header
      unfold ethHlen at header
      exact moved i (by omega)
    · rw [tagged.2.1, untagged, type]
      exact self

/-- The addresses of a LAN device. -/
def lanAddrs : EthAddrs := ⟨⟨0, 0xaa, 0xbb, 0xcc, 0xdd, 0x20⟩, ⟨0xff, 0xff, 0xff, 0xff, 0xff, 0xff⟩⟩

/-- A broadcast frame whose type field is no length, with and without a tag. -/
theorem untagged_same_broadcast :
    SameHanded
      (receiveFrame true ethLanInt lanAddrs
        (store (fun _ => 0xff) (linearSkb.data + 12) [0, 0, 0, 3]) (fun _ => 0) .host
        (linearSkb.put 4))
      (receiveFrame false ethLanInt lanAddrs (fun _ => 0xff) (fun _ => 0) .host linearSkb) := by
  have carried : frame (store (fun _ => 0xff) (linearSkb.data + 12) [0, 0, 0, 3])
      (linearSkb.put 4) = inserted [0, 0, 0, 3] (frame (fun _ => 0xff) linearSkb) := by
    decide +kernel
  exact (untagged_same_iff (by decide +kernel) rfl rfl carried lanAddrs (fun _ => 0) .host).mpr
    (by decide +kernel)

/-- A spanning-tree frame of 38 bytes behind its length field: with a tag its protocol is
the length, without one it is 802.2. -/
theorem untagged_length_differs : let m := store (fun _ => 0x42) (linearSkb.data + 12) [0, 38]
    let m' := store (fun _ => 0x42) (linearSkb.data + 12) [0, 0, 0, 3, 0, 38]
    let tagged := receiveFrame true ethLanInt lanAddrs m' (fun _ => 0) .host (linearSkb.put 4)
    let plain := receiveFrame false ethLanInt lanAddrs m (fun _ => 0) .host linearSkb
    frame m' (linearSkb.put 4) = inserted [0, 0, 0, 3] (frame m linearSkb) ∧
      tagged.skb.protocol = htons 38 ∧ plain.skb.protocol = htons ethP8022 ∧
      ¬ SameHanded tagged plain := by
  refine ⟨by decide +kernel, by decide +kernel, by decide +kernel, ?_⟩
  intro same
  have protocols := same.protocol
  revert protocols
  decide +kernel

end Fvs318g.Verif.Untag
