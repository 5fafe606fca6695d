import Fvs318g.Verif.Igmp

/-!
# Which frames change the switch table

`brcmTagDelete` takes a multicast frame for an IGMP message when one byte, at a fixed place, has
the value of a join or a leave. It looks neither at the type field nor at the IP header, so the
byte may belong to anything that is sent to a multicast address, or lie behind the frame. Here
the frame is read the way its own headers say, and the two readings are compared.
-/

namespace Fvs318g.Verif.IgmpOnly

open Kernel Lib Gsw Igmp

/-! ## The frame read by its headers -/

/-- The received frame, with the management tag. -/
def received (m : Memory) (skb : SkBuff) : List UInt8 :=
  bytes m skb.macRaw (skb.data + skb.len - skb.macRaw)

/-- The port that the management tag names. -/
def tagPort (m : Memory) (skb : SkBuff) : Nat := (m (skb.macRaw + 15) &&& 0x1f).toNat

/-- Where the network header starts: behind the type field, which follows the management tag
and an optional VLAN tag. -/
def ipOffset (f : List UInt8) : Nat := if f.getD 16 0 = 0x81 ∧ f.getD 17 0 = 0x00 then 22 else 18

/-- The header length of an IPv4 packet at `ip`. -/
def ipHeaderLength (f : List UInt8) (ip : Nat) : Nat := (f.getD ip 0 &&& 0x0f).toNat * 4

/-- The frame has an IPv4 packet with protocol 2 at `ip`. -/
def isIgmpPacket (f : List UInt8) (ip : Nat) : Bool :=
  f.getD (ip - 2) 0 = 0x08 && f.getD (ip - 1) 0 = 0x00 && f.getD ip 0 >>> 4 = 4 &&
    20 ≤ ipHeaderLength f ip && f.getD (ip + 9) 0 = 2

/-- An IGMP message: its type and its group. -/
structure IgmpMessage where
  /-- The type. -/
  type : UInt8
  /-- The group. -/
  group : Ipv4Addr
  deriving DecidableEq, Repr

/-- The IGMP message of a frame, if the frame is an IGMP packet that has all of it. -/
def igmpMessage (f : List UInt8) : Option IgmpMessage :=
  let ip := ipOffset f
  let igmp := ip + ipHeaderLength f ip
  if isIgmpPacket f ip ∧ igmp + 8 ≤ f.length then
    some ⟨f.getD igmp 0, f.getD (igmp + 4) 0, f.getD (igmp + 5) 0, f.getD (igmp + 6) 0,
      f.getD (igmp + 7) 0⟩
  else none

/-- The frame carries a join or a leave of the group with this MAC address. -/
def Names (f : List UInt8) (mac : MacAddr) : Prop :=
  ∃ message, igmpMessage f = some message ∧
    (message.type = igmpJoin ∨ message.type = igmpLeave) ∧ groupMac message.group = mac

/-! ## The writes -/

/-- The frame is taken for a join, and the table does not have the entry. -/
def TakenForJoin (m : Memory) (table : ArlTable) (skb : SkBuff) : Prop :=
  (macAt m skb.macRaw).isMulticast = true ∧ macAt m skb.macRaw ≠ igmpV3McastDestMac ∧
    m (skb.data + 32) = igmpJoin ∧
    starGswSearchArlTable table (macAt m skb.macRaw) (tagPort m skb) = false

/-- The frame is taken for a leave, and the table has the entry. -/
def TakenForLeave (m : Memory) (table : ArlTable) (skb : SkBuff) : Prop :=
  macAt m skb.macRaw = igmpV2LeaveDestMac ∧ m (skb.data + 32) = igmpLeave ∧
    starGswSearchArlTable table (leaveMac m skb.data) (tagPort m skb) = true

/-- The code of a join is not that of a leave. -/
theorem join_ne_leave : igmpJoin ≠ igmpLeave := by decide

/-- What is written: the destination of a frame taken for a join, and the group that a frame
taken for a leave has at the fixed place. -/
theorem mem_snoopWrites {m : Memory} {table : ArlTable} {skb : SkBuff} {e : GswArlTableEntry} :
    e ∈ snoopWrites m table skb ↔
      (TakenForJoin m table skb ∧ e = groupEntry (macAt m skb.macRaw) (tagPort m skb) 0x7) ∨
        (TakenForLeave m table skb ∧ e = groupEntry (leaveMac m skb.data) (tagPort m skb) 0x0) := by
  have multicast : igmpV2LeaveDestMac.isMulticast = true := by decide
  have version : igmpV2LeaveDestMac ≠ igmpV3McastDestMac := by decide
  simp only [snoopWrites, snoopJoin, snoopLeave, TakenForJoin, TakenForLeave, tagPort]
  generalize (m (skb.macRaw + 15) &&& 0x1f).toNat = port
  by_cases snooped : (macAt m skb.macRaw).isMulticast = true ∧
      macAt m skb.macRaw ≠ igmpV3McastDestMac
  · rw [if_pos snooped]
    by_cases join : m (skb.data + 32) = igmpJoin
    · simp only [join, join_ne_leave, snooped.1, snooped.2, and_false, false_and, if_false,
        true_and, List.append_nil, ne_eq, not_false_eq_true, or_false]
      cases found : starGswSearchArlTable table (macAt m skb.macRaw) port with
      | true => simp
      | false => simp
    · simp only [join, if_false, false_and, and_false, List.foldl_nil, List.nil_append, false_or]
      split
      · rename_i leave
        cases found : starGswSearchArlTable table (leaveMac m skb.data) port with
        | true => simp [leave.1, leave.2]
        | false => simp
      · rename_i other
        simp only [List.not_mem_nil, false_iff, not_and]
        intro taken
        exact absurd ⟨taken.1, taken.2.1⟩ other
  · rw [if_neg snooped]
    simp only [List.not_mem_nil, false_iff, not_or, not_and]
    constructor
    · intro taken
      exact absurd ⟨taken.1, taken.2.1⟩ snooped
    · intro taken
      exact absurd (taken.1 ▸ ⟨multicast, version⟩) snooped

/-! ## The law -/

/-- Every entry written is that of the message that the frame carries, on the port that its tag
names. -/
def OnlyIgmp (m : Memory) (table : ArlTable) (skb : SkBuff) : Prop :=
  ∀ e ∈ snoopWrites m table skb, ∃ message,
    igmpMessage (received m skb) = some message ∧
      (message.type = igmpJoin ∨ message.type = igmpLeave) ∧
      arlKey (writeControl1 e) (control2 e.macAddr) = ⟨groupMac message.group, tagPort m skb⟩

/-- An entry is that of the message exactly when its address is, and the port fits the table. -/
theorem key_iff {f : List UInt8} {mac : MacAddr} {port age : Nat} :
    (∃ message, igmpMessage f = some message ∧
      (message.type = igmpJoin ∨ message.type = igmpLeave) ∧
      arlKey (writeControl1 (groupEntry mac port age))
        (control2 (groupEntry mac port age).macAddr) = ⟨groupMac message.group, port⟩) ↔
      Names f mac ∧ port < 8 := by
  have key : arlKey (writeControl1 (groupEntry mac port age))
      (control2 (groupEntry mac port age).macAddr) = ⟨mac, port % 8⟩ := arlKey_write _
  simp only [key, ArlKey.mk.injEq]
  constructor
  · rintro ⟨message, carried, kind, same, fits⟩
    exact ⟨⟨message, carried, kind, same.symm⟩, by omega⟩
  · rintro ⟨⟨message, carried, kind, same⟩, fits⟩
    exact ⟨message, carried, kind, same.symm, Nat.mod_eq_of_lt fits⟩

/-- The table changes for IGMP messages only if and only if every frame that is taken for a
message carries one, of the group that is written, and comes from one of eight ports. -/
theorem only_igmp_iff (m : Memory) (table : ArlTable) (skb : SkBuff) :
    OnlyIgmp m table skb ↔
      (TakenForJoin m table skb → Names (received m skb) (macAt m skb.macRaw) ∧ tagPort m skb < 8) ∧
      (TakenForLeave m table skb →
        Names (received m skb) (leaveMac m skb.data) ∧ tagPort m skb < 8) := by
  simp only [OnlyIgmp, mem_snoopWrites]
  constructor
  · intro only
    constructor
    · intro taken
      exact key_iff.mp (only _ (.inl ⟨taken, rfl⟩))
    · intro taken
      exact key_iff.mp (only _ (.inr ⟨taken, rfl⟩))
  · rintro ⟨join, leave⟩ e (⟨taken, rfl⟩ | ⟨taken, rfl⟩)
    · exact key_iff.mpr (join taken)
    · exact key_iff.mpr (leave taken)

/-- A UDP datagram to a multicast address, from port 3, whose first payload byte is that of a
join. -/
def udpFrame : List UInt8 :=
  [0x01, 0x00, 0x5e, 0x01, 0x02, 0x03, 0x00, 0x10, 0x18, 0x00, 0x00, 0x01, 0x20, 0x00, 0x00, 0x03,
    0x08, 0x00, 0x45, 0x00, 0x00, 0x2a, 0x00, 0x00, 0x00, 0x00, 0x01, 0x11, 0x00, 0x00, 0xc0, 0xa8,
    0x00, 0x02, 0xe1, 0x01, 0x02, 0x03, 0x13, 0x88, 0x13, 0x88, 0x00, 0x16, 0x00, 0x00, 0x16, 0x00,
    0x00, 0x00, 0x00, 0x00, 0x00, 0x00, 0x00, 0x00, 0x00, 0x00, 0x00, 0x00, 0x00, 0x00, 0x00, 0x00]

/-- Memory with the datagram. -/
def udpMemory : Memory := fun a => udpFrame.getD (a - 0xC0100040) 0

/-- The buffer of the datagram as `eth_type_trans` leaves it. -/
def udpSkb : SkBuff where
  id := 0
  head := 0xC0100000
  data := 0xC010004E
  tail := 0xC0100080
  endp := 0xC0100600
  len := 50
  dataLen := 0
  macRaw := 0xC0100040
  protocol := ethPIp
  ipProtocol := ipprotoUdp
  frags := []
  frags_le := Nat.zero_le _

/-- A datagram that is no IGMP message adds its destination to the table. -/
theorem udp_changes_table : ¬∀ (m : Memory) (table : ArlTable) (skb : SkBuff),
    OnlyIgmp m table skb := by
  intro always
  have taken : TakenForJoin udpMemory (fun _ => 0) udpSkb := by
    refine ⟨by decide, by decide, by decide, rfl⟩
  have names := ((only_igmp_iff _ _ _).mp (always udpMemory (fun _ => 0) udpSkb)).1 taken
  obtain ⟨message, carried, _⟩ := names.1
  have none : igmpMessage (received udpMemory udpSkb) = none := by decide
  rw [none] at carried
  exact nomatch carried

end Fvs318g.Verif.IgmpOnly
