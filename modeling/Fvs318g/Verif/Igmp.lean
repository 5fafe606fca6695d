import Fvs318g.Verif.BrcmTag
import Mathlib.Data.List.Induction

/-!
# Snooping tracks group membership

What snooping is for: for every group and port, remember whether the last message was a
join. A join names its group by the destination of the frame, a leave by the IP address in
its payload; both meet in the table under the group's MAC address, which the tag of a
multicast frame is made from.
-/

namespace Fvs318g.Verif.Igmp

open Kernel Lib Gsw BrcmTag

/-! ## Messages -/

/-- An IPv4 address, byte by byte. -/
structure Ipv4Addr where
  /-- First byte. -/
  a : UInt8
  /-- Second byte. -/
  b : UInt8
  /-- Third byte. -/
  c : UInt8
  /-- Fourth byte. -/
  d : UInt8
  deriving DecidableEq, Repr

/-- The MAC address of an IPv4 multicast group: the last 23 bits of the group. -/
def groupMac (group : Ipv4Addr) : MacAddr := ⟨0x01, 0x00, 0x5e, group.b &&& 0x7f, group.c, group.d⟩

/-- An IGMPv2 message as it is seen on a port. -/
structure Message where
  /-- The port on which the frame was received. -/
  port : Nat
  /-- A join, or else a leave. -/
  join : Bool
  /-- The group it is about. -/
  group : Ipv4Addr
  deriving DecidableEq, Repr

/-- A received frame in the layout `brcmTagDelete` expects: the MAC addresses, the
management tag with the source port, a VLAN tag, an IP header of 24 bytes and the IGMP
message. `eth_type_trans` has set the data pointer 14 bytes after the MAC header. A join
is addressed to its group, a leave to all routers. -/
structure Carries (m : Memory) (skb : SkBuff) (message : Message) : Prop where
  /-- The data starts after the Ethernet header. -/
  data : skb.data = skb.macRaw + 14
  /-- The tag shows the source port. -/
  port : (m (skb.macRaw + 15) &&& 0x1f).toNat = message.port
  /-- There are eight ports. -/
  port_lt : message.port < 8
  /-- The destination of the frame. -/
  destination : macAt m skb.macRaw =
    if message.join then groupMac message.group else igmpV2LeaveDestMac
  /-- The type of the message. -/
  type : m (skb.data + 32) = if message.join then igmpJoin else igmpLeave
  /-- The group in the payload. -/
  payload : m (skb.data + 36) = message.group.a ∧ m (skb.data + 37) = message.group.b ∧
    m (skb.data + 38) = message.group.c ∧ m (skb.data + 39) = message.group.d

/-- A received frame with the message it carries. -/
structure Received where
  /-- The memory with the frame. -/
  memory : Memory
  /-- The buffer of the frame. -/
  skb : SkBuff
  /-- The message. -/
  message : Message
  /-- The frame carries the message. -/
  carries : Carries memory skb message

/-- The table after `brcmTagDelete` has processed the frames in order. -/
def tableAfter (table : ArlTable) (history : List Received) : ArlTable :=
  history.foldl (fun table r => (brcmTagDelete r.memory table r.skb).2.1) table

/-- The message is about group `g` on port `p`. -/
def Message.concerns (g : MacAddr) (p : Nat) (message : Message) : Bool :=
  decide (message.port = p ∧ groupMac message.group = g)

/-- The last message for group `g` on port `p` was a join. -/
def lastIsJoin (g : MacAddr) (p : Nat) (history : List Received) : Bool :=
  (((history.map Received.message).filter (Message.concerns g p)).getLast?).any Message.join

/-! ## One message -/

/-- The MAC address of a group is a multicast address. -/
theorem groupMac_multicast (group : Ipv4Addr) : (groupMac group).isMulticast = true := rfl

variable (table : ArlTable)

/-- A join sets its own entry and no other. -/
theorem snoopJoin_apply (mac : MacAddr) {port : Nat} (fits : port < 8) (key : ArlKey) :
    (snoopJoin table mac port).foldl starGswWriteArlTableEntry table key ≠ 0 ↔
      key = ⟨mac, port⟩ ∨ table key ≠ 0 := by
  unfold snoopJoin
  rw [starGswSearchArlTable_eq table mac fits]
  by_cases there : table ⟨mac, port⟩ = 0
  · have entry : starGswWriteArlTableEntry table (groupEntry mac port 0x7) key =
        if key = ⟨mac, port⟩ then 7 else table key := by
      rw [starGswWriteArlTableEntry_apply]
      simp only [groupEntry, Nat.mod_eq_of_lt fits]
    rw [if_neg (by simp [there]), List.foldl_cons, List.foldl_nil, entry]
    by_cases same : key = ⟨mac, port⟩
    · simp [same]
    · simp [same]
  · rw [if_pos (by simpa using there)]
    constructor
    · exact Or.inr
    · rintro (rfl | kept)
      · exact there
      · exact kept

/-- A leave clears its own entry and no other. -/
theorem snoopLeave_apply (mac : MacAddr) {port : Nat} (fits : port < 8) (key : ArlKey) :
    (snoopLeave table mac port).foldl starGswWriteArlTableEntry table key ≠ 0 ↔
      key ≠ ⟨mac, port⟩ ∧ table key ≠ 0 := by
  unfold snoopLeave
  rw [starGswSearchArlTable_eq table mac fits]
  by_cases there : table ⟨mac, port⟩ = 0
  · rw [if_neg (by simp [there])]
    constructor
    · intro kept
      refine ⟨?_, kept⟩
      rintro rfl
      exact kept there
    · exact And.right
  · have entry : starGswWriteArlTableEntry table (groupEntry mac port 0x0) key =
        if key = ⟨mac, port⟩ then 0 else table key := by
      rw [starGswWriteArlTableEntry_apply]
      simp only [groupEntry, Nat.mod_eq_of_lt fits]
    rw [if_pos (by simpa using there), List.foldl_cons, List.foldl_nil, entry]
    by_cases same : key = ⟨mac, port⟩
    · simp [same]
    · simp [same]

/-- The group of a leave is rebuilt from the payload. -/
theorem leaveMac_eq {m : Memory} {skb : SkBuff} {message : Message}
    (carries : Carries m skb message) : leaveMac m skb.data = groupMac message.group := by
  obtain ⟨_, second, third, fourth⟩ := carries.payload
  rw [leaveMac, groupMac, second, third, fourth]

/-- A message decides the entry of its own group and port, and leaves the others alone. -/
theorem snoop_apply {m : Memory} {skb : SkBuff} {message : Message}
    (carries : Carries m skb message) (table : ArlTable) {g : MacAddr}
    (other : g ≠ igmpV3McastDestMac) (p : Nat) :
    snoop m table skb ⟨g, p⟩ ≠ 0 ↔
      if message.concerns g p then message.join = true else table ⟨g, p⟩ ≠ 0 := by
  have destination := carries.destination
  have type := carries.type
  have fits := carries.port_lt
  have key : (⟨g, p⟩ : ArlKey) = ⟨groupMac message.group, message.port⟩ ↔
      message.concerns g p = true := by
    simp only [ArlKey.mk.injEq, Message.concerns, decide_eq_true_eq]
    constructor
    · rintro ⟨rfl, rfl⟩
      exact ⟨rfl, rfl⟩
    · rintro ⟨rfl, rfl⟩
      exact ⟨rfl, rfl⟩
  unfold snoop snoopWrites
  simp only [carries.port]
  cases join : message.join with
  | true =>
    simp only [join, ↓reduceIte] at destination type
    have notLeave : ¬ (macAt m skb.macRaw = igmpV2LeaveDestMac ∧
        m (skb.data + 32) = igmpLeave) := by
      rw [type]
      exact fun both => absurd both.2 (by decide)
    by_cases version3 : groupMac message.group = igmpV3McastDestMac
    · -- reports for the IGMPv3 group are not followed, and `g` is not that group
      have apart : ¬ message.concerns g p = true := by
        rw [← key]
        intro same
        exact other ((congrArg ArlKey.mac same).trans version3)
      rw [if_neg (by rw [destination]; exact fun both => both.2 version3), if_neg apart,
        List.foldl_nil]
    · rw [if_pos (by rw [destination]; exact ⟨groupMac_multicast _, version3⟩), if_neg notLeave,
        if_pos type, destination, List.append_nil, snoopJoin_apply table _ fits, key]
      by_cases mine : message.concerns g p = true
      · simp [mine]
      · simp [mine]
  | false =>
    simp only [join, Bool.false_eq_true, ↓reduceIte] at destination type
    have notJoin : ¬ m (skb.data + 32) = igmpJoin := by
      rw [type]
      decide
    rw [if_pos (by rw [destination]; decide), if_neg notJoin, if_pos ⟨destination, type⟩,
      leaveMac_eq carries, List.foldl_nil, List.nil_append, snoopLeave_apply table _ fits, Ne, key]
    by_cases mine : message.concerns g p = true
    · simp [mine]
    · simp [mine]

/-! ## A history of messages -/

/-- The table after one more frame. -/
theorem tableAfter_concat (history : List Received) (r : Received) :
    tableAfter table (history ++ [r]) = snoop r.memory (tableAfter table history) r.skb := by
  unfold tableAfter
  rw [List.foldl_append, List.foldl_cons, List.foldl_nil]
  rfl

/-- The last message after one more frame. -/
theorem lastIsJoin_concat (g : MacAddr) (p : Nat) (history : List Received) (r : Received) :
    lastIsJoin g p (history ++ [r]) =
      if r.message.concerns g p then r.message.join else lastIsJoin g p history := by
  unfold lastIsJoin
  rw [List.map_append, List.filter_append, List.map_cons, List.map_nil]
  by_cases mine : r.message.concerns g p = true
  · rw [List.filter_cons_of_pos mine, List.filter_nil, List.getLast?_concat, if_pos mine,
      Option.any_some]
  · rw [List.filter_cons_of_neg mine, List.filter_nil, List.append_nil, if_neg mine]

/-- The table holds an entry for a group and a port exactly when the last message was a
join. -/
theorem tableAfter_member {table : ArlTable} {g : MacAddr} (other : g ≠ igmpV3McastDestMac)
    {p : Nat} (unknown : table ⟨g, p⟩ = 0) (history : List Received) :
    tableAfter table history ⟨g, p⟩ ≠ 0 ↔ lastIsJoin g p history = true := by
  -- on the history, from its latest message: that one decides, or nothing changes
  induction history using List.reverseRecOn with
  | nil => simp [tableAfter, lastIsJoin, unknown]
  | append_singleton history r ih =>
    rw [tableAfter_concat, snoop_apply r.carries _ other, lastIsJoin_concat]
    by_cases mine : r.message.concerns g p = true
    · rw [if_pos mine, if_pos mine]
    · rw [if_neg mine, if_neg mine, ih]

/-! ## The tag -/

/-- The port map has the bit of a port exactly when the table holds its entry. -/
theorem groupPorts_testBit (mac : MacAddr) {p : Nat} (fits : p < 8) :
    (groupPorts table mac).testBit p = (table ⟨mac, p⟩ != 0) := by
  unfold groupPorts
  rw [testBit_collect (starGswSearchArlTable table mac), starGswSearchArlTable_eq table mac fits]
  simp [fits]

/-- The port map is one byte. -/
theorem groupPorts_lt (mac : MacAddr) : groupPorts table mac < 256 :=
  collect_lt (starGswSearchArlTable table mac) 8

/-- The last byte of the tag that `brcmTagAdd` writes is the port map of the frame's
group. -/
theorem brcmTagAdd_ports (m : Memory) (table : ArlTable) {skb : SkBuff} (address : 6 ≤ skb.len)
    (multicast : (macAt m skb.data).isMulticast = true)
    (notQuery : macAt m skb.data ≠ igmpV2QueryDestMac) :
    ((brcmTagAdd m table skb).1 ((brcmTagAdd m table skb).2.data + 15)).toNat =
      groupPorts table (macAt m skb.data) := by
  rw [brcmTagAdd_tag m table address]
  have tag : brcmTag table (macAt m skb.data) =
      [0x20, 0x00, 0x00, UInt8.ofNat (groupPorts table (macAt m skb.data))] :=
    if_pos ⟨multicast, notQuery⟩
  have last : (made m skb).2.data + 15 = (made m skb).2.data + 12 + 3 := rfl
  dsimp only
  rw [tag, last, store_inside _ _ _ (show 3 < 4 by decide)]
  exact Nat.mod_eq_of_lt (groupPorts_lt table _)

/-- After any history of joins and leaves, the tag of a frame for a group shows a port
exactly when the last message for the group on that port was a join. -/
theorem snooping_tracks_membership {table : ArlTable} (group : Ipv4Addr)
    (unknown : ∀ p < 8, table ⟨groupMac group, p⟩ = 0)
    (notQuery : groupMac group ≠ igmpV2QueryDestMac)
    (notVersion3 : groupMac group ≠ igmpV3McastDestMac) (history : List Received)
    (m : Memory) {skb : SkBuff} (address : 6 ≤ skb.len)
    (destination : macAt m skb.data = groupMac group) {p : Nat} (fits : p < 8) :
    let sent := brcmTagAdd m (tableAfter table history) skb
    (sent.1 (sent.2.data + 15)).toNat.testBit p = lastIsJoin (groupMac group) p history := by
  intro sent
  have ports : (sent.1 (sent.2.data + 15)).toNat =
      groupPorts (tableAfter table history) (groupMac group) := by
    rw [← destination]
    apply brcmTagAdd_ports m _ address
    · rw [destination]
      exact groupMac_multicast group
    · rw [destination]
      exact notQuery
  rw [ports, groupPorts_testBit _ _ fits, Bool.eq_iff_iff, bne_iff_ne]
  exact tableAfter_member notVersion3 (unknown p fits) history

/-! ## Frames of messages -/

/-- The bytes of a MAC address. -/
def macBytes (mac : MacAddr) : List UInt8 := [mac.b0, mac.b1, mac.b2, mac.b3, mac.b4, mac.b5]

/-- A frame that carries a message: destination, source and tag, headers, and the IGMP
message. -/
def messageFrame (message : Message) : List UInt8 :=
  macBytes (if message.join then groupMac message.group else igmpV2LeaveDestMac) ++
    List.replicate 9 0 ++ [UInt8.ofNat message.port] ++ List.replicate 30 0 ++
    [if message.join then igmpJoin else igmpLeave, 0, 0, 0,
      message.group.a, message.group.b, message.group.c, message.group.d]

/-- The buffer of a received frame, after `eth_type_trans`. -/
def receivedSkb : SkBuff := { linearSkb with data := linearSkb.macRaw + 14, len := 46 }

/-- Every message has a frame in the layout that `brcmTagDelete` expects. -/
theorem messageFrame_carries {message : Message} (fits : message.port < 8) :
    Carries (store (fun _ => 0) receivedSkb.macRaw (messageFrame message)) receivedSkb message := by
  obtain ⟨port, join, group⟩ := message
  have small : ∀ p < 8, (UInt8.ofNat p &&& 0x1f).toNat = p := by decide
  cases join with
  | true => exact ⟨rfl, small port fits, fits, rfl, rfl, rfl, rfl, rfl, rfl⟩
  | false => exact ⟨rfl, small port fits, fits, rfl, rfl, rfl, rfl, rfl, rfl⟩

/-- The frame of a message on a port of the switch, as it is received. -/
def received (message : Message) (fits : message.port < 8) : Received :=
  ⟨_, receivedSkb, message, messageFrame_carries fits⟩

/-- Port 2 joins 239.1.2.3 and port 5 joins and leaves it: the tag shows port 2 only. -/
theorem snooping_tracks_two_ports : let group : Ipv4Addr := ⟨239, 1, 2, 3⟩
    let history := [received ⟨5, true, group⟩ (by decide), received ⟨2, true, group⟩ (by decide),
      received ⟨5, false, group⟩ (by decide)]
    let m := store (fun _ => 0) linearSkb.data (macBytes (groupMac group))
    let sent := brcmTagAdd m (tableAfter (fun _ => 0) history) linearSkb
    (sent.1 (sent.2.data + 15)).toNat.testBit 2 = true ∧
      (sent.1 (sent.2.data + 15)).toNat.testBit 5 = false := by
  constructor
  · exact snooping_tracks_membership ⟨239, 1, 2, 3⟩ (fun _ _ => rfl) (by decide) (by decide) _ _
      (by decide) rfl (by decide)
  · exact snooping_tracks_membership ⟨239, 1, 2, 3⟩ (fun _ _ => rfl) (by decide) (by decide) _ _
      (by decide) rfl (by decide)

end Fvs318g.Verif.Igmp
