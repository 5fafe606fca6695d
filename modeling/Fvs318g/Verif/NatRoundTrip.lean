import Fvs318g.Lib.System
import Fvs318g.Verif.ManipPkt
import Fvs318g.Verif.NatPorts

/-!
# Both directions of a translated connection

A connection starts with the inverse of its tuple as reply tuple; every `ip_nat_setup_info` may
change the reply tuple on the side of its manipulation and then marks that side. The marks are what
`ip_nat_packet` goes by. So the packets of either direction, rewritten at the two hooks that they
pass, leave with the inverse of the tuple of the other direction.
-/

namespace Fvs318g.Verif.NatRoundTrip

open Lib Kernel Netfilter ManipPkt
open NatPorts (natSetup_conntrack)

/-! ## Setting up a connection -/

/-- What happens to a connection before its first packet leaves. -/
inductive SetupEvent where
  /-- `ip_nat_setup_info`, with whatever the tables hold for the other connections. -/
  | setup (tables : NatTables) (conntrack : Nat) (range : NatRange) (hooknum : HookNum)
  /-- `masq_index` is written. -/
  | masqIndex (index : Nat)

/-- The connection after an event. -/
def setupStep (ct : Conntrack) : SetupEvent → Option Conntrack
  | .setup tables conntrack range hooknum =>
    if tables.conntrack conntrack = ct then
      (ipNatSetupInfo tables conntrack range hooknum).map (·.conntrack conntrack)
    else none
  | .masqIndex index => some { ct with masqIndex := index }

/-- A connection as `ip_conntrack_alloc` leaves it. -/
def freshConntrack (tuple : Tuple) : Conntrack where
  original := tuple
  reply := tuple.invert
  srcNat := false
  dstNat := false
  srcNatDone := false
  dstNatDone := false
  masqIndex := 0

/-- The set-up of the connection of a tuple. -/
def setupSystem (tuple : Tuple) : System Conntrack SetupEvent where
  init ct := ct = freshConntrack tuple
  step := setupStep

/-! ## A manipulation keeps the other side -/

/-- Two tuples agree on what a manipulation does not change. -/
def AgreeBeside (maniptype : ManipType) (t t' : Tuple) : Prop :=
  t'.dst.protonum = t.dst.protonum ∧
    match maniptype with
    | .src => t'.dst.ip = t.dst.ip ∧ t'.dst.all = t.dst.all
    | .dst => t'.src = t.src

section

variable {maniptype : ManipType} {t t' t'' : Tuple}

/-- Two changes of one side are one. -/
theorem AgreeBeside.trans (first : AgreeBeside maniptype t t')
    (second : AgreeBeside maniptype t' t'') : AgreeBeside maniptype t t'' := by
  cases maniptype
  · exact ⟨second.1.trans first.1, second.2.1.trans first.2.1, second.2.2.trans first.2.2⟩
  · exact ⟨second.1.trans first.1, second.2.trans first.2⟩

/-- A tuple agrees with itself. -/
theorem agreeBeside_refl (maniptype : ManipType) (t : Tuple) : AgreeBeside maniptype t t := by
  cases maniptype
  · exact ⟨rfl, rfl, rfl⟩
  · exact ⟨rfl, rfl⟩

/-- Setting the port of the side. -/
theorem agreeBeside_setPort (maniptype : ManipType) (t : Tuple) (value : UInt16) :
    AgreeBeside maniptype t (t.setPort value maniptype) := by
  cases maniptype
  · exact ⟨rfl, rfl, rfl⟩
  · exact ⟨rfl, rfl⟩

/-- Setting the address of the side. -/
theorem agreeBeside_setIp (maniptype : ManipType) (t : Tuple) (value : UInt32) :
    AgreeBeside maniptype t (t.setIp value maniptype) := by
  cases maniptype
  · exact ⟨rfl, rfl, rfl⟩
  · exact ⟨rfl, rfl⟩

end

/-- The search sets ports of the side only. -/
theorem agreeBeside_tcpSearch (used : Tuple → Bool) (maniptype : ManipType)
    (min rangeSize n : Nat) (t : Tuple) (port : UInt16) :
    AgreeBeside maniptype t (tcpSearch used maniptype min rangeSize n t port).1 := by
  induction n generalizing t port with
  | zero => exact agreeBeside_refl maniptype t
  | succ n ih =>
    unfold tcpSearch
    dsimp only
    split
    · exact (agreeBeside_setPort maniptype t _).trans (ih _ _)
    · exact agreeBeside_setPort maniptype t _

/-- So does the choice of an address. -/
theorem agreeBeside_findBestIpsProto (t : Tuple) (range : NatRange) (maniptype : ManipType) :
    AgreeBeside maniptype t (findBestIpsProto t range maniptype) := by
  unfold findBestIpsProto
  dsimp only
  split
  · exact agreeBeside_refl maniptype t
  · split <;> exact agreeBeside_setIp maniptype t _

/-- A mapping changes its own side only. -/
theorem agreeBeside_mapTuple (w : NatTables) (t : Tuple) (range : NatRange) (conntrack : Nat)
    (maniptype : ManipType) :
    AgreeBeside maniptype t (mapTuple w t range conntrack maniptype).1 := by
  have address := agreeBeside_findBestIpsProto t range maniptype
  unfold mapTuple
  dsimp only
  split
  · exact address
  · unfold tcpUniqueTuple
    split
    · exact address
    · exact address.trans (agreeBeside_tcpSearch _ _ _ _ _ _ _)

/-- A source that an earlier connection got comes with the destination of this one. -/
theorem agreeBeside_findAppropriateSrc {w : NatTables} {t result : Tuple} {range : NatRange}
    (found : findAppropriateSrc w t range = some result) : AgreeBeside .src t result := by
  unfold findAppropriateSrc at found
  obtain ⟨id, -, chosen⟩ := List.exists_of_findSome?_eq_some found
  dsimp only at chosen
  split at chosen
  · split at chosen
    · cases chosen
      exact ⟨rfl, rfl, rfl⟩
    · cases chosen
  · cases chosen

/-- `get_unique_tuple` changes only the side of the manipulation. -/
theorem agreeBeside_getUniqueTuple (w : NatTables) (t : Tuple) (range : NatRange) (conntrack : Nat)
    (maniptype : ManipType) :
    AgreeBeside maniptype t (getUniqueTuple w t range conntrack maniptype).1 := by
  cases maniptype with
  | dst => exact agreeBeside_mapTuple w t range conntrack .dst
  | src =>
    unfold getUniqueTuple
    split
    · rename_i found
      split
      · exact agreeBeside_findAppropriateSrc found
      · exact agreeBeside_mapTuple w t range conntrack .src
    · exact agreeBeside_mapTuple w t range conntrack .src

/-! ## What the marks say -/

/-- The reply tuple is the inverse of the original one on every side without a mark. -/
structure Paired (tuple : Tuple) (ct : Conntrack) : Prop where
  /-- The original tuple never changes. -/
  original : ct.original = tuple
  /-- The protocol is the same both ways. -/
  protonum : ct.reply.dst.protonum = tuple.dst.protonum
  /-- Without a mark for the source, replies are sent to the original source. -/
  src : ct.srcNat = false → ct.reply.dst.ip = tuple.src.ip ∧ ct.reply.dst.all = tuple.src.all
  /-- Without a mark for the destination, replies come from the original destination. -/
  dst : ct.dstNat = false → ct.reply.src = ⟨tuple.dst.ip, tuple.dst.all⟩

/-- A fresh connection is paired. -/
theorem paired_fresh (tuple : Tuple) : Paired tuple (freshConntrack tuple) where
  original := rfl
  protonum := rfl
  src _ := ⟨rfl, rfl⟩
  dst _ := rfl

variable {ct : Conntrack}

/-- A manipulation changes the reply tuple where it sets its mark. -/
theorem Paired.manipulated {tuple newTuple : Tuple} {maniptype : ManipType}
    (paired : Paired tuple ct) (beside : AgreeBeside maniptype ct.reply.invert newTuple) :
    Paired tuple (ct.manipulated ct.reply.invert newTuple maniptype) := by
  obtain ⟨original, protonum, src, dst⟩ := paired
  unfold Conntrack.manipulated
  cases maniptype with
  | src =>
    obtain ⟨proto, ip, all⟩ := beside
    dsimp only
    split
    · exact ⟨original, protonum, src, dst⟩
    · refine ⟨original, proto.trans protonum, (by intro marked; cases marked), ?_⟩
      intro unmarked
      have kept := dst unmarked
      rw [← kept]
      show (⟨newTuple.dst.ip, newTuple.dst.all⟩ : Manip) = ct.reply.src
      rw [ip, all]
      rfl
  | dst =>
    obtain ⟨proto, source⟩ := beside
    dsimp only
    split
    · exact ⟨original, protonum, src, dst⟩
    · refine ⟨original, proto.trans protonum, ?_, by intro marked; cases marked⟩
      intro unmarked
      have kept := src unmarked
      rw [← kept.1, ← kept.2]
      show newTuple.src.ip = _ ∧ newTuple.src.all = _
      rw [source]
      exact ⟨rfl, rfl⟩

variable {tuple : Tuple}

/-- Every event of the set-up keeps the tuples paired. -/
theorem paired_setupStep {ct ct' : Conntrack} {event : SetupEvent} (paired : Paired tuple ct)
    (stepped : setupStep ct event = some ct') : Paired tuple ct' := by
  cases event with
  | masqIndex index =>
    cases stepped
    exact ⟨paired.original, paired.protonum, paired.src, paired.dst⟩
  | setup tables conntrack range hooknum =>
    unfold setupStep at stepped
    dsimp only at stepped
    split at stepped
    · rename_i present
      unfold ipNatSetupInfo at stepped
      split at stepped
      · cases stepped
      · cases stepped
        show Paired tuple ((natSetup tables conntrack range hooknum.manip).conntrack conntrack)
        rw [natSetup_conntrack, present]
        exact paired.manipulated (agreeBeside_getUniqueTuple ..)
    · cases stepped

/-- So is one after any set-up. -/
theorem paired_of_reachable (reached : (setupSystem tuple).Reachable ct) : Paired tuple ct := by
  refine reached.invariant ?_ ?_
  · intro ct start
    rw [start]
    exact paired_fresh tuple
  · intro ct event ct' paired stepped
    exact paired_setupStep paired stepped

/-! ## Rewriting a TCP packet -/

/-- A packet with a whole TCP header behind its IP header. -/
structure TcpPacket (data : List UInt8) : Prop where
  /-- The IP header is not too short. -/
  long : 20 ≤ iphdrLen data 0
  /-- Both headers are there. -/
  full : iphdrLen data 0 + tcphdrSize ≤ data.length

/-- The tuple of a packet. -/
def packetTuple (data : List UInt8) : Option Tuple := ipCtGetTuple data 0 (iphdrLen data 0)

/-- The bytes behind the TCP header without options. -/
def payload (data : List UInt8) : List UInt8 := data.drop (iphdrLen data 0 + tcphdrSize)

/-- A tuple with one side replaced by that of another tuple. -/
def replaced (t target : Tuple) (maniptype : ManipType) : Tuple :=
  (t.setIp (target.ip maniptype) maniptype).setPort (target.port maniptype) maniptype

/-- What `manip_pkt` leaves of a TCP packet. -/
structure Rewritten (data data' : List UInt8) (target : Tuple) (maniptype : ManipType) : Prop where
  /-- The headers have the same lengths. -/
  packet : TcpPacket data'
  /-- The tuple changes on one side. -/
  tuple : packetTuple data' = (packetTuple data).map fun t => replaced t target maniptype
  /-- The payload stays. -/
  payload : payload data' = payload data

section

variable {writable : Nat → Bool} {data data' : List UInt8} {target : Tuple} {maniptype : ManipType}

/-- With memory for the copies, a TCP packet is rewritten. -/
theorem exists_manipPkt (packet : TcpPacket data) (memory : ∀ n, writable n = true) :
    ∃ data', manipPkt writable ipprotoTcp data 0 target maniptype = some data' := by
  have long := packet.long
  have full := packet.full
  have room : ∀ n, n ≤ data.length → skbMakeWritable writable data n = true := by
    intro n fits
    rw [skbMakeWritable, memory, decide_eq_true fits]
    rfl
  unfold tcphdrSize at full
  rw [manipPkt, if_pos (room _ (by unfold iphdrSize; omega)), protoManipPkt, if_pos rfl,
    tcpManipPkt]
  simp only [Nat.zero_add, tcphdrSize, ge_iff_le, full, if_true, Nat.lt_irrefl, if_false,
    room _ full]
  exact ⟨_, rfl⟩

/-- The address part leaves the fields behind the addresses. -/
theorem get16_manipAddr_behind (d : List UInt8) (newip : UInt32) (maniptype : ManipType) {off : Nat}
    (behind : 20 ≤ off) : get16 (manipAddr d 0 newip maniptype) off = get16 d off := by
  have addr := addrField_cases maniptype
  rw [manipAddr, set32, set16, get16_setField _ _ (.inr (by omega)),
    get16_setField _ _ (.inr (by unfold iphCheck; omega))]

/-- The address part leaves the bytes before the checksum. -/
theorem byteAt_manipAddr_before (d : List UInt8) (newip : UInt32) (maniptype : ManipType) {i : Nat}
    (before : i < 10) : byteAt (manipAddr d 0 newip maniptype) i = byteAt d i := by
  have addr := addrField_cases maniptype
  rw [manipAddr, set32, set16, byteAt_setField _ _ (.inl (by omega)),
    byteAt_setField _ _ (.inl (by unfold iphCheck; omega))]

/-- The ports of a packet that `tcp_manip_pkt` has rewritten. -/
theorem tcpManipPkt_ports (packet : TcpPacket data)
    (done : tcpManipPkt writable data 0 target maniptype = some data') :
    get16 data' (iphdrLen data 0 + maniptype.portField) = target.port maniptype ∧
      get16 data' (iphdrLen data 0 + (other maniptype).portField) =
        get16 data (iphdrLen data 0 + (other maniptype).portField) ∧
      data'.drop (iphdrLen data 0 + tcphdrSize) = data.drop (iphdrLen data 0 + tcphdrSize) := by
  have full := packet.full
  have written := tcpManipPkt_some full done
  have port := portField_cases maniptype
  have port' := portField_cases (other maniptype)
  have apart : maniptype.portField + 2 ≤ (other maniptype).portField ∨
      (other maniptype).portField + 2 ≤ maniptype.portField := by
    cases maniptype <;> decide
  unfold tcphdrSize at full
  rw [written]
  refine ⟨?_, ?_, ?_⟩
  · rw [set16, get16_setField _ _ (.inl (by unfold tcphCheck; omega)), get16_set16 _ (by omega)]
  · rw [set16, get16_setField _ _ (.inl (by unfold tcphCheck; omega)), set16,
      get16_setField _ _ (by omega)]
  · rw [set16, drop_setField_of_le _ _ (by unfold tcphCheck tcphdrSize; omega), set16,
      drop_setField_of_le _ _ (by unfold tcphdrSize; omega)]

/-- `manip_pkt` changes the address and the port of one side of a TCP packet. -/
theorem rewritten_manipPkt (packet : TcpPacket data)
    (done : manipPkt writable ipprotoTcp data 0 target maniptype = some data') :
    Rewritten data data' target maniptype := by
  have long := packet.long
  have full := packet.full
  obtain ⟨d, protocol, rfl⟩ := manipPkt_some done
  have same := sameHeader_protoManipPkt protocol
  rw [protoManipPkt, if_pos rfl] at protocol
  obtain ⟨port, port', rest⟩ := tcpManipPkt_ports packet protocol
  have portField := portField_cases maniptype
  have length : (manipAddr d 0 (target.ip maniptype) maniptype).length = data.length := by
    rw [manipAddr, set32, set16, length_setField, length_setField, same.1]
  have header : iphdrLen (manipAddr d 0 (target.ip maniptype) maniptype) 0 = iphdrLen data 0 := by
    rw [iphdrLen_manipAddr, same.hdrLen long]
  have before : ∀ i, i < 10 → byteAt (manipAddr d 0 (target.ip maniptype) maniptype) i =
      byteAt data i := by
    intro i early
    have byte := congrArg (byteAt · i) same.2
    simp only [byteAt_take _ (show i < iphdrLen data 0 by omega)] at byte
    rw [byteAt_manipAddr_before _ _ _ early, byte]
  have frag : get16 (manipAddr d 0 (target.ip maniptype) maniptype) (0 + iphFragOff) =
      get16 data (0 + iphFragOff) := by
    simp only [get16, fieldAt, iphFragOff, before _ (show 0 + 6 < 10 by decide),
      before _ (show 0 + 6 + 1 < 10 by decide)]
  have address := @get32_manipAddr d (target.ip maniptype) maniptype (by rw [same.1]; omega)
  have address' := get32_manipAddr_other d (target.ip maniptype) maniptype
  have addr := addrField_cases (other maniptype)
  rw [same.word (by omega)] at address'
  refine ⟨⟨by rw [header]; exact long, by rw [header, length]; exact full⟩, ?_, ?_⟩
  · rw [packetTuple, packetTuple, header, ipCtGetTuple, ipCtGetTuple, frag, length,
      before _ (show 0 + iphProtocol < 10 by decide)]
    have behind : ∀ k, get16 (manipAddr d 0 (target.ip maniptype) maniptype) (iphdrLen data 0 + k) =
        get16 d (iphdrLen data 0 + k) := fun k => get16_manipAddr_behind _ _ _ (by omega)
    have first := behind 0
    rw [Nat.add_zero] at first
    split
    · rfl
    · split
      · rw [first, behind 2]
        cases maniptype with
        | src =>
          rw [show get32 _ (0 + iphSaddr) = _ from address,
            show get32 _ (0 + iphDaddr) = _ from address',
            show get16 d (iphdrLen data 0) = _ from port,
            show get16 d (_ + 2) = _ from port']
          rfl
        | dst =>
          rw [show get32 _ (0 + iphDaddr) = _ from address,
            show get32 _ (0 + iphSaddr) = _ from address', show get16 d (_ + 2) = _ from port,
            show get16 d (iphdrLen data 0) = _ from port']
          rfl
      · rfl
  · rw [payload, header, drop_manipAddr _ _ _ (by omega), rest, payload]

end

/-! ## Both hooks -/

/-- The two hooks that a packet passes: the destination is manipulated at the first one, the source
at the second one. -/
structure Hooks where
  /-- `NF_IP_PRE_ROUTING` or `NF_IP_LOCAL_OUT`. -/
  first : HookNum
  /-- `NF_IP_POST_ROUTING` or `NF_IP_LOCAL_IN`. -/
  second : HookNum
  firstManip : first.manip = .dst
  secondManip : second.manip = .src

/-- A packet on its way through the two hooks; `stale` is what they find in the target. -/
def translated (writable : Nat → Bool) (stale : HookNum → Tuple) (hooks : Hooks) (ct : Conntrack)
    (dir : Dir) (data : List UInt8) : Option (List UInt8) :=
  (ipNatPacket writable (stale hooks.first) ct dir hooks.first data).bind
    (ipNatPacket writable (stale hooks.second) ct dir hooks.second)

/-- One hook makes one side of the packet look like the inverse of the other direction; without a
mark it does already. -/
theorem ipNatPacket_side {writable : Nat → Bool} (stale : Tuple) (paired : Paired tuple ct)
    (tcp : tuple.dst.protonum = ipprotoTcp) (memory : ∀ n, writable n = true) (dir : Dir)
    (hooknum : HookNum) {data : List UInt8} (packet : TcpPacket data) {t : Tuple}
    (found : packetTuple data = some t) (side : ct.manipulates dir hooknum.manip = false →
      t = replaced t (ct.tuplehash dir.flip).invert hooknum.manip) :
    ∃ data', ipNatPacket writable stale ct dir hooknum data = some data' ∧ TcpPacket data' ∧
      packetTuple data' = some (replaced t (ct.tuplehash dir.flip).invert hooknum.manip) ∧
      payload data' = payload data := by
  have proto : (ct.tuplehash dir.flip).invert.dst.protonum = ipprotoTcp := by
    cases dir with
    | original => exact paired.protonum.trans tcp
    | reply =>
      show ct.original.dst.protonum = ipprotoTcp
      rw [paired.original, tcp]
  unfold ipNatPacket
  rw [@invertTuplepr_tcp stale (ct.tuplehash dir.flip) proto]
  cases marked : ct.manipulates dir hooknum.manip with
  | false =>
    refine ⟨data, if_neg Bool.false_ne_true, packet, ?_, rfl⟩
    rw [found, ← side marked]
  | true =>
    obtain ⟨data', done⟩ := @exists_manipPkt writable data (ct.tuplehash dir.flip).invert
      hooknum.manip packet memory
    have rewritten := rewritten_manipPkt packet done
    refine ⟨data', ?_, rewritten.packet, ?_, rewritten.payload⟩
    · rw [if_pos rfl]
      show manipPkt writable (ct.tuplehash dir.flip).invert.dst.protonum data 0 _ _ = _
      rw [proto, done]
    · rw [rewritten.tuple, found]
      rfl

/-- `ip_ct_tuple_equal`, side by side. -/
theorem equal_iff (t u : Tuple) :
    t.equal u = true ↔ (∀ m, t.ip m = u.ip m ∧ t.port m = u.port m) ∧
      t.dst.protonum = u.dst.protonum := by
  unfold Tuple.equal
  simp only [Bool.and_eq_true, beq_iff_eq]
  constructor
  · rintro ⟨⟨⟨⟨srcIp, srcPort⟩, dstIp⟩, dstPort⟩, proto⟩
    refine ⟨fun m => ?_, proto⟩
    cases m
    · exact ⟨srcIp, srcPort⟩
    · exact ⟨dstIp, dstPort⟩
  · rintro ⟨sides, proto⟩
    exact ⟨⟨⟨⟨(sides .src).1, (sides .src).2⟩, (sides .dst).1⟩, (sides .dst).2⟩, proto⟩

/-- Replacing a side by one that is equal to it. -/
theorem replaced_self {t target : Tuple} {maniptype : ManipType}
    (same : t.ip maniptype = target.ip maniptype ∧ t.port maniptype = target.port maniptype) :
    replaced t target maniptype = t := by
  cases maniptype
  · rw [replaced, ← same.1, ← same.2]
    rfl
  · rw [replaced, ← same.1, ← same.2]
    rfl

/-- A side without a mark is the inverse of the other direction already. -/
theorem Paired.unmarked (paired : Paired tuple ct) {dir : Dir} {maniptype : ManipType}
    (unmarked : ct.manipulates dir maniptype = false) :
    (ct.tuplehash dir).ip maniptype = (ct.tuplehash dir.flip).invert.ip maniptype ∧
      (ct.tuplehash dir).port maniptype = (ct.tuplehash dir.flip).invert.port maniptype := by
  have original := paired.original
  cases dir <;> cases maniptype
  · have kept := paired.src unmarked
    show ct.original.src.ip = ct.reply.dst.ip ∧ ct.original.src.all = ct.reply.dst.all
    rw [kept.1, kept.2, original]
    exact ⟨rfl, rfl⟩
  · have kept := paired.dst unmarked
    show ct.original.dst.ip = ct.reply.src.ip ∧ ct.original.dst.all = ct.reply.src.all
    rw [kept, original]
    exact ⟨rfl, rfl⟩
  · have kept := paired.dst unmarked
    show ct.reply.src.ip = ct.original.dst.ip ∧ ct.reply.src.all = ct.original.dst.all
    rw [kept, original]
    exact ⟨rfl, rfl⟩
  · have kept := paired.src unmarked
    show ct.reply.dst.ip = ct.original.src.ip ∧ ct.reply.dst.all = ct.original.src.all
    rw [kept.1, kept.2, original]
    exact ⟨rfl, rfl⟩

/-- Both directions have one protocol. -/
theorem Paired.protonum_flip (paired : Paired tuple ct) (dir : Dir) :
    (ct.tuplehash dir).dst.protonum = (ct.tuplehash dir.flip).invert.dst.protonum := by
  have same : ct.original.dst.protonum = ct.reply.dst.protonum := by
    rw [paired.original, paired.protonum]
  cases dir
  · exact same
  · exact same.symm

/-- The answer to a packet that looks like the inverse of a tuple has that tuple. -/
theorem invert_equal {t u : Tuple} (equal : t.equal u.invert = true) : t.invert.equal u = true := by
  rw [equal_iff] at equal ⊢
  refine ⟨fun maniptype => ?_, equal.2⟩
  cases maniptype
  · exact equal.1 .dst
  · exact equal.1 .src

/-- Packets of either direction of a TCP connection, however it was set up, leave with the inverse
of the tuple of the other direction, and with their payload. An answer to such a packet then has
the tuple of the other direction. -/
theorem nat_both_directions {writable : Nat → Bool} (memory : ∀ n, writable n = true)
    (stale : HookNum → Tuple) (hooks : Hooks) {tuple : Tuple}
    (tcp : tuple.dst.protonum = ipprotoTcp) {ct : Conntrack}
    (reached : (setupSystem tuple).Reachable ct) (dir : Dir) {data : List UInt8}
    (packet : TcpPacket data) {t : Tuple} (found : packetTuple data = some t)
    (belongs : t.equal (ct.tuplehash dir) = true) :
    ∃ data' t', translated writable stale hooks ct dir data = some data' ∧
      packetTuple data' = some t' ∧
      t'.equal (ct.tuplehash dir.flip).invert = true ∧
      t'.invert.equal (ct.tuplehash dir.flip) = true ∧ payload data' = payload data := by
  have paired := paired_of_reachable reached
  obtain ⟨sides, proto⟩ := (equal_iff _ _).mp belongs
  have unmarked : ∀ maniptype, ct.manipulates dir maniptype = false →
      t.ip maniptype = (ct.tuplehash dir.flip).invert.ip maniptype ∧
        t.port maniptype = (ct.tuplehash dir.flip).invert.port maniptype := by
    intro maniptype clear
    rw [(sides maniptype).1, (sides maniptype).2]
    exact paired.unmarked clear
  obtain ⟨d, first, packet', found', payload'⟩ := ipNatPacket_side (stale _) paired tcp memory dir
    hooks.first packet found fun clear => (replaced_self (unmarked _ clear)).symm
  rw [hooks.firstManip] at found'
  obtain ⟨data', second, -, found'', payload''⟩ := ipNatPacket_side (stale _) paired tcp memory dir
    hooks.second packet' found' (by
      rw [hooks.secondManip]
      intro clear
      exact (@replaced_self (replaced t (ct.tuplehash dir.flip).invert .dst) _ .src
        (unmarked .src clear)).symm)
  rw [hooks.secondManip] at found''
  have equal : (replaced (replaced t (ct.tuplehash dir.flip).invert .dst)
      (ct.tuplehash dir.flip).invert .src).equal (ct.tuplehash dir.flip).invert = true := by
    rw [equal_iff]
    refine ⟨fun maniptype => ?_, proto.trans (paired.protonum_flip dir)⟩
    cases maniptype <;> exact ⟨rfl, rfl⟩
  refine ⟨data', _, ?_, found'', equal, invert_equal equal, payload''.trans payload'⟩
  rw [translated, first]
  exact second

/-- The tables when the connection of `webSyn` is set up: it is alone. -/
def webTables : NatTables where
  conntrack _ := freshConntrack webConntrack.original
  hashed := []
  htableSize := 16
  bysource _ := []
  tcpPort := 0

/-- The range of a rule that gives connections the source 10.0.0.1:5000. -/
def webRange : NatRange := ⟨3, 0x0100000a, 0x0100000a, 0x8813, 0x8813⟩

/-- The web connection is set up by the code. -/
theorem webConntrack_reached :
    (setupSystem webConntrack.original).Reachable { webConntrack with dstNatDone := false } := by
  refine .step (.init rfl) trivial (e := .setup webTables 0 webRange .postRouting) ?_
  decide +kernel

/-- `NF_IP_PRE_ROUTING` and `NF_IP_POST_ROUTING`. -/
def forwardHooks : Hooks := ⟨.preRouting, .postRouting, rfl, rfl⟩

/-- A SYN to a web server, and its answer. -/
theorem nat_both_directions_web :
    packetTuple webSyn = some webConntrack.original ∧
      ∃ data' t', translated (fun _ => true) (fun _ => webConntrack.reply) forwardHooks
          { webConntrack with dstNatDone := false } .original webSyn = some data' ∧
        packetTuple data' = some t' ∧ t'.equal webConntrack.reply.invert = true ∧
        t'.invert.equal webConntrack.reply = true ∧ payload data' = payload webSyn :=
  ⟨by decide +kernel, nat_both_directions (fun _ => rfl) _ forwardHooks rfl webConntrack_reached
    .original ⟨by decide, by decide⟩ (t := webConntrack.original) (by decide +kernel) (by decide)⟩

end Fvs318g.Verif.NatRoundTrip
