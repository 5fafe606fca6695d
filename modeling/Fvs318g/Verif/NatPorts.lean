import Fvs318g.Verif.Masquerade

/-!
# Source ports of translated connections

The accelerator owns the source ports from 50000 on. A connection may have one only if the
pre-add hook took it, and then the very port that the hook answered. This module follows
the range that the two callers pass through `get_unique_tuple` and `tcp_unique_tuple` to
the port of the connection, for every state of the tables.
-/

namespace Fvs318g.Verif.NatPorts

open Lib Kernel Netfilter Masquerade

/-! ## The search keeps to a range of ports -/

/-- A port in network order lies between two others, in host order. -/
def Between (low high port : UInt16) : Prop :=
  (htons low).toNat ≤ (htons port).toNat ∧ (htons port).toNat ≤ (htons high).toNat

variable (used : Tuple → Bool) (tuple : Tuple)

/-- `tcp_in_range` compares in host order. -/
theorem tcpInRange_iff (maniptype : ManipType) (min max : UInt16) :
    tcpInRange tuple maniptype min max = true ↔ Between min max (tuple.port maniptype) := by
  unfold tcpInRange Between
  rw [Bool.and_eq_true, decide_eq_true_eq, decide_eq_true_eq]
  rfl

/-- The port after a write through `portptr`. -/
@[simp]
theorem port_setPort (value : UInt16) (maniptype : ManipType) :
    (tuple.setPort value maniptype).port maniptype = value := by
  cases maniptype <;> rfl

/-- A search that runs at least one round ends on one of the ports that it tries. -/
theorem tcpSearch_port (maniptype : ManipType) (min rangeSize n : Nat) (tuple : Tuple)
    (port : UInt16) :
    ∃ last : UInt16, (tcpSearch used maniptype min rangeSize (n + 1) tuple port).1.port maniptype =
      htons (UInt16.ofNat (min + last.toNat % rangeSize)) := by
  induction n generalizing tuple port with
  | zero =>
    refine ⟨port, ?_⟩
    unfold tcpSearch
    dsimp only
    split
    · exact port_setPort ..
    · exact port_setPort ..
  | succ n ih =>
    unfold tcpSearch
    dsimp only
    split
    · exact ih _ _
    · exact ⟨port, port_setPort ..⟩

variable {range : NatRange}

/-- `tcp_unique_tuple` on a specified range that is not empty chooses a port of the range. -/
theorem tcpUniqueTuple_between (specified : range.protoSpecified = true)
    (ordered : (htons range.min).toNat ≤ (htons range.max).toNat) (maniptype : ManipType)
    (port : UInt16) : Between range.min range.max
      ((tcpUniqueTuple used tuple range maniptype port).1.port maniptype) := by
  have small : (htons range.max).toNat < 65536 := (htons range.max).toNat_lt
  have ports : tcpPorts tuple range maniptype = some ((htons range.min).toNat,
      (htons range.max).toNat - (htons range.min).toNat + 1) := by
    have size : ((htons range.max).toNat + 2 ^ 32 - (htons range.min).toNat + 1) % 2 ^ 32 =
        (htons range.max).toNat - (htons range.min).toNat + 1 := by omega
    unfold tcpPorts
    rw [specified, Bool.not_true, if_neg Bool.false_ne_true]
    dsimp only
    rw [size]
  obtain ⟨last, chosen⟩ := tcpSearch_port used maniptype (htons range.min).toNat
    ((htons range.max).toNat - (htons range.min).toNat + 1)
    ((htons range.max).toNat - (htons range.min).toNat) tuple port
  have offset : last.toNat % ((htons range.max).toNat - (htons range.min).toNat + 1) <
      (htons range.max).toNat - (htons range.min).toNat + 1 := Nat.mod_lt _ (by omega)
  unfold tcpUniqueTuple
  rw [ports]
  dsimp only
  rw [chosen, Between, htons_htons, UInt16.toNat_ofNat', Nat.mod_eq_of_lt (by omega)]
  omega

/-- The source that `find_appropriate_src` takes over lies in a specified range. -/
theorem findAppropriateSrc_between {w : NatTables} {tuple result : Tuple}
    (specified : range.protoSpecified = true)
    (found : findAppropriateSrc w tuple range = some result) :
    Between range.min range.max result.src.all := by
  obtain ⟨id, _, hit⟩ := List.exists_of_findSome?_eq_some found
  split at hit
  · dsimp only at hit
    split at hit
    next accepted =>
      have same := Option.some.inj hit
      rw [same] at accepted
      unfold inRange at accepted
      split at accepted
      · exact absurd accepted Bool.false_ne_true
      · rw [specified, Bool.not_true, Bool.false_or] at accepted
        exact (tcpInRange_iff result .src range.min range.max).mp accepted
    next => exact absurd hit.symm (Option.some_ne_none _)
  · exact absurd hit.symm (Option.some_ne_none _)

variable (w : NatTables)

/-- The address and the port together. -/
theorem mapTuple_between (origTuple : Tuple) (specified : range.protoSpecified = true)
    (ordered : (htons range.min).toNat ≤ (htons range.max).toNat) (conntrack : Nat)
    (maniptype : ManipType) : Between range.min range.max
      ((mapTuple w origTuple range conntrack maniptype).1.port maniptype) := by
  unfold mapTuple
  dsimp only
  split
  next kept =>
    rw [specified, Bool.not_true, Bool.false_or, Bool.and_eq_true, tcpInRange_iff] at kept
    exact kept.1
  next => exact tcpUniqueTuple_between _ _ specified ordered maniptype _

/-- The source port that `get_unique_tuple` gives a connection, in host order. -/
def chosenPort (w : NatTables) (range : NatRange) (conntrack : Nat) : Nat :=
  (htons (getUniqueTuple w (w.conntrack conntrack).reply.invert range conntrack
    .src).1.src.all).toNat

/-- With a specified range, the source port lies in it, whatever the tables hold. -/
theorem chosenPort_between (specified : range.protoSpecified = true)
    (ordered : (htons range.min).toNat ≤ (htons range.max).toNat) (conntrack : Nat) :
    (htons range.min).toNat ≤ chosenPort w range conntrack ∧
      chosenPort w range conntrack ≤ (htons range.max).toNat := by
  unfold chosenPort getUniqueTuple
  split
  next tuple found =>
    split
    · exact findAppropriateSrc_between specified found
    · exact mapTuple_between w _ specified ordered conntrack .src
  next => exact mapTuple_between w _ specified ordered conntrack .src

/-! ## The port of the connection -/

/-- The source port that replies to a connection are sent to, in host order. -/
def sourcePort (w : NatTables) (conntrack : Nat) : Nat :=
  (htons (w.conntrack conntrack).reply.dst.all).toNat

/-- The written connection. -/
@[simp]
theorem conntrack_set (id : Nat) (ct : Conntrack) : (w.set id ct).conntrack id = ct :=
  if_pos rfl

/-- A search for a destination keeps the source. -/
theorem tcpSearch_src (min rangeSize n : Nat) (tuple : Tuple) (port : UInt16) :
    (tcpSearch used .dst min rangeSize n tuple port).1.src = tuple.src := by
  induction n generalizing tuple port with
  | zero => rfl
  | succ n ih =>
    unfold tcpSearch
    dsimp only
    split
    · rw [ih]
      rfl
    · rfl

/-- A write to the address of a destination keeps the source. -/
theorem setIp_src (value : UInt32) : (tuple.setIp value .dst).src = tuple.src := rfl

/-- The address of a destination is chosen without a change of the source. -/
theorem findBestIpsProto_src (range : NatRange) :
    (findBestIpsProto tuple range .dst).src = tuple.src := by
  unfold findBestIpsProto
  dsimp only
  split
  · rfl
  · split
    · rw [setIp_src]
    · rw [setIp_src]

/-- The port of a destination is chosen without a change of the source. -/
theorem tcpUniqueTuple_src (range : NatRange) (port : UInt16) :
    (tcpUniqueTuple used tuple range .dst port).1.src = tuple.src := by
  unfold tcpUniqueTuple
  cases tcpPorts tuple range .dst with
  | none => rfl
  | some ports => exact tcpSearch_src used ports.1 ports.2 ports.2 tuple port

/-- A destination needs no earlier connection of the same sender. -/
theorem getUniqueTuple_dst (origTuple : Tuple) (range : NatRange) (conntrack : Nat) :
    getUniqueTuple w origTuple range conntrack .dst = mapTuple w origTuple range conntrack .dst :=
  rfl

/-- A destination is chosen without a change of the source. -/
theorem getUniqueTuple_src (origTuple : Tuple) (range : NatRange) (conntrack : Nat) :
    (getUniqueTuple w origTuple range conntrack .dst).1.src = origTuple.src := by
  rw [getUniqueTuple_dst, mapTuple]
  split
  · exact findBestIpsProto_src origTuple range
  · rw [tcpUniqueTuple_src, findBestIpsProto_src]

/-- The reply tuple after a manipulation is sent to the new source port. -/
theorem manipulated_port (ct : Conntrack) (newTuple : Tuple) (maniptype : ManipType) :
    (ct.manipulated ct.reply.invert newTuple maniptype).reply.dst.all = newTuple.src.all := by
  have unchanged : newTuple.equal ct.reply.invert = true → ct.reply.dst.all = newTuple.src.all := by
    intro equal
    unfold Tuple.equal at equal
    simp only [Bool.and_eq_true, beq_iff_eq] at equal
    exact equal.1.1.1.2.symm
  cases maniptype with
  | src =>
    unfold Conntrack.manipulated
    dsimp only
    split
    next equal => exact unchanged equal
    next => rfl
  | dst =>
    unfold Conntrack.manipulated
    dsimp only
    split
    next equal => exact unchanged equal
    next => rfl

/-- A manipulation leaves the mark of the other one alone. -/
theorem manipulated_dstNatDone (ct : Conntrack) (currTuple newTuple : Tuple) :
    (ct.manipulated currTuple newTuple .src).dstNatDone = ct.dstNatDone := by
  unfold Conntrack.manipulated
  dsimp only
  split
  · rfl
  · rfl

/-- The connection after a set-up. -/
theorem natSetup_conntrack (conntrack : Nat) (range : NatRange) (maniptype : ManipType) :
    (natSetup w conntrack range maniptype).conntrack conntrack =
      (w.conntrack conntrack).manipulated (w.conntrack conntrack).reply.invert
        (getUniqueTuple w (w.conntrack conntrack).reply.invert range conntrack maniptype).1
        maniptype := by
  unfold natSetup
  exact conntrack_set ..

/-- The source port after a set-up is that of the chosen tuple. -/
theorem sourcePort_natSetup (conntrack : Nat) (range : NatRange) (maniptype : ManipType) :
    sourcePort (natSetup w conntrack range maniptype) conntrack =
      (htons (getUniqueTuple w (w.conntrack conntrack).reply.invert range conntrack
        maniptype).1.src.all).toNat := by
  rw [sourcePort, natSetup_conntrack, manipulated_port]

/-- The set-up of a destination keeps the source port. -/
theorem sourcePort_destination (conntrack : Nat) (range : NatRange) :
    sourcePort (natSetup w conntrack range .dst) conntrack = sourcePort w conntrack := by
  rw [sourcePort_natSetup, getUniqueTuple_src]
  rfl

variable {conntrack : Nat}

/-- A manipulation that was not done before is set up. -/
theorem ipNatSetupInfo_fresh {w : NatTables} (range : NatRange) {hooknum : HookNum}
    (fresh : (w.conntrack conntrack).natInitialized hooknum.manip = false) :
    ipNatSetupInfo w conntrack range hooknum = some (natSetup w conntrack range hooknum.manip) := by
  unfold ipNatSetupInfo
  rw [fresh, if_neg Bool.false_ne_true]

/-! ## Without a range -/

/-- An earlier connection of the sender of `conntrack` is translated to address `ip` and
port 60000, and no translated connection is in the way. -/
structure Shares (w : NatTables) (conntrack : Nat) (ip : UInt32) (earlier : Nat) : Prop where
  /-- The earlier connection is the only one in the source hash. -/
  bysource : ∀ h, w.bysource h = [earlier]
  /-- No tuple is taken. -/
  hashed : w.hashed = []
  /-- The sender is the same. -/
  sender : sameSrc (w.conntrack earlier) (w.conntrack conntrack).reply.invert = true
  /-- The translation of the earlier connection. -/
  translation : (w.conntrack earlier).reply.invert.src = ⟨ip, htons 60000⟩

/-- A range without ports takes over the port of the earlier connection. -/
theorem chosenPort_shares {w : NatTables} {conntrack earlier : Nat}
    (shares : Shares w conntrack range.minIp earlier) (single : range.maxIp = range.minIp)
    (unspecified : range.protoSpecified = false) : chosenPort w range conntrack = 60000 := by
  have taken : ∀ dst, inRange { (w.conntrack earlier).reply.invert with dst := dst } range =
      true := by
    intro dst
    unfold inRange
    rw [shares.translation, single, if_neg (fun outside => outside.2.elim (UInt32.lt_irrefl _)
      (UInt32.lt_irrefl _)), unspecified, Bool.not_false, Bool.true_or]
  have found : findAppropriateSrc w (w.conntrack conntrack).reply.invert range =
      some { (w.conntrack earlier).reply.invert with
        dst := (w.conntrack conntrack).reply.invert.dst } := by
    unfold findAppropriateSrc
    rw [shares.bysource, List.findSome?_cons, if_pos shares.sender]
    dsimp only
    rw [if_pos (taken _)]
  have unused : ∀ tuple, ipNatUsedTuple w tuple conntrack = false := by
    intro tuple
    unfold ipNatUsedTuple
    rw [shares.hashed, List.any_nil]
  unfold chosenPort getUniqueTuple
  rw [found]
  dsimp only
  rw [unused, Bool.not_false, if_pos rfl, shares.translation, htons_htons]
  rfl

/-- A connection of the sender of `ct` that was translated to address `ip`. -/
def earlierConntrack (ct : Conntrack) (ip : UInt32) : Conntrack :=
  { ct with
    original := ct.reply.invert
    reply := { ct.reply with dst := { ct.reply.dst with ip := ip, all := htons 60000 } } }

/-- Tables with a connection, its master, and an earlier connection of the same sender. -/
def sharedTables (ct master : Conntrack) (ip : UInt32) : NatTables where
  conntrack := fun id =>
    if id = 0 then ct else if id = 1 then master else earlierConntrack ct ip
  hashed := []
  htableSize := 1
  bysource := fun _ => [2]
  tcpPort := 0

/-- The connection shares its sender in these tables. -/
theorem sharedTables_shares (ct master : Conntrack) (ip : UInt32) :
    Shares (sharedTables ct master ip) 0 ip 2 where
  bysource := fun _ => rfl
  hashed := rfl
  sender := by
    simp [sharedTables, earlierConntrack, sameSrc]
  translation := rfl

/-! ## Ports from answers -/

/-- The port of an `int` is its remainder. -/
theorem toNat_toPort (x : Int32) : ((toPort x).toNat : Int) = x.toInt % 65536 := by
  have word : x.toInt = if 2 * x.toUInt32.toNat < 2 ^ 32 then (x.toUInt32.toNat : Int)
      else (x.toUInt32.toNat : Int) - (2 ^ 32 : Nat) := BitVec.toInt_eq_toNat_cond _
  have port : (toPort x).toNat = x.toUInt32.toNat % 65536 := UInt32.toNat_toUInt16 _
  rw [port, word]
  split <;> omega

/-- A single specified port is chosen, whatever the tables hold. -/
theorem chosenPort_single {port : UInt16} (specified : range.protoSpecified = true)
    (min : range.min = htons port) (max : range.max = htons port) (conntrack : Nat) :
    chosenPort w range conntrack = port.toNat := by
  have between := chosenPort_between w specified (by rw [min, max]) conntrack
  rw [min, max, htons_htons] at between
  omega

/-- What a source port must be: at 50000 or above only if the hook succeeded, and then the
port that its result stands for. -/
def Reserved (succeeded : Prop) (port : Int) (chosen : Nat) : Prop :=
  (hnatSourcePortBase ≤ chosen → succeeded) ∧ (succeeded → (chosen : Int) = port)

/-- A port below the base is right when the hook failed. -/
theorem reserved_low {succeeded : Prop} (failed : ¬ succeeded) (port : Int) {chosen : Nat}
    (low : chosen < hnatSourcePortBase) : Reserved succeeded port chosen :=
  ⟨fun high => absurd low (Nat.not_lt.mpr high), fun success => absurd success failed⟩

/-- Port 60000 is wrong when the hook failed. -/
theorem not_reserved_high {succeeded : Prop} (failed : ¬ succeeded) (port : Int) :
    ¬ Reserved succeeded port 60000 := by
  intro reserved
  exact failed (reserved.1 (by decide))

/-! ## `masquerade_target` -/

/-- The hooks with the accelerator on and not restricted to FTP, and a pre-add result. -/
def answering (result : Int32) : ShnatHooks := ⟨true, result, 0, 1⟩

/-- `masquerade_target` sets the connection up, with a port that is right for the pre-add
result. -/
def MasqueradeReserves (result : Int32) (newsrc : UInt32) (ifindex : Nat) (mr : NatMultiRange)
    (w : NatTables) (conntrack : Nat) : Prop :=
  ∃ mr' w', masqueradeTarget (answering result) newsrc ifindex w conntrack mr =
      some (.accept, mr', w') ∧
    Reserved (result ≥ 0) result.toInt (sourcePort w' conntrack)

/-- The tables in which `masquerade_target` sets a connection up. -/
def masqueraded (w : NatTables) (conntrack ifindex : Nat) : NatTables :=
  w.set conntrack { w.conntrack conntrack with masqIndex := ifindex }

/-- The range that `masquerade_target` passes for a connection. -/
def masqueradedRange (result : Int32) (newsrc : UInt32) (mr : NatMultiRange)
    (ct : Conntrack) : NatRange :=
  passedRange ⟨answering result, ct.original.src.ip, newsrc⟩
    (shnatRange (answering result) mr.range)

/-- `masquerade_target` for a connection that it sets up. -/
theorem masqueradeTarget_asks {w : NatTables} {newsrc : UInt32}
    (source : (w.conntrack conntrack).original.src.ip ≠ 0) (address : newsrc ≠ 0)
    (fresh : (w.conntrack conntrack).srcNatDone = false) (result : Int32) (ifindex : Nat)
    (mr : NatMultiRange) : masqueradeTarget (answering result) newsrc ifindex w conntrack mr =
      some (.accept, { mr with range := shnatRange (answering result) mr.range },
        natSetup (masqueraded w conntrack ifindex) conntrack
          (masqueradedRange result newsrc mr (w.conntrack conntrack)) .src) := by
  have asks : Asks ⟨answering result, (w.conntrack conntrack).original.src.ip, newsrc⟩ :=
    ⟨source, address⟩
  have unmarked : ((masqueraded w conntrack ifindex).conntrack conntrack).natInitialized
      (HookNum.manip .postRouting) = false := by
    rw [masqueraded, conntrack_set]
    exact fresh
  unfold masqueradeTarget
  dsimp only
  rw [masqueradeRange_asks asks]
  dsimp only
  rw [← masqueraded, ipNatSetupInfo_fresh _ unmarked]
  rfl

/-- The port of a masqueraded connection is chosen from the range that the hooks made. -/
theorem masqueradeReserves_iff {w : NatTables} {newsrc : UInt32}
    (source : (w.conntrack conntrack).original.src.ip ≠ 0) (address : newsrc ≠ 0)
    (fresh : (w.conntrack conntrack).srcNatDone = false) (result : Int32) (ifindex : Nat)
    (mr : NatMultiRange) : MasqueradeReserves result newsrc ifindex mr w conntrack ↔
      Reserved (result ≥ 0) result.toInt (chosenPort (masqueraded w conntrack ifindex)
        (masqueradedRange result newsrc mr (w.conntrack conntrack)) conntrack) := by
  unfold MasqueradeReserves
  rw [masqueradeTarget_asks source address fresh]
  constructor
  · rintro ⟨mr', w', same, reserved⟩
    have tables := (Prod.mk.inj (Prod.mk.inj (Option.some.inj same)).2).2
    rw [← tables, sourcePort_natSetup] at reserved
    exact reserved
  · intro reserved
    refine ⟨_, _, rfl, ?_⟩
    rw [sourcePort_natSetup]
    exact reserved

/-- The flag for addresses does not touch the flag for ports. -/
theorem passedRange_protoSpecified (call : MasqueradeCall) (range : NatRange) :
    (passedRange call range).protoSpecified = range.protoSpecified := by
  have disjoint : (range.flags ||| ipNatRangeMapIps) &&& ipNatRangeProtoSpecified =
      range.flags &&& ipNatRangeProtoSpecified :=
    or_and_of_disjoint range.flags (by decide)
  unfold NatRange.protoSpecified passedRange
  rw [disjoint]

section MasqueradedPort

variable {result : Int32} (w : NatTables) (conntrack : Nat) (newsrc : UInt32)
  (mr : NatMultiRange) (ct : Conntrack)

/-- An accelerated connection gets the port of the result, modulo 2 ^ 16. -/
theorem masqueradedPort_taken (taken : result ≥ 0) :
    chosenPort w (masqueradedRange result newsrc mr ct) conntrack = (toPort result).toNat := by
  have accelerated : Accelerated (answering result) := ⟨rfl, taken, rfl⟩
  have specified : (ipNatRangeProtoSpecified &&& ipNatRangeProtoSpecified != 0) = true := by decide
  unfold masqueradedRange
  rw [shnatRange_accelerated accelerated]
  refine chosenPort_single w ?_ rfl rfl conntrack
  rw [passedRange_protoSpecified]
  exact specified

/-- A connection that falls back gets the range below the base, with the flag of the rule. -/
theorem masqueradedRange_refused (refused : ¬ result ≥ 0) :
    (masqueradedRange result newsrc mr ct).protoSpecified = mr.range.protoSpecified ∧
      (masqueradedRange result newsrc mr ct).min = htons 0 ∧
      (masqueradedRange result newsrc mr ct).max =
        htons (UInt16.ofNat (hnatSourcePortBase - 1)) := by
  have fallsBack : FallsBack (answering result) := ⟨rfl, fun both => refused both.1, rfl⟩
  unfold masqueradedRange
  rw [passedRange_protoSpecified, shnatRange_fallsBack fallsBack]
  exact ⟨rfl, rfl, rfl⟩

/-- If the flag of the rule is set, a connection that falls back gets a low port. -/
theorem masqueradedPort_low (refused : ¬ result ≥ 0) (specified : mr.range.protoSpecified = true) :
    chosenPort w (masqueradedRange result newsrc mr ct) conntrack < hnatSourcePortBase := by
  obtain ⟨flag, min, max⟩ := masqueradedRange_refused newsrc mr ct refused
  have ordered : (htons (masqueradedRange result newsrc mr ct).min).toNat ≤
      (htons (masqueradedRange result newsrc mr ct).max).toNat := by
    rw [min, max]
    decide
  have between := chosenPort_between w (flag.trans specified) ordered conntrack
  rw [max] at between
  exact Nat.lt_of_le_of_lt between.2 (by decide)

/-- If the flag is not set, it can take over port 60000 from an earlier connection. -/
theorem masqueradedPort_shared (ifindex : Nat) (refused : ¬ result ≥ 0)
    (unspecified : mr.range.protoSpecified = false) :
    chosenPort (masqueraded (sharedTables ct ct newsrc) 0 ifindex)
      (masqueradedRange result newsrc mr ct) 0 = 60000 := by
  have shares : Shares (masqueraded (sharedTables ct ct newsrc) 0 ifindex) 0 newsrc 2 :=
    ⟨fun _ => rfl, rfl, (sharedTables_shares ct ct newsrc).sender, rfl⟩
  have flag := (masqueradedRange_refused newsrc mr ct refused).1
  exact chosenPort_shares shares rfl (flag.trans unspecified)

end MasqueradedPort

/-- Masquerading keeps the ports of the accelerator for every state of the tables exactly
when the result of the hook is a port, or the hook failed on a rule whose flags say that
its ports count. -/
theorem masquerade_ports {ct : Conntrack} {newsrc : UInt32}
    (source : ct.original.src.ip ≠ 0) (address : newsrc ≠ 0) (fresh : ct.srcNatDone = false)
    (result : Int32) (ifindex : Nat) (mr : NatMultiRange) :
    (∀ w conntrack, w.conntrack conntrack = ct →
      MasqueradeReserves result newsrc ifindex mr w conntrack) ↔
    (0 ≤ result.toInt ∧ result.toInt < 65536) ∨
      (result.toInt < 0 ∧ mr.range.protoSpecified = true) := by
  have sign : result ≥ 0 ↔ 0 ≤ result.toInt := Int32.le_iff_toInt_le
  have port := toNat_toPort result
  have reserves : ∀ w conntrack, w.conntrack conntrack = ct →
      (MasqueradeReserves result newsrc ifindex mr w conntrack ↔
        Reserved (result ≥ 0) result.toInt (chosenPort (masqueraded w conntrack ifindex)
          (masqueradedRange result newsrc mr ct) conntrack)) := by
    rintro w conntrack rfl
    exact masqueradeReserves_iff source address fresh result ifindex mr
  constructor
  · intro always
    have reserved := (reserves _ _ rfl).mp (always (sharedTables ct ct newsrc) 0 rfl)
    by_cases taken : result ≥ 0
    · rw [masqueradedPort_taken _ _ _ _ _ taken] at reserved
      have exactly := reserved.2 taken
      have nonneg := sign.mp taken
      omega
    · have negative : ¬ 0 ≤ result.toInt := fun nonneg => taken (sign.mpr nonneg)
      refine Or.inr ⟨by omega, ?_⟩
      by_contra unspecified
      rw [masqueradedPort_shared _ _ _ _ taken (Bool.eq_false_of_not_eq_true unspecified)]
        at reserved
      exact not_reserved_high taken _ reserved
  · intro cond w conntrack here
    rw [reserves w conntrack here]
    by_cases taken : result ≥ 0
    · rw [masqueradedPort_taken _ _ _ _ _ taken]
      have nonneg := sign.mp taken
      refine ⟨fun _ => taken, fun _ => ?_⟩
      omega
    · have negative : ¬ 0 ≤ result.toInt := fun nonneg => taken (sign.mpr nonneg)
      have specified : mr.range.protoSpecified = true := by
        rcases cond with inside | ⟨_, specified⟩
        · exact absurd inside.1 negative
        · exact specified
      exact reserved_low taken _ (masqueradedPort_low _ _ _ _ _ taken specified)

/-! ## `ip_nat_follow_master` -/

/-- `ip_nat_follow_master` sets the connection up, with a port that is right for the pre-add
result if the hook is asked about the connection at all. -/
def FollowReserves (result : Int32) (stale : UInt16 × UInt16) (exp : Expect) (w : NatTables)
    (conntrack master : Nat) : Prop :=
  ∃ w', ipNatFollowMaster (answering result) stale w conntrack master exp = some w' ∧
    Reserved (ftpData (w.conntrack conntrack) (w.conntrack master) = true ∧ result ≥ 0)
      (result.toInt + hnatSourcePortBase) (sourcePort w' conntrack)

/-- The range that `ip_nat_follow_master` passes for the source. -/
def followedRange (result : Int32) (stale : UInt16 × UInt16) (exp : Expect)
    (ct master : Conntrack) : NatRange :=
  followRange (answering result) ct master
    ⟨ipNatRangeMapIps, (master.tuplehash exp.dir.flip).dst.ip,
      (master.tuplehash exp.dir.flip).dst.ip, stale.1, stale.2⟩

/-- `ip_nat_follow_master` for a fresh connection: the source, then the destination. -/
theorem ipNatFollowMaster_fresh {w : NatTables} (fresh : (w.conntrack conntrack).natDone = false)
    (result : Int32) (stale : UInt16 × UInt16) (exp : Expect) (master : Nat) :
    ∃ destination, ipNatFollowMaster (answering result) stale w conntrack master exp =
      some (natSetup (natSetup w conntrack (followedRange result stale exp
        (w.conntrack conntrack) (w.conntrack master)) .src) conntrack destination .dst) := by
  obtain ⟨noSource, noDestination⟩ := Bool.or_eq_false_iff.mp fresh
  have first : ∀ range, ipNatSetupInfo w conntrack range .postRouting =
      some (natSetup w conntrack range .src) :=
    fun range => ipNatSetupInfo_fresh range noSource
  have unmarked : ∀ range, ((natSetup w conntrack range .src).conntrack conntrack).natInitialized
      (HookNum.manip .preRouting) = false := by
    intro range
    change ((natSetup w conntrack range .src).conntrack conntrack).dstNatDone = false
    rw [natSetup_conntrack, manipulated_dstNatDone]
    exact noDestination
  have second : ∀ range range', ipNatSetupInfo (natSetup w conntrack range .src) conntrack range'
      .preRouting = some (natSetup (natSetup w conntrack range .src) conntrack range' .dst) :=
    fun range range' => ipNatSetupInfo_fresh range' (unmarked range)
  unfold ipNatFollowMaster
  dsimp only
  rw [fresh, if_neg Bool.false_ne_true, first, Option.bind_eq_bind, Option.bind_some, second]
  exact ⟨_, rfl⟩

/-- The port of an expected connection is chosen in the first of the two set-ups. -/
theorem followReserves_iff {w : NatTables} (fresh : (w.conntrack conntrack).natDone = false)
    (result : Int32) (stale : UInt16 × UInt16) (exp : Expect) (master : Nat) :
    FollowReserves result stale exp w conntrack master ↔
      Reserved (ftpData (w.conntrack conntrack) (w.conntrack master) = true ∧ result ≥ 0)
        (result.toInt + hnatSourcePortBase)
        (chosenPort w (followedRange result stale exp (w.conntrack conntrack)
          (w.conntrack master)) conntrack) := by
  obtain ⟨destination, target⟩ := ipNatFollowMaster_fresh fresh result stale exp master
  unfold FollowReserves
  rw [target]
  constructor
  · rintro ⟨w', same, reserved⟩
    rw [← Option.some.inj same, sourcePort_destination, sourcePort_natSetup] at reserved
    exact reserved
  · intro reserved
    refine ⟨_, rfl, ?_⟩
    rw [sourcePort_destination, sourcePort_natSetup]
    exact reserved

/-- The sum of the result and the base, as an `int`. -/
theorem toInt_hnatHash (result : Int32) :
    (result + Int32.ofNat hnatSourcePortBase).toInt =
      if result.toInt < 2 ^ 31 - 50000 then result.toInt + 50000
      else result.toInt + 50000 - 2 ^ 32 := by
  have base : (Int32.ofNat hnatSourcePortBase).toInt = 50000 := by decide
  have low := result.le_toInt
  have high := result.toInt_lt
  rw [Int32.toInt_add, base, Int.bmod_def]
  split <;> split <;> omega

/-- The test of the sum: it is taken also for small negative results, and not for results
that overflow. -/
theorem hnatHash_nonneg_iff (result : Int32) :
    result + Int32.ofNat hnatSourcePortBase ≥ 0 ↔
      -50000 ≤ result.toInt ∧ result.toInt < 2 ^ 31 - 50000 := by
  have low := result.le_toInt
  have high := result.toInt_lt
  have sign : result + Int32.ofNat hnatSourcePortBase ≥ 0 ↔
      0 ≤ (result + Int32.ofNat hnatSourcePortBase).toInt := Int32.le_iff_toInt_le
  rw [sign, toInt_hnatHash]
  split <;> omega

section FollowedPort

variable {result : Int32} (stale : UInt16 × UInt16) (exp : Expect) {ct master : Conntrack}

/-- A connection that is taken gets the single port of the sum, modulo 2 ^ 16. -/
theorem followedPort_taken (ftp : ftpData ct master = true)
    (taken : result + Int32.ofNat hnatSourcePortBase ≥ 0) (w : NatTables) (conntrack : Nat) :
    chosenPort w (followedRange result stale exp ct master) conntrack =
      (toPort (result + Int32.ofNat hnatSourcePortBase)).toNat := by
  have specified : ((ipNatRangeMapIps ||| ipNatRangeProtoSpecified) &&&
      ipNatRangeProtoSpecified != 0) = true := by decide
  unfold followedRange followRange
  rw [if_pos ⟨rfl, ftp⟩]
  dsimp only
  rw [if_pos ⟨taken, rfl⟩]
  refine chosenPort_single w ?_ rfl rfl conntrack
  exact specified

/-- Any other connection can take over port 60000 from an earlier connection: its range has
no flag for ports. -/
theorem followedPort_shared (refused : ¬ (ftpData ct master = true ∧
    result + Int32.ofNat hnatSourcePortBase ≥ 0)) :
    chosenPort (sharedTables ct master (master.tuplehash exp.dir.flip).dst.ip)
      (followedRange result stale exp ct master) 0 = 60000 := by
  have unspecified : (ipNatRangeMapIps &&& ipNatRangeProtoSpecified != 0) = false := by decide
  have shares := sharedTables_shares ct master (master.tuplehash exp.dir.flip).dst.ip
  unfold followedRange followRange
  by_cases ftp : ftpData ct master = true
  · have negative : ¬ ((answering result).preadd + Int32.ofNat hnatSourcePortBase ≥ 0 ∧
        (answering result).ftponly = 0) := fun both => refused ⟨ftp, both.1⟩
    rw [if_pos ⟨rfl, ftp⟩]
    dsimp only
    rw [if_neg negative, if_pos (show (answering result).enable = 1 from rfl)]
    exact chosenPort_shares shares rfl unspecified
  · rw [if_neg (fun both => ftp both.2)]
    exact chosenPort_shares shares rfl unspecified

end FollowedPort

/-- An expected connection keeps the ports of the accelerator for every state of the tables
exactly when it is of a kind for which the hook is asked and the sum of the result and the
base is a port. -/
theorem follow_ports {ct : Conntrack} (fresh : ct.natDone = false) (result : Int32)
    (stale : UInt16 × UInt16) (exp : Expect) (master : Conntrack) :
    (∀ w conntrack m, w.conntrack conntrack = ct → w.conntrack m = master →
      FollowReserves result stale exp w conntrack m) ↔
    ftpData ct master = true ∧ -50000 ≤ result.toInt ∧ result.toInt < 65536 - 50000 := by
  have sign : result ≥ 0 ↔ 0 ≤ result.toInt := Int32.le_iff_toInt_le
  have sum := toInt_hnatHash result
  have nonneg := hnatHash_nonneg_iff result
  have port := toNat_toPort (result + Int32.ofNat hnatSourcePortBase)
  have base : (hnatSourcePortBase : Int) = 50000 := rfl
  have reserves : ∀ w conntrack m, w.conntrack conntrack = ct → w.conntrack m = master →
      (FollowReserves result stale exp w conntrack m ↔
        Reserved (ftpData ct master = true ∧ result ≥ 0) (result.toInt + hnatSourcePortBase)
          (chosenPort w (followedRange result stale exp ct master) conntrack)) := by
    rintro w conntrack m rfl rfl
    exact followReserves_iff fresh result stale exp m
  constructor
  · intro always
    have reserved := (reserves _ 0 1 rfl rfl).mp
      (always (sharedTables ct master (master.tuplehash exp.dir.flip).dst.ip) 0 1 rfl rfl)
    by_cases taken : ftpData ct master = true ∧ result + Int32.ofNat hnatSourcePortBase ≥ 0
    · rw [followedPort_taken stale exp taken.1 taken.2] at reserved
      refine ⟨taken.1, (nonneg.mp taken.2).1, ?_⟩
      by_contra large
      have exactly := reserved.2 ⟨taken.1, sign.mpr (by omega)⟩
      omega
    · rw [followedPort_shared stale exp taken] at reserved
      have success := reserved.1 (by decide)
      have exactly := reserved.2 success
      refine absurd ⟨success.1, nonneg.mpr ?_⟩ taken
      omega
  · rintro ⟨ftp, low, small⟩ w conntrack m here there
    have taken : result + Int32.ofNat hnatSourcePortBase ≥ 0 := nonneg.mpr ⟨low, by omega⟩
    rw [if_pos (by omega)] at sum
    rw [reserves w conntrack m here there, followedPort_taken stale exp ftp taken]
    constructor
    · intro high
      have size : 50000 ≤ (toPort (result + Int32.ofNat hnatSourcePortBase)).toNat := high
      exact ⟨ftp, sign.mpr (by omega)⟩
    · intro _
      omega

/-! ## Both callers -/

/-- With the accelerator on, the source port of a connection is right for the pre-add result
in every state of the tables exactly when: masquerading, the result is a port, or it is
negative and the flags of the rule say that its ports count; following a master, the hook
is asked and the sum of the result and the base is a port. -/
theorem ports_reserved_iff (result : Int32) :
    (∀ (ct : Conntrack) (newsrc : UInt32) (ifindex : Nat) (mr : NatMultiRange),
      ct.original.src.ip ≠ 0 → newsrc ≠ 0 → ct.srcNatDone = false →
      ((∀ w conntrack, w.conntrack conntrack = ct →
        MasqueradeReserves result newsrc ifindex mr w conntrack) ↔
      (0 ≤ result.toInt ∧ result.toInt < 65536) ∨
        (result.toInt < 0 ∧ mr.range.protoSpecified = true))) ∧
    (∀ (ct master : Conntrack) (stale : UInt16 × UInt16) (exp : Expect),
      ct.natDone = false →
      ((∀ w conntrack m, w.conntrack conntrack = ct → w.conntrack m = master →
        FollowReserves result stale exp w conntrack m) ↔
      ftpData ct master = true ∧ -50000 ≤ result.toInt ∧ result.toInt < 65536 - 50000)) := by
  constructor
  · intro ct newsrc ifindex mr source address fresh
    exact masquerade_ports source address fresh result ifindex mr
  · intro ct master stale exp fresh
    exact follow_ports fresh result stale exp master

/-- A fresh connection from 192.168.1.2, port 60000, to port 80 of 10.0.0.1. -/
def webConntrack : Conntrack where
  original := ⟨⟨htonl 0xC0A80102, htons 60000⟩, ⟨htonl 0x0A000001, htons 80, 6, .original⟩⟩
  reply := ⟨⟨htonl 0x0A000001, htons 80⟩, ⟨htonl 0xC0A80102, htons 60000, 6, .reply⟩⟩
  srcNat := false
  dstNat := false
  srcNatDone := false
  dstNatDone := false
  masqIndex := 0

/-- Tables that hold nothing but this connection, at every address. -/
def webTables : NatTables where
  conntrack := fun _ => webConntrack
  hashed := []
  htableSize := 1
  bysource := fun _ => []
  tcpPort := 0

/-- The law for an accelerated connection: it gets port 50001. -/
theorem ports_reserved_accelerated :
    MasqueradeReserves 50001 (htonl 0x0A000002) 2 plainRule webTables 0 :=
  ((ports_reserved_iff 50001).1 webConntrack (htonl 0x0A000002) 2 plainRule (by decide) (by decide)
    rfl).mpr (Or.inl (by decide)) webTables 0 rfl

/-- The hook refuses the connection, and on a plain rule it keeps its own port 60000. -/
theorem refused_port_kept :
    (∃ mr' w', masqueradeTarget (answering (-1)) (htonl 0x0A000002) 2 webTables 0 plainRule =
      some (.accept, mr', w') ∧ sourcePort w' 0 = 60000) ∧
    ¬ MasqueradeReserves (-1) (htonl 0x0A000002) 2 plainRule webTables 0 := by
  have source : (webTables.conntrack 0).original.src.ip ≠ 0 := by decide
  have address : htonl 0x0A000002 ≠ 0 := by decide
  have chosen : chosenPort (masqueraded webTables 0 2)
      (masqueradedRange (-1) (htonl 0x0A000002) plainRule (webTables.conntrack 0)) 0 = 60000 := by
    decide
  constructor
  · refine ⟨_, _, masqueradeTarget_asks source address rfl (-1) 2 plainRule, ?_⟩
    rw [sourcePort_natSetup]
    exact chosen
  · rw [masqueradeReserves_iff source address rfl, chosen]
    exact not_reserved_high (by decide) _

end Fvs318g.Verif.NatPorts
