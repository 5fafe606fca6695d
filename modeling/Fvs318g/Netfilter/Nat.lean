import Fvs318g.Kernel.SkBuff

/-!
# Choosing a tuple for a translated connection

`ip_nat_core.c` and `ip_nat_proto_tcp.c` for TCP connections: the tables that translation
reads, the search for a tuple inside a range, and `ip_nat_setup_info`, which gives a
connection its new reply tuple. Addresses and ports are kept in network byte order, as in
the source.
-/

namespace Fvs318g.Netfilter

open Kernel

/-! ## Hashing -/

/-- `htonl` and `ntohl` on a little-endian machine. -/
def htonl (x : UInt32) : UInt32 :=
  let middle : UInt32 := 0xff00
  (x <<< 24) ||| ((x &&& middle) <<< 8) ||| ((x >>> 8) &&& middle) ||| (x >>> 24)

/-- `__jhash_mix`. -/
def jhashMix (a b c : UInt32) : UInt32 × UInt32 × UInt32 :=
  let a := (a - b - c) ^^^ (c >>> 13)
  let b := (b - c - a) ^^^ (a <<< 8)
  let c := (c - a - b) ^^^ (b >>> 13)
  let a := (a - b - c) ^^^ (c >>> 12)
  let b := (b - c - a) ^^^ (a <<< 16)
  let c := (c - a - b) ^^^ (b >>> 5)
  let a := (a - b - c) ^^^ (c >>> 3)
  let b := (b - c - a) ^^^ (a <<< 10)
  let c := (c - a - b) ^^^ (b >>> 15)
  (a, b, c)

/-- `JHASH_GOLDEN_RATIO`. -/
def jhashGoldenRatio : UInt32 := 0x9e3779b9

/-- `jhash_3words`. -/
def jhash3Words (a b c initval : UInt32) : UInt32 :=
  (jhashMix (a + jhashGoldenRatio) (b + jhashGoldenRatio) (c + initval)).2.2

/-- `jhash_2words`. -/
def jhash2Words (a b initval : UInt32) : UInt32 := jhash3Words a b 0 initval

/-! ## Tuples and connections -/

/-- `enum ip_conntrack_dir`. -/
inductive Dir where
  /-- `IP_CT_DIR_ORIGINAL`. -/
  | original
  /-- `IP_CT_DIR_REPLY`. -/
  | reply
  deriving DecidableEq, Repr

/-- `!dir`. -/
def Dir.flip : Dir → Dir
  | .original => .reply
  | .reply => .original

/-- `struct ip_conntrack_manip`: the part of a tuple that translation changes. -/
structure Manip where
  /-- `ip`. -/
  ip : UInt32
  /-- `u.all`, the port of a TCP connection. -/
  all : UInt16
  deriving DecidableEq, Repr

/-- The `dst` member of a tuple. -/
structure TupleDst where
  /-- `ip`. -/
  ip : UInt32
  /-- `u.all`. -/
  all : UInt16
  /-- `protonum`. -/
  protonum : UInt8
  /-- `dir`. -/
  dir : Dir
  deriving DecidableEq, Repr

/-- `struct ip_conntrack_tuple`. -/
structure Tuple where
  /-- `src`. -/
  src : Manip
  /-- `dst`. -/
  dst : TupleDst
  deriving DecidableEq, Repr

/-- `enum ip_nat_manip_type`. -/
inductive ManipType where
  /-- `IP_NAT_MANIP_SRC`. -/
  | src
  /-- `IP_NAT_MANIP_DST`. -/
  | dst
  deriving DecidableEq, Repr

namespace Tuple

/-- `invert_tuplepr` with `tcp_invert_tuple`. -/
def invert (t : Tuple) : Tuple where
  src := ⟨t.dst.ip, t.dst.all⟩
  dst := ⟨t.src.ip, t.src.all, t.dst.protonum, t.dst.dir.flip⟩

/-- `ip_ct_tuple_equal`: the direction does not count. -/
def equal (t u : Tuple) : Bool :=
  t.src.ip == u.src.ip && t.src.all == u.src.all && t.dst.ip == u.dst.ip &&
    t.dst.all == u.dst.all && t.dst.protonum == u.dst.protonum

/-- The port that a manipulation changes. -/
def port (t : Tuple) : ManipType → UInt16
  | .src => t.src.all
  | .dst => t.dst.all

/-- Write through `portptr`. -/
def setPort (t : Tuple) (value : UInt16) : ManipType → Tuple
  | .src => { t with src := { t.src with all := value } }
  | .dst => { t with dst := { t.dst with all := value } }

/-- Write through `var_ipp`. -/
def setIp (t : Tuple) (value : UInt32) : ManipType → Tuple
  | .src => { t with src := { t.src with ip := value } }
  | .dst => { t with dst := { t.dst with ip := value } }

end Tuple

/-- What translation reads and writes of `struct ip_conntrack`. -/
structure Conntrack where
  /-- `tuplehash[IP_CT_DIR_ORIGINAL].tuple`. -/
  original : Tuple
  /-- `tuplehash[IP_CT_DIR_REPLY].tuple`. -/
  reply : Tuple
  /-- `IPS_SRC_NAT`. -/
  srcNat : Bool
  /-- `IPS_DST_NAT`. -/
  dstNat : Bool
  /-- `IPS_SRC_NAT_DONE`. -/
  srcNatDone : Bool
  /-- `IPS_DST_NAT_DONE`. -/
  dstNatDone : Bool
  /-- `nat.masq_index`. -/
  masqIndex : Nat
  deriving DecidableEq, Repr

namespace Conntrack

/-- `tuplehash[dir].tuple`. -/
def tuplehash (ct : Conntrack) : Dir → Tuple
  | .original => ct.original
  | .reply => ct.reply

/-- `ip_nat_initialized`. -/
def natInitialized (ct : Conntrack) : ManipType → Bool
  | .src => ct.srcNatDone
  | .dst => ct.dstNatDone

/-- `status & IPS_NAT_DONE_MASK`. -/
def natDone (ct : Conntrack) : Bool := ct.srcNatDone || ct.dstNatDone

end Conntrack

/-- The tables of connection tracking and translation. Connections are known by their
addresses, as in the lists of the source. -/
structure NatTables where
  /-- The connections, by address. -/
  conntrack : Nat → Conntrack
  /-- The entries of `ip_conntrack_hash`, over all buckets: connection and direction. -/
  hashed : List (Nat × Dir)
  /-- `ip_nat_htable_size`. -/
  htableSize : Nat
  /-- `bysource`. -/
  bysource : Nat → List Nat
  /-- The static `port` of `tcp_unique_tuple`. -/
  tcpPort : UInt16

/-- Write to one connection. -/
def NatTables.set (w : NatTables) (id : Nat) (ct : Conntrack) : NatTables :=
  { w with conntrack := fun i => if i = id then ct else w.conntrack i }

/-- `ip_nat_used_tuple` with `ip_conntrack_tuple_taken`: a reply would look like another
connection. -/
def ipNatUsedTuple (w : NatTables) (tuple : Tuple) (ignoredConntrack : Nat) : Bool :=
  w.hashed.any fun entry =>
    entry.1 != ignoredConntrack &&
      tuple.invert.equal ((w.conntrack entry.1).tuplehash entry.2)

/-! ## Ranges -/

/-- `IP_NAT_RANGE_MAP_IPS`. -/
def ipNatRangeMapIps : UInt32 := 1

/-- `IP_NAT_RANGE_PROTO_SPECIFIED`. -/
def ipNatRangeProtoSpecified : UInt32 := 2

/-- `struct ip_nat_range`. -/
structure NatRange where
  /-- `flags`. -/
  flags : UInt32
  /-- `min_ip`. -/
  minIp : UInt32
  /-- `max_ip`. -/
  maxIp : UInt32
  /-- `min.all`. -/
  min : UInt16
  /-- `max.all`. -/
  max : UInt16
  deriving DecidableEq, Repr

namespace NatRange

/-- `flags & IP_NAT_RANGE_MAP_IPS`. -/
def mapIps (range : NatRange) : Bool := range.flags &&& ipNatRangeMapIps != 0

/-- `flags & IP_NAT_RANGE_PROTO_SPECIFIED`. -/
def protoSpecified (range : NatRange) : Bool := range.flags &&& ipNatRangeProtoSpecified != 0

end NatRange

/-- `tcp_in_range`. -/
def tcpInRange (tuple : Tuple) (maniptype : ManipType) (min max : UInt16) : Bool :=
  htons (tuple.port maniptype) ≥ htons min && htons (tuple.port maniptype) ≤ htons max

/-- `in_range`. -/
def inRange (tuple : Tuple) (range : NatRange) : Bool :=
  if range.mapIps ∧
      (htonl tuple.src.ip < htonl range.minIp ∨ htonl tuple.src.ip > htonl range.maxIp) then false
  else !range.protoSpecified || tcpInRange tuple .src range.min range.max

/-! ## `get_unique_tuple` -/

/-- `hash_by_src`. -/
def hashBySrc (w : NatTables) (tuple : Tuple) : Nat :=
  (jhash3Words tuple.src.ip tuple.src.all.toUInt32 tuple.dst.protonum.toUInt32 0).toNat %
    w.htableSize

/-- `same_src`. -/
def sameSrc (ct : Conntrack) (tuple : Tuple) : Bool :=
  ct.original.dst.protonum == tuple.dst.protonum && ct.original.src.ip == tuple.src.ip &&
    ct.original.src.all == tuple.src.all

/-- `find_appropriate_src`: the source that an earlier connection of the same sender got, if
it lies in the range. -/
def findAppropriateSrc (w : NatTables) (tuple : Tuple) (range : NatRange) : Option Tuple :=
  (w.bysource (hashBySrc w tuple)).findSome? fun id =>
    if sameSrc (w.conntrack id) tuple then
      let result := { (w.conntrack id).reply.invert with dst := tuple.dst }
      if inRange result range then some result else none
    else none

/-- `find_best_ips_proto`. -/
def findBestIpsProto (tuple : Tuple) (range : NatRange) (maniptype : ManipType) : Tuple :=
  if !range.mapIps then tuple
  else if range.minIp = range.maxIp then tuple.setIp range.minIp maniptype
  else
    let minip := htonl range.minIp
    let maxip := htonl range.maxIp
    let j := jhash2Words tuple.src.ip tuple.dst.ip 0
    tuple.setIp (htonl (minip + j % (maxip - minip + 1))) maniptype

/-- The first port that `tcp_unique_tuple` tries and the number of ports, in unsigned
arithmetic; nothing for a destination without a range. -/
def tcpPorts (tuple : Tuple) (range : NatRange) (maniptype : ManipType) : Option (Nat × Nat) :=
  if !range.protoSpecified then
    if maniptype = .dst then none
    else if htons (tuple.port maniptype) < 1024 then
      if htons (tuple.port maniptype) < 512 then some (1, 511 - 1 + 1)
      else some (600, 1023 - 600 + 1)
    else some (1024, 65535 - 1024 + 1)
  else
    let min := (htons range.min).toNat
    some (min, ((htons range.max).toNat + 2 ^ 32 - min + 1) % 2 ^ 32)

/-- The loop of `tcp_unique_tuple`, with `n` rounds left: the tuple and the static port that
it leaves. -/
def tcpSearch (used : Tuple → Bool) (maniptype : ManipType) (min rangeSize : Nat) :
    Nat → Tuple → UInt16 → Tuple × UInt16
  | 0, tuple, port => (tuple, port)
  | n + 1, tuple, port =>
    let tuple := tuple.setPort (htons (UInt16.ofNat (min + port.toNat % rangeSize))) maniptype
    if used tuple then tcpSearch used maniptype min rangeSize n tuple (port + 1)
    else (tuple, port)

/-- `tcp_unique_tuple`. -/
def tcpUniqueTuple (used : Tuple → Bool) (tuple : Tuple) (range : NatRange)
    (maniptype : ManipType) (port : UInt16) : Tuple × UInt16 :=
  match tcpPorts tuple range maniptype with
  | none => (tuple, port)
  | some (min, rangeSize) => tcpSearch used maniptype min rangeSize rangeSize tuple port

/-- Steps 2 and 3 of `get_unique_tuple`: the address, then the port if it has to change. -/
def mapTuple (w : NatTables) (origTuple : Tuple) (range : NatRange) (conntrack : Nat)
    (maniptype : ManipType) : Tuple × UInt16 :=
  let tuple := findBestIpsProto origTuple range maniptype
  if (!range.protoSpecified || tcpInRange tuple maniptype range.min range.max) &&
      !ipNatUsedTuple w tuple conntrack then (tuple, w.tcpPort)
  else
    tcpUniqueTuple (fun tuple => ipNatUsedTuple w tuple conntrack) tuple range maniptype w.tcpPort

/-- `get_unique_tuple`: the tuple, and the static port of `tcp_unique_tuple` afterwards. -/
def getUniqueTuple (w : NatTables) (origTuple : Tuple) (range : NatRange) (conntrack : Nat)
    (maniptype : ManipType) : Tuple × UInt16 :=
  match maniptype, findAppropriateSrc w origTuple range with
  | .src, some tuple =>
    if !ipNatUsedTuple w tuple conntrack then (tuple, w.tcpPort)
    else mapTuple w origTuple range conntrack .src
  | _, _ => mapTuple w origTuple range conntrack maniptype

/-! ## `ip_nat_setup_info` -/

/-- The hooks at which a connection is set up. -/
inductive HookNum where
  /-- `NF_IP_PRE_ROUTING`. -/
  | preRouting
  /-- `NF_IP_LOCAL_IN`. -/
  | localIn
  /-- `NF_IP_LOCAL_OUT`. -/
  | localOut
  /-- `NF_IP_POST_ROUTING`. -/
  | postRouting
  deriving DecidableEq, Repr

/-- `HOOK2MANIP`. -/
def HookNum.manip : HookNum → ManipType
  | .postRouting => .src
  | .localIn => .src
  | .preRouting => .dst
  | .localOut => .dst

/-- Record a manipulation: the changed reply tuple, and that it is done. -/
def Conntrack.manipulated (ct : Conntrack) (currTuple newTuple : Tuple) : ManipType → Conntrack
  | .src =>
    if newTuple.equal currTuple then { ct with srcNatDone := true }
    else { ct with reply := newTuple.invert, srcNat := true, srcNatDone := true }
  | .dst =>
    if newTuple.equal currTuple then { ct with dstNatDone := true }
    else { ct with reply := newTuple.invert, dstNat := true, dstNatDone := true }

/-- The body of `ip_nat_setup_info`: choose a tuple, record it, and place the connection in
the source hash if this is its first manipulation. -/
def natSetup (w : NatTables) (conntrack : Nat) (range : NatRange) (maniptype : ManipType) :
    NatTables :=
  let ct := w.conntrack conntrack
  let currTuple := ct.reply.invert
  let chosen := getUniqueTuple w currTuple range conntrack maniptype
  let srchash := hashBySrc w ct.original
  { w.set conntrack (ct.manipulated currTuple chosen.1 maniptype) with
    tcpPort := chosen.2
    bysource := fun h =>
      if !ct.natDone ∧ h = srchash then conntrack :: w.bysource h else w.bysource h }

/-- `ip_nat_setup_info`; nothing stands for `BUG_ON`, a manipulation that was done before.
The result is always `NF_ACCEPT`. -/
def ipNatSetupInfo (w : NatTables) (conntrack : Nat) (range : NatRange) (hooknum : HookNum) :
    Option NatTables :=
  if (w.conntrack conntrack).natInitialized hooknum.manip then none
  else some (natSetup w conntrack range hooknum.manip)

end Fvs318g.Netfilter
