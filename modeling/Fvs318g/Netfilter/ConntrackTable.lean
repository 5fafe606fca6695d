import Fvs318g.Netfilter.Expect

/-!
# The table of connections

The life of a connection in `ip_conntrack_core.c`: it is set up for a packet that belongs to none,
waits on the list `unconfirmed` until the packet leaves, then stands in the hash by both of its
tuples until its timer expires, and is freed when nobody refers to it any more. With the hardware
translation a hook may refuse the death of a connection, which then stays without a timer.

The chains of the hash are kept as one list, newest entry first; a chain is the part of the list
with its hash. The protocol is an input of the functions that ask it.
-/

namespace Fvs318g.Netfilter

/-- The fields of `struct ip_conntrack` that the table uses. -/
structure Connection where
  /-- `tuplehash[IP_CT_DIR_ORIGINAL].tuple`. -/
  original : Tuple
  /-- `tuplehash[IP_CT_DIR_REPLY].tuple`. -/
  reply : Tuple
  /-- `ct_general.use`. -/
  use : Int
  /-- `IPS_CONFIRMED`. -/
  confirmed : Bool
  /-- `IPS_ASSURED`. -/
  assured : Bool
  /-- `timer_pending(&timeout)`. -/
  pending : Bool
  /-- `master`. -/
  master : Option Nat
  deriving DecidableEq, Repr

/-- `tuplehash[dir].tuple`. -/
def Connection.tuplehash (c : Connection) : Dir → Tuple
  | .original => c.original
  | .reply => c.reply

/-- What is fixed for a table. -/
structure TableEnv where
  /-- `ip_conntrack_htable_size`. -/
  htableSize : Nat
  /-- `ip_conntrack_hash_rnd`. -/
  rnd : UInt32
  /-- `ip_conntrack_max`. -/
  max : Nat

/-- The connections, the hash and the expectations. -/
structure ConntrackTable where
  /-- The connections by their names. -/
  conn : Nat → Connection
  /-- Those that are allocated in `ip_conntrack_cachep`. -/
  allocated : List Nat
  /-- The entries of `ip_conntrack_hash`. -/
  hash : List (Nat × Dir)
  /-- `unconfirmed`. -/
  unconfirmed : List Nat
  /-- `ip_conntrack_count`. -/
  count : Int
  /-- The expectations. -/
  exps : Expectations

/-- `__hash_conntrack`. -/
def hashConntrack (env : TableEnv) (tuple : Tuple) : Nat :=
  (jhash3Words tuple.src.ip (tuple.dst.ip ^^^ tuple.dst.protonum.toUInt32)
    (tuple.src.all.toUInt32 ||| (tuple.dst.all.toUInt32 <<< 16)) env.rnd).toNat % env.htableSize

namespace ConntrackTable

/-- Write to one connection. -/
def modify (s : ConntrackTable) (ct : Nat) (f : Connection → Connection) : ConntrackTable :=
  { s with conn := Function.update s.conn ct (f (s.conn ct)) }

/-- The tuple of an entry. -/
def tupleOf (s : ConntrackTable) (entry : Nat × Dir) : Tuple := (s.conn entry.1).tuplehash entry.2

/-- A chain of the hash. -/
def chain (env : TableEnv) (s : ConntrackTable) (hash : Nat) : List (Nat × Dir) :=
  s.hash.filter fun entry => hashConntrack env (s.tupleOf entry) = hash

/-! ## Ending a connection -/

/-- `clean_from_lists`. -/
def cleanFromLists (s : ConntrackTable) (ct : Nat) : ConntrackTable :=
  { s with
    hash := (s.hash.erase (ct, .original)).erase (ct, .reply)
    exps := s.exps.removeExpectations ct }

/-- `ip_conntrack_free`. -/
def conntrackFree (s : ConntrackTable) (ct : Nat) : ConntrackTable :=
  { s with
    count := s.count - 1
    allocated := s.allocated.erase ct }

/-- `destroy_conntrack`, up to the put of the master. -/
def destroyConntrack (s : ConntrackTable) (ct : Nat) : ConntrackTable :=
  conntrackFree { s with
    exps := s.exps.removeExpectations ct
    unconfirmed := if (s.conn ct).confirmed then s.unconfirmed else s.unconfirmed.erase ct } ct

/-- `ip_conntrack_put`, over at most `n` masters. The memory of a connection is given back before
its master is put; nothing looks at it in between. -/
def putLoop : Nat → ConntrackTable → Nat → ConntrackTable
  | 0, s, _ => s
  | n + 1, s, ct =>
    let s' := s.modify ct fun c => { c with use := c.use - 1 }
    if (s.conn ct).use - 1 = 0 then
      match (s.conn ct).master with
      | some master => putLoop n (destroyConntrack s' ct) master
      | none => destroyConntrack s' ct
    else s'

/-- `ip_conntrack_put`: every master on the way is freed but the last. -/
def conntrackPut (s : ConntrackTable) (ct : Nat) : ConntrackTable :=
  putLoop (s.allocated.length + 1) s ct

/-- `del_timer` of a pending timer, or a timer that has expired. -/
def stopTimer (s : ConntrackTable) (ct : Nat) : ConntrackTable :=
  s.modify ct fun c => { c with pending := false }

/-- `death_by_timeout`; `refused` is that `star9100_shnat_nf_remove_hnatable_hook` returns -1. -/
def deathByTimeout (refused : Bool) (s : ConntrackTable) (ct : Nat) : ConntrackTable :=
  if refused then s else conntrackPut (cleanFromLists s ct) ct

/-! ## Finding a connection -/

/-- `__ip_conntrack_find`, without a connection to ignore. -/
def conntrackFind (env : TableEnv) (s : ConntrackTable) (tuple : Tuple) : Option (Nat × Dir) :=
  (chain env s (hashConntrack env tuple)).find? fun h => tuple.equal (s.tupleOf h)

/-- A reference to a connection: `nf_conntrack_get`. -/
def conntrackGet (s : ConntrackTable) (ct : Nat) : ConntrackTable :=
  s.modify ct fun c => { c with use := c.use + 1 }

/-- `early_drop`. -/
def earlyDrop (refused : Nat → Bool) (s : ConntrackTable) (chain : List (Nat × Dir)) :
    Bool × ConntrackTable :=
  match chain.reverse.find? fun h => !(s.conn h.1).assured with
  | none => (false, s)
  | some h =>
    let ct := h.1
    let s' := conntrackGet s ct
    if (s.conn ct).pending then
      (true, conntrackPut (deathByTimeout (refused ct) (stopTimer s' ct) ct) ct)
    else (false, conntrackPut s' ct)

/-! ## Setting up a connection -/

/-- What a new packet meets: the answers of the hook, whether there is memory, the inverse of the
tuple by the protocol, the answer of the protocol's `new`, and `max_expected` of the helper for the
connection. -/
structure NewEnv where
  /-- The hook refuses a death. -/
  refused : Nat → Bool
  /-- `kmem_cache_alloc` succeeds. -/
  memory : Bool
  /-- `ip_ct_invert_tuple`. -/
  inverse : Option Tuple
  /-- `protocol->new`. -/
  accepted : Bool
  /-- `helper->max_expected`. -/
  maxExpected : Nat

/-- The memory of a new connection. -/
def newConnection (orig repl : Tuple) : Connection where
  original := orig
  reply := repl
  use := 1
  confirmed := false
  assured := false
  pending := false
  master := none

/-- `ip_conntrack_alloc` behind the limit; without memory it returns `ERR_PTR(-ENOMEM)`. -/
def allocMemory (memory : Bool) (s : ConntrackTable) (ct : Nat) (orig repl : Tuple) :
    Bool × ConntrackTable :=
  if memory then
    (true, { s.modify ct fun _ => newConnection orig repl with
      allocated := ct :: s.allocated
      count := s.count + 1
      exps := { s.exps with expecting := Function.update s.exps.expecting ct 0 } })
  else (false, s)

/-- `ip_conntrack_alloc`, which also returns `ERR_PTR(-ENOMEM)` for a full table. -/
def conntrackAlloc (env : TableEnv) (new : NewEnv) (s : ConntrackTable) (ct : Nat)
    (orig repl : Tuple) : Bool × ConntrackTable :=
  if env.max ≠ 0 ∧ env.max ≤ s.count then
    -- try dropping from this hash chain
    let (dropped, s') := earlyDrop new.refused s (chain env s (hashConntrack env orig))
    if dropped then allocMemory new.memory s' ct orig repl else (false, s')
  else allocMemory new.memory s ct orig repl

/-- `init_conntrack` under the lock: the expectation that the packet fulfils, or the helper. -/
def linkConntrack (new : NewEnv) (s : ConntrackTable) (ct : Nat) (tuple : Tuple) : ConntrackTable :=
  match s.exps.findExpectation (fun m => (s.conn m).confirmed) tuple with
  | (some i, exps) =>
    let master := (s.exps.exp i).master
    let s' := { s with exps := exps.expectPut i, unconfirmed := ct :: s.unconfirmed }
    conntrackGet (s'.modify ct fun c => { c with master := some master }) master
  | (none, exps) =>
    { s with
      exps := { exps with maxExpected := Function.update exps.maxExpected ct new.maxExpected }
      unconfirmed := ct :: s.unconfirmed }

/-- What `init_conntrack` and `resolve_normal_ct` return. -/
inductive Resolved where
  /-- The connection of the packet. -/
  | found (h : Nat × Dir)
  /-- `NULL`: `ip_conntrack_in` accepts the packet, which belongs to no connection. -/
  | untracked
  /-- `ERR_PTR(-ENOMEM)`: `ip_conntrack_in` drops the packet. -/
  | noMemory
  deriving DecidableEq, Repr

/-- The connection, if there is one. -/
def Resolved.connection : Resolved → Option (Nat × Dir)
  | .found h => some h
  | .untracked => none
  | .noMemory => none

/-- `init_conntrack`. -/
def initConntrack (env : TableEnv) (new : NewEnv) (s : ConntrackTable) (ct : Nat) (tuple : Tuple) :
    Resolved × ConntrackTable :=
  match new.inverse with
  | none => (.untracked, s)
  | some repl =>
    let (allocated, s') := conntrackAlloc env new s ct tuple repl
    if !allocated then (.noMemory, s')
    else if !new.accepted then (.untracked, conntrackFree s' ct)
    else (.found (ct, .original), linkConntrack new s' ct tuple)

/-- `resolve_normal_ct`: the packet then refers to its connection. -/
def resolveNormalCt (env : TableEnv) (new : NewEnv) (s : ConntrackTable) (ct : Nat)
    (tuple : Tuple) : Resolved × ConntrackTable :=
  match conntrackFind env s tuple with
  | some h => (.found h, conntrackGet s h.1)
  | none => initConntrack env new s ct tuple

/-- `__ip_conntrack_confirm` for a packet of the original direction. -/
def conntrackConfirm (env : TableEnv) (s : ConntrackTable) (ct : Nat) : Bool × ConntrackTable :=
  if (conntrackFind env s (s.conn ct).original).isNone ∧
      (conntrackFind env s (s.conn ct).reply).isNone then
    (true, { s.modify ct fun c =>
        { c with pending := true, use := c.use + 1, confirmed := true } with
      unconfirmed := s.unconfirmed.erase ct
      hash := (ct, .reply) :: (ct, .original) :: s.hash })
  else (false, s)

/-- `ip_conntrack_alter_reply`, for a connection that is not confirmed. -/
def alterReply (s : ConntrackTable) (ct : Nat) (newreply : Tuple) (maxExpected : Nat) :
    ConntrackTable :=
  let s' := s.modify ct fun c => { c with reply := newreply }
  if (s.conn ct).master = none ∧ s.exps.expecting ct = 0 then
    { s' with exps := { s'.exps with
      maxExpected := Function.update s'.exps.maxExpected ct maxExpected } }
  else s'

end ConntrackTable

end Fvs318g.Netfilter
