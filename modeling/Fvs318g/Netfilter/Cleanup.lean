import Fvs318g.Lib.System
import Fvs318g.Netfilter.Nat
import Mathlib.Logic.Function.Basic

/-!
# Flushing the connection table

`ip_ct_iterate_cleanup` looks for connections that a predicate selects, stops their timers and
lets them die. Built with the hardware translation it raises the use count by 60000 around
`death_by_timeout`, so that the hook there does not refuse the connection. Raising and lowering
are an `atomic_read` and an `atomic_set` each; other holders get and put references at any time,
so every access of the flush to a count is a step of its own.

The references of the other holders are counted beside the use count. Among them is the reference
that a connection holds on its master: the put in `destroy_conntrack` is one of their steps.
-/

namespace Fvs318g.Netfilter

variable {Conn : Type} [DecidableEq Conn]

/-- What is fixed during a flush. -/
structure FlushEnv (Conn : Type) where
  /-- `iter`: the connections to remove. -/
  iter : Conn → Bool
  /-- `hash_conntrack` of a tuple of a connection. -/
  hashConntrack : Conn → Dir → Nat
  /-- `ip_conntrack_htable_size`. -/
  htableSize : Nat
  /-- `star9100_shnat_hook_ready`. -/
  hookReady : Bool
  /-- `star9100_shnat_nf_remove_hnatable_hook` returns -1 for a connection with this count. -/
  refuses : Conn → Int → Bool

/-- Where the flush stands, with the connection that it handles and the count that it has
read. -/
inductive FlushPc (Conn : Type) where
  /-- Before `get_next_corpse`. -/
  | search
  /-- Before `del_timer`. -/
  | delTimer (ct : Conn)
  /-- Before the `atomic_read` of the raise. -/
  | readAdd (ct : Conn)
  /-- Before the `atomic_set` of the raise. -/
  | setAdd (ct : Conn) (read : Int)
  /-- In `death_by_timeout`, before the hook. -/
  | hook (ct : Conn)
  /-- In `death_by_timeout`, before `ip_conntrack_put`. -/
  | deathPut (ct : Conn)
  /-- Before the `atomic_read` of the lowering. -/
  | readSub (ct : Conn)
  /-- Before the `atomic_set` of the lowering. -/
  | setSub (ct : Conn) (read : Int)
  /-- Before the comparison with zero. -/
  | test (ct : Conn)
  /-- Before the count is set to 1. -/
  | repair (ct : Conn)
  /-- Before the last `ip_conntrack_put` of the loop. -/
  | lastPut (ct : Conn)
  /-- Behind the loop. -/
  | done
  deriving DecidableEq, Repr

/-- The table, the counts and the flush. -/
structure FlushState (Conn : Type) where
  /-- `ct_general.use`. -/
  use : Conn → Int
  /-- `ip_conntrack_hash`. -/
  hash : Nat → List (Conn × Dir)
  /-- `unconfirmed`. -/
  unconfirmed : List Conn
  /-- The timer of the connection is pending. -/
  timerPending : Conn → Bool
  /-- Runs of `destroy_conntrack`. -/
  destroyed : Conn → Nat
  /-- References of the other holders. -/
  others : Conn → Nat
  /-- `bucket`. -/
  bucket : Nat
  /-- A zero count has been repaired. -/
  repaired : Bool
  /-- Where the flush stands. -/
  pc : FlushPc Conn

/-- The loop of `get_next_corpse` over the buckets that are left. -/
def nextBucket (iter : Conn → Bool) (hash : Nat → List (Conn × Dir)) : Nat → Nat → Nat × Option Conn
  | 0, bucket => (bucket, none)
  | left + 1, bucket =>
    match (hash bucket).find? (fun h => iter h.1) with
    | some h => (bucket, some h.1)
    | none => nextBucket iter hash left (bucket + 1)

/-- `get_next_corpse` without the reference that it takes. -/
def getNextCorpse (env : FlushEnv Conn) (s : FlushState Conn) : Nat × Option Conn :=
  let (bucket, found) := nextBucket env.iter s.hash (env.htableSize - s.bucket) s.bucket
  (bucket, found.or (s.unconfirmed.find? env.iter))

/-- `clean_from_lists`. -/
def cleanFromLists (env : FlushEnv Conn) (ct : Conn) (hash : Nat → List (Conn × Dir)) :
    Nat → List (Conn × Dir) :=
  let ho := env.hashConntrack ct .original
  let hr := env.hashConntrack ct .reply
  let hash := Function.update hash ho ((hash ho).erase (ct, .original))
  Function.update hash hr ((hash hr).erase (ct, .reply))

/-- `nf_conntrack_get`: one reference more. -/
def FlushState.get (s : FlushState Conn) (ct : Conn) : FlushState Conn :=
  { s with use := Function.update s.use ct (s.use ct + 1) }

/-- `ip_conntrack_put`: one reference less, and the end of the connection at zero. -/
def FlushState.put (s : FlushState Conn) (ct : Conn) : FlushState Conn :=
  { s with
    use := Function.update s.use ct (s.use ct - 1)
    destroyed :=
      if s.use ct - 1 = 0 then Function.update s.destroyed ct (s.destroyed ct + 1)
      else s.destroyed }

/-- The next step of `ip_ct_iterate_cleanup`. -/
def flushStep (env : FlushEnv Conn) (s : FlushState Conn) : Option (FlushState Conn) :=
  match s.pc with
  | .search =>
    match getNextCorpse env s with
    | (bucket, some ct) => some { s.get ct with bucket := bucket, pc := .delTimer ct }
    | (bucket, none) => some { s with bucket := bucket, pc := .done }
  | .delTimer ct =>
    if s.timerPending ct then
      some { s with timerPending := Function.update s.timerPending ct false, pc := .readAdd ct }
    else some { s with pc := .lastPut ct }
  | .readAdd ct => some { s with pc := .setAdd ct (s.use ct) }
  | .setAdd ct read =>
    some { s with use := Function.update s.use ct (read + 60000), pc := .hook ct }
  | .hook ct =>
    -- a refused connection stays in the hash, without its timer
    if env.hookReady && env.refuses ct (s.use ct) then some { s with pc := .readSub ct }
    else some { s with hash := cleanFromLists env ct s.hash, pc := .deathPut ct }
  | .deathPut ct => some { s.put ct with pc := .readSub ct }
  | .readSub ct => some { s with pc := .setSub ct (s.use ct) }
  | .setSub ct read =>
    some { s with use := Function.update s.use ct (read - 60000), pc := .test ct }
  | .test ct => some { s with pc := if s.use ct = 0 then .repair ct else .lastPut ct }
  | .repair ct =>
    some { s with use := Function.update s.use ct 1, repaired := true, pc := .lastPut ct }
  | .lastPut ct => some { s.put ct with pc := .search }
  | .done => none

/-- Steps of the flush and of the other holders. -/
inductive FlushEvent (Conn : Type) where
  /-- The flush goes on. -/
  | flush
  /-- Another holder takes a reference. -/
  | get (ct : Conn)
  /-- Another holder puts a reference. -/
  | put (ct : Conn)
  deriving DecidableEq, Repr

/-- A connection can be found in the hash. -/
def FlushState.listed (env : FlushEnv Conn) (s : FlushState Conn) (ct : Conn) : Bool :=
  decide ((ct, .original) ∈ s.hash (env.hashConntrack ct .original))

/-- A step. References are taken by holders of one or through the hash, and put by holders. -/
def flushNext (env : FlushEnv Conn) (s : FlushState Conn) :
    FlushEvent Conn → Option (FlushState Conn)
  | .flush => flushStep env s
  | .get ct =>
    if 0 < s.others ct ∨ s.listed env ct = true then
      some { s.get ct with others := Function.update s.others ct (s.others ct + 1) }
    else none
  | .put ct =>
    if 0 < s.others ct then
      some { s.put ct with others := Function.update s.others ct (s.others ct - 1) }
    else none

/-- The flush of a table, interleaved with the other holders. -/
def flushSystem (env : FlushEnv Conn) (initial : FlushState Conn) :
    Lib.System (FlushState Conn) (FlushEvent Conn) where
  init s := s = initial
  step := flushNext env

end Fvs318g.Netfilter
