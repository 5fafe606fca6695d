import Fvs318g.Netfilter.Nat
import Mathlib.Logic.Function.Basic

/-!
# Expected connections

The part of `ip_conntrack_core.c` that keeps the list of expectations. An expectation is held by the
list and by its timer, and by whoever allocated or found it. Every function here runs under
`ip_conntrack_lock`, and on one processor a timer that expires runs its function before anything
else takes the lock; that a timer may be found stopped is kept in the functions nevertheless. When a
timer expires is not said: it may expire at any time.

Expectations and connections are named by numbers that are not used again.
-/

namespace Fvs318g.Netfilter

/-- `ip_ct_tuple_mask_cmp`. -/
def tupleMaskCmp (t tuple mask : Tuple) : Bool :=
  (t.src.ip ^^^ tuple.src.ip) &&& mask.src.ip == 0 &&
    (t.dst.ip ^^^ tuple.dst.ip) &&& mask.dst.ip == 0 &&
    (t.src.all ^^^ tuple.src.all) &&& mask.src.all == 0 &&
    (t.dst.all ^^^ tuple.dst.all) &&& mask.dst.all == 0 &&
    (t.dst.protonum ^^^ tuple.dst.protonum) &&& mask.dst.protonum == 0

/-- `struct ip_conntrack_expect`. -/
structure Expectation where
  /-- `master`. -/
  master : Nat
  /-- `tuple`. -/
  tuple : Tuple
  /-- `mask`. -/
  mask : Tuple
  /-- `IP_CT_EXPECT_PERMANENT` in `flags`. -/
  permanent : Bool
  /-- `use`. -/
  use : Int
  /-- `timer_pending(&timeout)`. -/
  pending : Bool
  deriving DecidableEq, Repr

/-- The list and the memory of expectations. -/
structure Expectations where
  /-- The expectations by their names. -/
  exp : Nat → Expectation
  /-- Those that are allocated in `ip_conntrack_expect_cachep`. -/
  allocated : List Nat
  /-- `ip_conntrack_expect_list`. -/
  list : List Nat
  /-- `expecting` of a connection. -/
  expecting : Nat → Int
  /-- `helper->max_expected` of a connection. -/
  maxExpected : Nat → Nat

namespace Expectations

/-- Write to one expectation. -/
def modify (s : Expectations) (e : Nat) (f : Expectation → Expectation) : Expectations :=
  { s with exp := Function.update s.exp e (f (s.exp e)) }

/-! ## References and timers -/

/-- `ip_conntrack_expect_put`. -/
def expectPut (s : Expectations) (e : Nat) : Expectations :=
  let s' := s.modify e fun exp => { exp with use := exp.use - 1 }
  if (s.exp e).use - 1 = 0 then { s' with allocated := s'.allocated.erase e } else s'

/-- `ip_ct_unlink_expect`. -/
def unlinkExpect (s : Expectations) (e : Nat) : Expectations :=
  let master := (s.exp e).master
  expectPut { s with
    list := s.list.erase e
    expecting := Function.update s.expecting master (s.expecting master - 1) } e

/-- `del_timer` of a pending timer. -/
def stopTimer (s : Expectations) (e : Nat) : Expectations :=
  s.modify e fun exp => { exp with pending := false }

/-- The three calls that take a pending expectation away: `del_timer`, `ip_ct_unlink_expect` and
`ip_conntrack_expect_put`. -/
def takeAway (s : Expectations) (e : Nat) : Expectations :=
  expectPut (unlinkExpect (stopTimer s e) e) e

/-- `expectation_timed_out`, with the timer as it is when it has expired. -/
def expectationTimedOut (s : Expectations) (e : Nat) : Expectations := takeAway s e

/-! ## Matching a connection -/

/-- The loop of `find_expectation`; `confirmed` is `is_confirmed` of a connection. -/
def findLoop (confirmed : Nat → Bool) (tuple : Tuple) (s : Expectations) :
    List Nat → Option Nat × Expectations
  | [] => (none, s)
  | i :: rest =>
    if tupleMaskCmp tuple (s.exp i).tuple (s.exp i).mask && confirmed (s.exp i).master then
      if (s.exp i).permanent then
        (some i, s.modify i fun exp => { exp with use := exp.use + 1 })
      else if (s.exp i).pending then (some i, unlinkExpect (stopTimer s i) i)
      else findLoop confirmed tuple s rest
    else findLoop confirmed tuple s rest

/-- `find_expectation`. -/
def findExpectation (s : Expectations) (confirmed : Nat → Bool) (tuple : Tuple) :
    Option Nat × Expectations :=
  findLoop confirmed tuple s s.list

/-- The body of the loop of `ip_ct_remove_expectations`. -/
def removeOne (ct : Nat) (s : Expectations) (i : Nat) : Expectations :=
  if (s.exp i).master = ct ∧ (s.exp i).pending then takeAway s i else s

/-- `ip_ct_remove_expectations`. -/
def removeExpectations (s : Expectations) (ct : Nat) : Expectations :=
  if s.expecting ct = 0 then s else s.list.foldl (removeOne ct) s

/-! ## Registering an expectation -/

/-- The mask of `expect_clash`. -/
def intersectMask (a b : Tuple) : Tuple where
  src := ⟨a.src.ip &&& b.src.ip, a.src.all &&& b.src.all⟩
  dst := ⟨a.dst.ip &&& b.dst.ip, a.dst.all &&& b.dst.all, a.dst.protonum &&& b.dst.protonum,
    .original⟩

/-- `expect_clash`. -/
def expectClash (a b : Expectation) : Bool :=
  tupleMaskCmp a.tuple b.tuple (intersectMask a.mask b.mask)

/-- `expect_matches`. -/
def expectMatches (a b : Expectation) : Bool :=
  a.master == b.master && a.tuple.equal b.tuple && a.mask.equal b.mask

/-- `ip_conntrack_unexpect_related`. -/
def unexpectRelated (s : Expectations) (e : Nat) : Expectations :=
  match s.list.reverse.find? fun i =>
    expectMatches (s.exp i) (s.exp e) && (s.exp i).pending with
  | some i => takeAway s i
  | none => s

/-- `ip_conntrack_expect_alloc`, with the fields that the caller then writes. -/
def expectAlloc (s : Expectations) (e master : Nat) (tuple mask : Tuple) (permanent : Bool) :
    Expectations :=
  { s.modify e fun _ => ⟨master, tuple, mask, permanent, 1, false⟩ with
    allocated := e :: s.allocated }

/-- `ip_conntrack_expect_insert`. -/
def expectInsert (s : Expectations) (e : Nat) : Expectations :=
  let master := (s.exp e).master
  { s.modify e fun exp => { exp with use := exp.use + 1 + 1, pending := true } with
    expecting := Function.update s.expecting master (s.expecting master + 1)
    list := e :: s.list }

/-- `evict_oldest_expect`. -/
def evictOldestExpect (s : Expectations) (master : Nat) : Expectations :=
  match s.list.reverse.find? fun i => (s.exp i).master = master with
  | some i => if (s.exp i).pending then takeAway s i else s
  | none => s

/-- The loop of `ip_conntrack_expect_related`: its result, or nothing at the end of the list. -/
def relatedLoop (s : Expectations) (e : Nat) : List Nat → Option Int
  | [] => none
  | i :: rest =>
    if expectMatches (s.exp i) (s.exp e) then
      -- `refresh_timer`
      if (s.exp i).pending then some 0 else relatedLoop s e rest
    else if expectClash (s.exp i) (s.exp e) then some (-16)
    else relatedLoop s e rest

/-- `ip_conntrack_expect_related`. -/
def conntrackExpectRelated (s : Expectations) (e : Nat) : Int × Expectations :=
  match relatedLoop s e s.list with
  | some ret => (ret, s)
  | none =>
    let master := (s.exp e).master
    let s := if s.maxExpected master ≠ 0 ∧ s.maxExpected master ≤ s.expecting master then
      evictOldestExpect s master else s
    (0, expectInsert s e)

end Expectations

end Fvs318g.Netfilter
