import Fvs318g.Lib.System
import Fvs318g.Verif.ConntrackSetup

/-!
# Runs of the connection table

Packets that come and go, timers, helpers that expect connections, and a hook that may refuse the
death of a connection, in any order.

Every event runs to completion before the next one. The source guarantees this for what it does
under `ip_conntrack_lock`, and for packets that are received, since softirqs do not nest on the one
processor. It does not for `resolve_normal_ct` of a packet that is sent from process context: that
one can be interrupted by received packets and timers between its lookup, the comparison of
`ip_conntrack_count` with the limit, the increment, and the entry on `unconfirmed`. The limit can
then be exceeded by the connections that are set up in between.
-/

namespace Fvs318g.Verif.ConntrackTable

open Lib Netfilter Netfilter.ConntrackTable
open Netfilter.Expectations (expectAlloc conntrackExpectRelated unexpectRelated expectPut
  expectationTimedOut)
open Expect (ExpectInv inv_expectPut inv_expectAlloc inv_conntrackExpectRelated inv_assign
  inv_unexpectRelated takeAway_of_pending left_expectPut left_modify left_afterUnlink
  conntrackExpectRelated_left inv_noExpectations)

/-- The table with the references of packets to connections, and of helpers to expectations. -/
structure TableState where
  /-- The table. -/
  table : ConntrackTable
  /-- The references of packets. -/
  refs : Nat → Nat
  /-- The references of those who allocated an expectation. -/
  erefs : Nat → Nat

/-- What can happen. -/
inductive TableEvent where
  /-- `resolve_normal_ct` for a packet; a new connection would get the memory `ct`. -/
  | packet (new : NewEnv) (ct : Nat) (tuple : Tuple)
  /-- A packet is copied, or another one is attached to its connection. -/
  | attach (ct : Nat)
  /-- A packet is freed. -/
  | release (ct : Nat)
  /-- A packet leaves: `ip_conntrack_confirm`. -/
  | confirm (ct : Nat)
  /-- The protocol sets `IPS_ASSURED`. -/
  | assure (ct : Nat)
  /-- The translation calls `ip_conntrack_alter_reply`. -/
  | alterReply (ct : Nat) (newreply : Tuple) (maxExpected : Nat)
  /-- A timer expires, or is stopped by one who then calls its function. -/
  | timeout (refused : Bool) (ct : Nat)
  /-- Somebody else, such as the hook, starts the timer of a connection in the hash. -/
  | rearm (ct : Nat)
  /-- A helper allocates an expectation for the connection of its packet. -/
  | expect (e master : Nat) (tuple mask : Tuple) (permanent : Bool)
  /-- The helper changes what it expects, before it is registered. -/
  | assign (e : Nat) (tuple mask : Tuple)
  /-- The helper calls `ip_conntrack_expect_related`. -/
  | related (e : Nat)
  /-- The helper calls `ip_conntrack_unexpect_related`. -/
  | unexpect (e : Nat)
  /-- The helper calls `ip_conntrack_expect_put`. -/
  | forget (e : Nat)
  /-- The timer of an expectation expires. -/
  | expire (e : Nat)

/-- The effect of an event. -/
def tableStep (env : TableEnv) (s : TableState) : TableEvent → Option TableState
  | .packet new ct tuple =>
    if ct ∉ s.table.allocated then
      let (found, table) := resolveNormalCt env new s.table ct tuple
      some { s with table, refs := resolvedRefs s.refs found.connection }
    else none
  | .attach ct =>
    if 0 < s.refs ct then
      some { s with
        table := conntrackGet s.table ct
        refs := Function.update s.refs ct (s.refs ct + 1) }
    else none
  | .release ct =>
    if 0 < s.refs ct then
      some { s with
        table := conntrackPut s.table ct
        refs := Function.update s.refs ct (s.refs ct - 1) }
    else none
  | .confirm ct =>
    if 0 < s.refs ct ∧ (s.table.conn ct).confirmed = false then
      some { s with table := (conntrackConfirm env s.table ct).2 }
    else none
  | .assure ct =>
    if 0 < s.refs ct then
      some { s with table := s.table.modify ct fun c => { c with assured := true } }
    else none
  | .alterReply ct newreply maxExpected =>
    if 0 < s.refs ct ∧ (s.table.conn ct).confirmed = false then
      some { s with table := alterReply s.table ct newreply maxExpected }
    else none
  | .timeout refused ct =>
    if (s.table.conn ct).pending then
      some { s with table := deathByTimeout refused (stopTimer s.table ct) ct }
    else none
  | .rearm ct =>
    if Tabled s.table ct then
      some { s with table := s.table.modify ct fun c => { c with pending := true } }
    else none
  | .expect e master tuple mask permanent =>
    if e ∉ s.table.exps.allocated ∧ 0 < s.refs master then
      some { s with
        table := { s.table with exps := expectAlloc s.table.exps e master tuple mask permanent }
        erefs := Function.update s.erefs e 1 }
    else none
  | .assign e tuple mask =>
    if 0 < s.erefs e ∧ e ∉ s.table.exps.list then
      some { s with table := { s.table with
        exps := s.table.exps.modify e fun exp => { exp with tuple := tuple, mask := mask } } }
    else none
  | .related e =>
    -- the packet that the helper looks at belongs to the master
    if 0 < s.erefs e ∧ 0 < s.refs (s.table.exps.exp e).master then
      some { s with table := { s.table with exps := (conntrackExpectRelated s.table.exps e).2 } }
    else none
  | .unexpect e =>
    if 0 < s.erefs e then
      some { s with table := { s.table with exps := unexpectRelated s.table.exps e } }
    else none
  | .forget e =>
    if 0 < s.erefs e then
      some { s with
        table := { s.table with exps := expectPut s.table.exps e }
        erefs := Function.update s.erefs e (s.erefs e - 1) }
    else none
  | .expire e =>
    if (s.table.exps.exp e).pending then
      some { s with table := { s.table with exps := expectationTimedOut s.table.exps e } }
    else none

/-- Nothing is allocated at the start. -/
structure NoConnections (s : TableState) : Prop where
  allocated : s.table.allocated = []
  hash : s.table.hash = []
  unconfirmed : s.table.unconfirmed = []
  count : s.table.count = 0
  timers : ∀ ct, (s.table.conn ct).pending = false
  refs : ∀ ct, s.refs ct = 0
  expectations : s.table.exps.allocated = [] ∧ s.table.exps.list = []
  expectTimers : ∀ e, (s.table.exps.exp e).pending = false
  expecting : ∀ ct, s.table.exps.expecting ct = 0
  erefs : ∀ e, s.erefs e = 0

/-- The table, with its users in any order. -/
def tableSystem (env : TableEnv) : System TableState TableEvent := ⟨NoConnections, tableStep env⟩

/-- The invariant of a run. -/
def StateInv (s : TableState) : Prop := TableInv s.table s.refs s.erefs none

/-- Only expectations were given up. -/
theorem stateInv_of_left {s : TableState} (inv : StateInv s) {exps : Expectations}
    {erefs : Nat → Nat} (expsInv : ExpectInv exps erefs) (left : Expect.Left s.table.exps exps) :
    StateInv { s with table := { s.table with exps }, erefs } := by
  apply inv_exps inv expsInv
  intro e listed
  rw [left.master]
  exact inv.expected e (left.list e listed)

/-- Every event keeps the invariant. -/
theorem stateInv_step {env : TableEnv} {s s' : TableState} {event : TableEvent} (inv : StateInv s)
    (stepped : tableStep env s event = some s') : StateInv s' := by
  have held : ∀ e, 0 < s.erefs e → e ∈ s.table.exps.allocated := by
    intro e held
    by_contra gone
    have none := inv.exps.freed e gone
    omega
  cases event with
  | packet new ct tuple =>
    obtain ⟨fresh, rfl⟩ := guarded_step stepped
    exact inv_resolveNormalCt inv fresh env new tuple
  | attach ct =>
    obtain ⟨refs, rfl⟩ := guarded_step stepped
    exact inv_conntrackGet inv (inv.allocated refs)
  | release ct =>
    obtain ⟨refs, rfl⟩ := guarded_step stepped
    exact inv_conntrackPut inv refs
  | confirm ct =>
    obtain ⟨⟨refs, status⟩, rfl⟩ := guarded_step stepped
    exact inv_conntrackConfirm inv (inv.allocated refs) status env
  | assure ct =>
    obtain ⟨-, rfl⟩ := guarded_step stepped
    apply inv_conn inv
    · rfl
    · rfl
    · exact fun _ dir => by cases dir <;> rfl
    · exact inv.timers ct
    · exact fun _ _ => rfl
    · exact inv.uses ct
    · exact inv.freed ct
  | alterReply ct newreply maxExpected =>
    obtain ⟨⟨-, status⟩, rfl⟩ := guarded_step stepped
    exact inv_alterReply inv status newreply maxExpected
  | timeout refused ct =>
    obtain ⟨pending, rfl⟩ := guarded_step stepped
    exact inv_timeout inv pending refused
  | rearm ct =>
    obtain ⟨stands, rfl⟩ := guarded_step stepped
    apply inv_conn inv
    · rfl
    · rfl
    · exact fun _ dir => by cases dir <;> rfl
    · exact fun _ => stands
    · exact fun _ _ => rfl
    · exact inv.uses ct
    · exact inv.freed ct
  | expect e master tuple mask permanent =>
    obtain ⟨⟨fresh, refs⟩, rfl⟩ := guarded_step stepped
    apply inv_exps inv (inv_expectAlloc inv.exps fresh master tuple mask permanent)
    intro i listed
    have other : i ≠ e := ne_of_mem_of_not_mem (inv.exps.listed i listed) fresh
    show (Function.update s.table.exps.exp e _ i).master ∈ s.table.allocated
    rw [Function.update_of_ne other]
    exact inv.expected i listed
  | assign e tuple mask =>
    obtain ⟨⟨-, unlisted⟩, rfl⟩ := guarded_step stepped
    exact stateInv_of_left inv (inv_assign inv.exps unlisted _ _) (left_modify _ _ rfl)
  | related e =>
    obtain ⟨⟨own, refs⟩, rfl⟩ := guarded_step stepped
    have after := conntrackExpectRelated_left inv.exps e
    apply inv_exps inv (inv_conntrackExpectRelated inv.exps (held e own))
    intro i listed
    rw [after.2.1]
    rcases after.1 i listed with rfl | old
    · exact inv.allocated refs
    · exact inv.expected i old
  | unexpect e =>
    obtain ⟨-, rfl⟩ := guarded_step stepped
    exact stateInv_of_left inv (inv_unexpectRelated inv.exps e).1 (inv_unexpectRelated inv.exps e).2
  | forget e =>
    obtain ⟨own, rfl⟩ := guarded_step stepped
    exact stateInv_of_left inv (inv_expectPut inv.exps (by omega)) (left_expectPut _ _)
  | expire e =>
    obtain ⟨pending, rfl⟩ := guarded_step stepped
    obtain ⟨gone, kept⟩ := takeAway_of_pending inv.exps pending
    have left := left_afterUnlink s.table.exps e (s.erefs e)
    rw [← gone] at left
    exact stateInv_of_left inv kept left

/-- The empty table is in order. -/
theorem stateInv_init {s : TableState} (start : NoConnections s) : StateInv s := by
  have untabled : ∀ h, h ∉ s.table.hash := by
    intro h
    rw [start.hash]
    exact List.not_mem_nil
  have unallocated : ∀ ct, ct ∉ s.table.allocated := by
    intro ct
    rw [start.allocated]
    exact List.not_mem_nil
  refine ⟨inv_noExpectations start.expectations.1 start.expectations.2 start.expectTimers
    start.expecting start.erefs, ?_, ?_, ?_, ?_, ?_, ?_, ?_, fun ct _ => start.refs ct, ?_, ?_, ?_,
    ?_, ?_⟩
  · rw [start.allocated]
    exact List.nodup_nil
  · rw [start.hash]
    exact List.nodup_nil
  · exact fun ct => iff_of_false (untabled _) (untabled _)
  · exact fun ct stands => absurd stands (untabled _)
  · rw [start.unconfirmed]
    exact List.nodup_nil
  · intro ct
    rw [start.unconfirmed]
    exact iff_of_false List.not_mem_nil fun waits => unallocated ct waits.1
  · exact fun ct member => absurd member (unallocated ct)
  · exact fun ct member => absurd member (unallocated ct)
  · intro ct pending
    rw [start.timers] at pending
    cases pending
  · rw [start.count, start.allocated]
    rfl
  · intro e listed
    rw [start.expectations.2] at listed
    exact absurd listed List.not_mem_nil
  · exact fun a member => absurd member (untabled a)

/-- Every reachable table is in order. -/
theorem stateInv_reachable {env : TableEnv} {s : TableState}
    (reach : (tableSystem env).Reachable s) : StateInv s :=
  System.Reachable.invariant (fun _ => stateInv_init) (fun _ _ _ => stateInv_step) reach

/-- Equality of tuples is transitive. -/
theorem equal_trans {t u v : Tuple} (first : t.equal u = true) (second : u.equal v = true) :
    t.equal v = true := by
  simp only [Tuple.equal, Bool.and_eq_true, beq_iff_eq] at first second ⊢
  simp only [first, second, and_self]

/-- A tuple equals itself. -/
theorem equal_refl (t : Tuple) : t.equal t = true := by
  simp [Tuple.equal]

/-- In every run: whoever holds a connection, be it a packet, the hash, a connection that was
expected or an expectation, holds memory that is allocated; a use count is exactly the number of
holders that count; timers run only in the hash; every packet of a connection in the hash is found
to be of that connection; and the count is the number of connections. -/
theorem every_holder_is_counted {env : TableEnv} {s : TableState}
    (reach : (tableSystem env).Reachable s) :
    (∀ ct, 0 < s.refs ct ∨ Tabled s.table ct ∨
        (∃ d ∈ s.table.allocated, (s.table.conn d).master = some ct) ∨
        (∃ e ∈ s.table.exps.list, (s.table.exps.exp e).master = ct) → ct ∈ s.table.allocated) ∧
    (∀ ct ∈ s.table.allocated, (s.table.conn ct).use = (if Tabled s.table ct then 1 else 0) +
        s.refs ct + s.table.allocated.countP (fun d => (s.table.conn d).master = some ct) ∧
      0 < (s.table.conn ct).use) ∧
    (∀ ct, (s.table.conn ct).pending = true → Tabled s.table ct) ∧
    (∀ h ∈ s.table.hash, ∀ tuple : Tuple, tuple.equal (s.table.tupleOf h) = true →
      ∃ dir, conntrackFind env s.table tuple = some (h.1, dir)) ∧
    s.table.count = s.table.allocated.length := by
  have inv := stateInv_reachable reach
  refine ⟨?_, inv.uses, inv.timers, ?_, inv.counted⟩
  · rintro ct (held | stands | ⟨d, member, slave⟩ | ⟨e, listed, rfl⟩)
    · exact inv.allocated held
    · exact (inv.tabled ct stands).1
    · exact inv.masters d member ct slave
    · exact inv.expected e listed
  · intro h member tuple equal
    cases found : conntrackFind env s.table tuple with
    | none =>
      have missed := (conntrackFind_isNone env s.table tuple).mp (by rw [found]; rfl) h member
      exact absurd (missed.symm.trans equal) Bool.false_ne_true
    | some h' =>
      have other := conntrackFind_some found
      have same := inv.distinct h' other.1 h member (equal_trans (equal_symm other.2) equal)
      exact ⟨h'.2, by rw [← same]⟩

/-! ## A control connection and its data connection -/

/-- A TCP packet. -/
def tcpTuple (src dst : UInt32) (sport dport : UInt16) : Tuple :=
  ⟨⟨src, sport⟩, ⟨dst, dport, 6, .original⟩⟩

/-- What a packet of a new TCP connection meets, with the answer of the hook. -/
def newTcp (refused : Bool) (tuple : Tuple) : NewEnv where
  refused _ := refused
  memory := true
  inverse := some ⟨⟨tuple.dst.ip, tuple.dst.all⟩, ⟨tuple.src.ip, tuple.src.all, 6, .reply⟩⟩
  accepted := true
  maxExpected := 1

/-- The packet that opens a control connection. -/
def controlTuple : Tuple := tcpTuple 0x0a000001 0x0a000002 0x4e20 0x1500

/-- The packet that opens the data connection. -/
def dataTuple : Tuple := tcpTuple 0x0a000002 0x0a000001 0x1400 0x8813

/-- Everything but the source port. -/
def dataMask : Tuple := ⟨⟨0xffffffff, 0⟩, ⟨0xffffffff, 0xffff, 0xff, .original⟩⟩

/-- The state before a run. -/
def emptyTable : TableState where
  table :=
    { conn := fun _ => newConnection controlTuple controlTuple
      allocated := []
      hash := []
      unconfirmed := []
      count := 0
      exps := ⟨fun _ => ⟨0, dataTuple, dataMask, false, 0, false⟩, [], [], fun _ => 0, fun _ => 0⟩ }
  refs _ := 0
  erefs _ := 0

/-- `emptyTable` is an initial state. -/
theorem emptyTable_empty : NoConnections emptyTable :=
  ⟨rfl, rfl, rfl, rfl, fun _ => rfl, fun _ => rfl, ⟨rfl, rfl⟩, fun _ => rfl, fun _ => rfl,
    fun _ => rfl⟩

/-- A small table. -/
def smallTable : TableEnv := ⟨8, 0, 4⟩

/-- A control connection is set up, and its helper expects a data connection. -/
def controlRun : List TableEvent :=
  [.packet (newTcp false controlTuple) 0 controlTuple, .confirm 0,
    .expect 0 0 dataTuple dataMask false, .related 0, .forget 0]

/-- The data connection arrives, and the control connection times out. -/
def dataRun : List TableEvent :=
  controlRun ++ [.release 0, .packet (newTcp false dataTuple) 1 dataTuple, .confirm 1,
    .timeout false 0]

/-- An expected data connection and its master. -/
theorem every_holder_is_counted_data :
    ∃ s, (tableSystem smallTable).run emptyTable dataRun = some s ∧
      s.table.allocated = [1, 0] ∧ s.table.hash = [(1, .reply), (1, .original)] ∧
      (s.table.conn 0).use = 1 ∧ (s.table.conn 1).use = 2 ∧
      ∃ dir, conntrackFind smallTable s.table (s.table.tupleOf (1, .reply)) = some (1, dir) := by
  have ran : ((tableSystem smallTable).run emptyTable dataRun).map (fun s => (s.table.allocated,
      s.table.hash, (s.table.conn 0).use, (s.table.conn 1).use)) =
      some ([1, 0], [(1, .reply), (1, .original)], 1, 2) := by decide +kernel
  obtain ⟨s, run, values⟩ := Option.map_eq_some_iff.mp ran
  simp only [Prod.mk.injEq] at values
  have known := every_holder_is_counted (System.reachable_of_run (.init emptyTable_empty) run)
  have listed : ((1, .reply) : Nat × Dir) ∈ s.table.hash := by
    rw [values.2.1]
    exact List.mem_cons_self
  exact ⟨s, run, values.1, values.2.1, values.2.2.1, values.2.2.2,
    known.2.2.2.1 _ listed _ (equal_refl _)⟩

end Fvs318g.Verif.ConntrackTable
