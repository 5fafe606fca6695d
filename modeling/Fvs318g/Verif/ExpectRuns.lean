import Fvs318g.Lib.System
import Fvs318g.Verif.Expect

/-!
# Runs of helpers, packets and timers

The functions on the list of expectations in any order, from any reachable state.
-/

namespace Fvs318g.Verif.ExpectRuns

open Lib Netfilter Netfilter.Expectations Expect

/-- The expectations with the references that are held beside the list and the timers, and the next
name. -/
structure ExpectState where
  /-- The expectations. -/
  exps : Expectations
  /-- The references of those who allocated or found an expectation. -/
  refs : Nat → Nat
  /-- The name of the next expectation. -/
  next : Nat

/-- What can happen. -/
inductive ExpectEvent where
  /-- A helper allocates an expectation for its connection. -/
  | alloc (master : Nat) (tuple mask : Tuple) (permanent : Bool)
  /-- The holder changes what is expected, before it is registered. -/
  | assign (e : Nat) (tuple mask : Tuple)
  /-- The holder calls `ip_conntrack_expect_related`. -/
  | related (e : Nat)
  /-- The holder calls `ip_conntrack_unexpect_related`. -/
  | unexpect (e : Nat)
  /-- A holder calls `ip_conntrack_expect_put`. -/
  | put (e : Nat)
  /-- A timer expires. -/
  | expire (e : Nat)
  /-- `init_conntrack` looks for a new connection. -/
  | arrive (confirmed : Nat → Bool) (tuple : Tuple)
  /-- A connection ends. -/
  | close (ct : Nat)
  /-- A connection gets another helper, which `ip_conntrack_alter_reply` allows only while it
  expects nothing. -/
  | setHelper (ct max : Nat)

/-- The effect of an event. -/
def expectStep (s : ExpectState) : ExpectEvent → Option ExpectState
  | .alloc master tuple mask permanent =>
    some ⟨expectAlloc s.exps s.next master tuple mask permanent, Function.update s.refs s.next 1,
      s.next + 1⟩
  | .assign e tuple mask =>
    if 0 < s.refs e ∧ e ∉ s.exps.list then
      some { s with exps := s.exps.modify e fun exp => { exp with tuple := tuple, mask := mask } }
    else none
  | .related e =>
    if 0 < s.refs e then some { s with exps := (conntrackExpectRelated s.exps e).2 } else none
  | .unexpect e => if 0 < s.refs e then some { s with exps := unexpectRelated s.exps e } else none
  | .put e =>
    if 0 < s.refs e then
      some { s with exps := expectPut s.exps e, refs := Function.update s.refs e (s.refs e - 1) }
    else none
  | .expire e =>
    if (s.exps.exp e).pending then some { s with exps := expectationTimedOut s.exps e } else none
  | .arrive confirmed tuple =>
    match findExpectation s.exps confirmed tuple with
    | (some i, exps) =>
      some { s with exps := exps, refs := Function.update s.refs i (s.refs i + 1) }
    | (none, exps) => some { s with exps := exps }
  | .close ct => some { s with exps := removeExpectations s.exps ct }
  | .setHelper ct max =>
    if s.exps.expecting ct = 0 then
      some { s with exps := { s.exps with
        maxExpected := Function.update s.exps.maxExpected ct max } }
    else none

/-- No expectation is allocated at the start. -/
def noExpectations (s : ExpectState) : Prop :=
  s.exps.allocated = [] ∧ s.exps.list = [] ∧ (∀ e, (s.exps.exp e).pending = false) ∧
    (∀ m, s.exps.expecting m = 0) ∧ ∀ e, s.refs e = 0

/-- The list of expectations, with helpers, packets and timers in any order. -/
def expectSystem : System ExpectState ExpectEvent := ⟨noExpectations, expectStep⟩

/-- The invariant of a run. -/
structure RunInv (s : ExpectState) : Prop where
  inv : ExpectInv s.exps s.refs
  /-- Names that were not given away are not in use. -/
  fresh : ∀ e, s.next ≤ e → e ∉ s.exps.allocated

/-- A step that only takes expectations away. -/
theorem runInv_of_left {s : ExpectState} {exps : Expectations} {refs : Nat → Nat} (run : RunInv s)
    (inv : ExpectInv exps refs) (left : Left s.exps exps) : RunInv { s with exps, refs } :=
  ⟨inv, fun e unused allocated => run.fresh e unused (left.slab e allocated)⟩

/-- Every event keeps the invariant. -/
theorem runInv_step {s s' : ExpectState} {event : ExpectEvent} (run : RunInv s)
    (stepped : expectStep s event = some s') : RunInv s' := by
  have inv := run.inv
  have allocated : ∀ e, 0 < s.refs e → e ∈ s.exps.allocated := by
    intro e held
    by_contra gone
    have none := inv.freed e gone
    omega
  cases event with
  | alloc master tuple mask permanent =>
    cases stepped
    refine ⟨inv_expectAlloc inv (run.fresh _ (Nat.le_refl _)) _ _ _ _, ?_⟩
    intro e unused
    show e ∉ s.next :: s.exps.allocated
    rw [List.mem_cons, not_or]
    have later : s.next + 1 ≤ e := unused
    exact ⟨by omega, run.fresh e (by omega)⟩
  | assign e tuple mask =>
    obtain ⟨unlisted, rfl⟩ := guarded_step stepped
    exact runInv_of_left run (inv_assign inv unlisted.2 _ _) (left_modify _ _ rfl)
  | related e =>
    obtain ⟨held, rfl⟩ := guarded_step stepped
    exact ⟨inv_conntrackExpectRelated inv (allocated e held),
      fun i unused still => run.fresh i unused ((conntrackExpectRelated_left inv e).2.2 i still)⟩
  | unexpect e =>
    obtain ⟨-, rfl⟩ := guarded_step stepped
    exact runInv_of_left run (inv_unexpectRelated inv e).1 (inv_unexpectRelated inv e).2
  | put e =>
    obtain ⟨held, rfl⟩ := guarded_step stepped
    exact runInv_of_left run (inv_expectPut inv (by omega)) (left_expectPut _ _)
  | expire e =>
    obtain ⟨pending, rfl⟩ := guarded_step stepped
    obtain ⟨gone, kept⟩ := takeAway_of_pending inv pending
    have left := left_afterUnlink s.exps e (s.refs e)
    rw [← gone] at left
    exact runInv_of_left run kept left
  | arrive confirmed tuple =>
    rcases inv_findLoop inv confirmed tuple (l := s.exps.list) (fun _ => id) with
      ⟨missed, -⟩ | ⟨i, exps, found, -, -, -, left, kept⟩
    · simp only [expectStep, findExpectation, missed] at stepped
      cases stepped
      exact run
    · simp only [expectStep, findExpectation, found] at stepped
      cases stepped
      exact runInv_of_left run kept left
  | close ct =>
    cases stepped
    have removed := inv_removeExpectations inv ct
    exact runInv_of_left run removed.1 removed.2.1
  | setHelper ct max =>
    obtain ⟨idle, rfl⟩ := guarded_step stepped
    exact ⟨inv_setHelper inv idle max, run.fresh⟩

/-- The invariant of every run. -/
theorem runInv_reachable {s : ExpectState} (reach : expectSystem.Reachable s) : RunInv s := by
  refine System.Reachable.invariant ?_ (fun _ _ _ run stepped => runInv_step run stepped) reach
  rintro s ⟨slab, list, timers, expecting, refs⟩
  refine ⟨inv_noExpectations slab list timers expecting refs, ?_⟩
  rw [slab]
  exact fun _ _ => List.not_mem_nil

/-- In every run: a packet is covered by at most one listed expectation; a connection expects what
is listed for it, within the limit of its helper; and whoever holds an expectation, be it the list,
a timer or somebody else, holds memory that is allocated, with a use count that is exactly the
number of its holders. -/
theorem one_expectation_for_a_packet {s : ExpectState} (reach : expectSystem.Reachable s) :
    (∀ tuple, ∀ a ∈ s.exps.list, ∀ b ∈ s.exps.list, Covers (s.exps.exp a) tuple →
      Covers (s.exps.exp b) tuple → a = b) ∧
    (∀ m, s.exps.expecting m = s.exps.list.countP (fun e => (s.exps.exp e).master = m) ∧
      (s.exps.maxExpected m ≠ 0 → s.exps.expecting m ≤ s.exps.maxExpected m)) ∧
    (∀ e, (s.exps.exp e).pending = true ↔ e ∈ s.exps.list) ∧
    (∀ e, e ∈ s.exps.list ∨ 0 < s.refs e → e ∈ s.exps.allocated) ∧
    ∀ e ∈ s.exps.allocated, (s.exps.exp e).use = (if e ∈ s.exps.list then 2 else 0) + s.refs e ∧
      0 < (s.exps.exp e).use := by
  have inv := (runInv_reachable reach).inv
  refine ⟨?_, fun m => ⟨inv.counted m, inv.bounded m⟩, inv.timers, ?_, inv.uses⟩
  · intro tuple a memberA b memberB coversA coversB
    exact eq_of_covers inv.apart memberA memberB coversA coversB
  · rintro e (listed | held)
    · exact inv.listed e listed
    · by_contra gone
      have none := inv.freed e gone
      omega

/-- A tuple and the mask of the FTP helper. -/
def dataTuple (port : UInt16) : Tuple := ⟨⟨0x0900000a, 0⟩, ⟨0x0100000a, port, 6, .original⟩⟩

/-- Everything but the source port. -/
def dataMask : Tuple := ⟨⟨0xffffffff, 0⟩, ⟨0xffffffff, 0xffff, 0xff, .original⟩⟩

/-- The state before a run. -/
def emptyExpect : ExpectState where
  exps := ⟨fun _ => ⟨0, dataTuple 0, dataMask, false, 0, false⟩, [], [], fun _ => 0, fun _ => 1⟩
  refs _ := 0
  next := 0

/-- A helper that may expect one connection registers a port and then another one, which evicts the
first; a packet to the second one arrives, and a third is registered and announced again. -/
def dataRun : List ExpectEvent :=
  [.alloc 7 (dataTuple 1) dataMask false, .related 0, .put 0,
    .alloc 7 (dataTuple 2) dataMask false, .related 1, .put 1,
    .arrive (fun _ => true) (dataTuple 2), .put 1,
    .alloc 7 (dataTuple 3) dataMask false, .related 2, .related 2]

/-- Three announced ports; a packet finds the second. -/
theorem one_expectation_for_a_packet_ftp :
    ∃ s, expectSystem.run emptyExpect dataRun = some s ∧ s.exps.list = [2] ∧
      s.exps.allocated = [2] ∧ (s.exps.exp 2).use = 3 ∧ s.exps.expecting 7 = 1 ∧
      ∀ tuple, ∀ a ∈ s.exps.list, ∀ b ∈ s.exps.list, Covers (s.exps.exp a) tuple →
        Covers (s.exps.exp b) tuple → a = b := by
  have ran : (expectSystem.run emptyExpect dataRun).map (fun s => (s.exps.list, s.exps.allocated,
      (s.exps.exp 2).use, s.exps.expecting 7)) = some ([2], [2], 3, 1) := by decide +kernel
  obtain ⟨s, run, values⟩ := Option.map_eq_some_iff.mp ran
  simp only [Prod.mk.injEq] at values
  have start : expectSystem.Reachable emptyExpect :=
    .init ⟨rfl, rfl, fun _ => rfl, fun _ => rfl, fun _ => rfl⟩
  have known := one_expectation_for_a_packet (System.reachable_of_run start run)
  exact ⟨s, run, values.1, values.2.1, values.2.2.1, values.2.2.2, known.1⟩

end Fvs318g.Verif.ExpectRuns
