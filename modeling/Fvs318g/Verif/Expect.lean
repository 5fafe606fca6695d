import Fvs318g.Lib.Masked
import Fvs318g.Netfilter.Expect
import Mathlib.Data.List.Count

/-!
# The list of expectations

What every function on the list keeps: an expectation that is listed is held twice, by the list and
by its timer, and every other reference is one that somebody has not put yet; the counter of a
connection is the number of its listed expectations and stays within the limit of its helper; and no
two listed expectations clash, so that a packet fulfils at most one of them.
-/

namespace Fvs318g.Verif.Expect

open Lib Netfilter Netfilter.Expectations

/-! ## Matching under masks -/

/-- A comparison under a mask, by its parts. -/
theorem tupleMaskCmp_iff (t u mask : Tuple) :
    tupleMaskCmp t u mask = true ↔
      Agree mask.src.ip.toBitVec t.src.ip.toBitVec u.src.ip.toBitVec ∧
      Agree mask.dst.ip.toBitVec t.dst.ip.toBitVec u.dst.ip.toBitVec ∧
      Agree mask.src.all.toBitVec t.src.all.toBitVec u.src.all.toBitVec ∧
      Agree mask.dst.all.toBitVec t.dst.all.toBitVec u.dst.all.toBitVec ∧
      Agree mask.dst.protonum.toBitVec t.dst.protonum.toBitVec u.dst.protonum.toBitVec := by
  have word32 : ∀ x y m : UInt32, ((x ^^^ y) &&& m == 0) = true ↔
      Agree m.toBitVec x.toBitVec y.toBitVec := by
    intro x y m
    rw [beq_iff_eq, ← UInt32.toBitVec_inj, UInt32.toBitVec_and, UInt32.toBitVec_xor]
    rfl
  have word16 : ∀ x y m : UInt16, ((x ^^^ y) &&& m == 0) = true ↔
      Agree m.toBitVec x.toBitVec y.toBitVec := by
    intro x y m
    rw [beq_iff_eq, ← UInt16.toBitVec_inj, UInt16.toBitVec_and, UInt16.toBitVec_xor]
    rfl
  have word8 : ∀ x y m : UInt8, ((x ^^^ y) &&& m == 0) = true ↔
      Agree m.toBitVec x.toBitVec y.toBitVec := by
    intro x y m
    rw [beq_iff_eq, ← UInt8.toBitVec_inj, UInt8.toBitVec_and, UInt8.toBitVec_xor]
    rfl
  simp only [tupleMaskCmp, Bool.and_eq_true, word32, word16, word8, and_assoc]

/-- The expectation covers the tuple. -/
def Covers (exp : Expectation) (tuple : Tuple) : Prop :=
  tupleMaskCmp tuple exp.tuple exp.mask = true

/-- Two expectations that cover one tuple clash. -/
theorem clash_of_covers {a b : Expectation} {tuple : Tuple} (first : Covers a tuple)
    (second : Covers b tuple) : expectClash a b = true := by
  rw [Covers, tupleMaskCmp_iff] at first second
  rw [expectClash, tupleMaskCmp_iff]
  obtain ⟨srcIp, dstIp, srcAll, dstAll, proto⟩ := first
  obtain ⟨srcIp', dstIp', srcAll', dstAll', proto'⟩ := second
  simp only [intersectMask, UInt32.toBitVec_and, UInt16.toBitVec_and, UInt8.toBitVec_and]
  exact ⟨srcIp.meet srcIp', dstIp.meet dstIp', srcAll.meet srcAll', dstAll.meet dstAll',
    proto.meet proto'⟩

/-- Among expectations that do not clash, at most one covers a tuple. -/
theorem eq_of_covers {exp : Nat → Expectation} {l : List Nat}
    (apart : l.Pairwise fun a b => expectClash (exp b) (exp a) = false) {tuple : Tuple} {a b : Nat}
    (memberA : a ∈ l) (memberB : b ∈ l) (coversA : Covers (exp a) tuple)
    (coversB : Covers (exp b) tuple) : a = b := by
  have clash : ∀ {x y}, Covers (exp x) tuple → Covers (exp y) tuple →
      expectClash (exp x) (exp y) ≠ false := by
    intro x y first second
    rw [clash_of_covers first second]
    exact Bool.false_ne_true.symm
  induction l with
  | nil => cases memberA
  | cons c rest ih =>
    obtain ⟨head, tail⟩ := List.pairwise_cons.mp apart
    rcases List.mem_cons.mp memberA with hereA | laterA
    · rcases List.mem_cons.mp memberB with hereB | laterB
      · rw [hereA, hereB]
      · exact absurd (head b laterB) (clash coversB (hereA ▸ coversA))
    · rcases List.mem_cons.mp memberB with hereB | laterB
      · exact absurd (head a laterA) (clash coversA (hereB ▸ coversB))
      · exact ih tail laterA laterB

/-! ## The invariant -/

/-- What holds of the expectations, with the references that are held beside the list and the
timers. -/
structure ExpectInv (s : Expectations) (refs : Nat → Nat) : Prop where
  /-- Nothing is listed twice. -/
  nodup : s.list.Nodup
  /-- What is listed is allocated. -/
  listed : ∀ e ∈ s.list, e ∈ s.allocated
  /-- The timers of the listed expectations are pending, and no others. -/
  timers : ∀ e, (s.exp e).pending = true ↔ e ∈ s.list
  /-- Nothing is allocated twice. -/
  slab : s.allocated.Nodup
  /-- A use count is the number of references, and something is freed with its last one. -/
  uses : ∀ e ∈ s.allocated, (s.exp e).use = (if e ∈ s.list then 2 else 0) + refs e ∧
    0 < (s.exp e).use
  /-- Nothing refers to freed memory. -/
  freed : ∀ e, e ∉ s.allocated → refs e = 0
  /-- `expecting` counts the listed expectations of a connection. -/
  counted : ∀ m, s.expecting m = s.list.countP fun e => (s.exp e).master = m
  /-- Listed expectations do not clash. -/
  apart : s.list.Pairwise fun a b => expectClash (s.exp b) (s.exp a) = false
  /-- No connection expects more than its helper allows. -/
  bounded : ∀ m, s.maxExpected m ≠ 0 → s.expecting m ≤ s.maxExpected m

/-! ## Leaving the list -/

/-- The state after an expectation left the list, with the references that are then left. -/
def afterUnlink (s : Expectations) (e : Nat) (use : Int) : Expectations :=
  { s with
    exp := Function.update s.exp e { s.exp e with pending := false, use := use }
    allocated := if use = 0 then s.allocated.erase e else s.allocated
    list := s.list.erase e
    expecting := Function.update s.expecting (s.exp e).master
      (s.expecting (s.exp e).master - 1) }

/-- Unlinking after the timer was stopped. -/
theorem unlinkExpect_stopTimer {s : Expectations} {e r : Nat} (use : (s.exp e).use = 2 + r) :
    unlinkExpect (stopTimer s e) e = afterUnlink s e (r + 1) := by
  have positive : ((r : Int) + 1) ≠ 0 := by omega
  have lowered : (2 + (r : Int)) - 1 = r + 1 := by omega
  simp only [unlinkExpect, stopTimer, expectPut, Expectations.modify, afterUnlink,
    Function.update_self, Function.update_idem, use, lowered, if_neg positive]

/-- Taking away also drops the reference of the timer. -/
theorem takeAway_eq {s : Expectations} {e r : Nat} (use : (s.exp e).use = 2 + r) :
    takeAway s e = afterUnlink s e r := by
  have lowered : (r : Int) + 1 - 1 = r := by omega
  rw [takeAway, unlinkExpect_stopTimer use, expectPut]
  simp only [Expectations.modify, afterUnlink, Function.update_self, Function.update_idem, lowered]
  have positive : ((r : Int) + 1) ≠ 0 := by omega
  simp only [if_neg positive]
  split <;> rfl

variable {e : Nat}

/-- The fields that a step on one expectation leaves alone. -/
theorem update_same {α : Type} {f : Nat → Expectation} {x : Expectation} (g : Expectation → α)
    (same : g x = g (f e)) (i : Nat) : g (Function.update f e x i) = g (f i) := by
  by_cases here : i = e
  · rw [here, Function.update_self, same]
  · rw [Function.update_of_ne here]

/-- The same tuples and masks clash as before. -/
theorem clash_congr {f g : Nat → Expectation} (tuples : ∀ i, (g i).tuple = (f i).tuple)
    (masks : ∀ i, (g i).mask = (f i).mask) (a b : Nat) :
    expectClash (g a) (g b) = expectClash (f a) (f b) := by
  rw [expectClash, tuples, tuples, masks, masks, expectClash]

/-- The same masters are counted as before. -/
theorem countP_master {f g : Nat → Expectation} (masters : ∀ i, (g i).master = (f i).master)
    (l : List Nat) (m : Nat) :
    l.countP (fun i => (g i).master = m) = l.countP fun i => (f i).master = m := by
  apply List.countP_congr
  intro i _
  rw [masters]

section Steps

variable {s : Expectations} {refs : Nat → Nat}

/-- The count of a connection goes down with an expectation that leaves the list. -/
theorem counted_erase (inv : ExpectInv s refs) (listed : e ∈ s.list) (m : Nat) :
    Function.update s.expecting (s.exp e).master (s.expecting (s.exp e).master - 1) m =
      ((s.list.erase e).countP fun i => (s.exp i).master = m : Nat) := by
  have old := inv.counted m
  rw [List.countP_erase]
  by_cases here : m = (s.exp e).master
  · have some : 0 < s.list.countP fun i => (s.exp i).master = m :=
      List.countP_pos_iff.mpr ⟨e, listed, by simp [here]⟩
    rw [here, Function.update_self, ← here, old]
    simp only [listed, here, decide_true, and_self, if_true] at some ⊢
    omega
  · have other : (s.exp e).master ≠ m := fun same => here same.symm
    rw [Function.update_of_ne here, old]
    simp [other]

/-- The other expectations stay allocated when one leaves the list. -/
theorem mem_allocated_afterUnlink (inv : ExpectInv s refs) {i : Nat} (other : i ≠ e) (use : Int) :
    i ∈ (afterUnlink s e use).allocated ↔ i ∈ s.allocated := by
  simp only [afterUnlink]
  split
  · rw [inv.slab.mem_erase_iff, and_iff_right other]
  · exact Iff.rfl

/-- An expectation leaves the list, and the references that are left are those of its holders. -/
theorem inv_afterUnlink (refs' : Nat → Nat) (inv : ExpectInv s refs) (listed : e ∈ s.list)
    (others : ∀ i, i ≠ e → refs' i = refs i) : ExpectInv (afterUnlink s e (refs' e)) refs' := by
  have masters : ∀ i, ((afterUnlink s e (refs' e)).exp i).master = (s.exp i).master :=
    update_same Expectation.master rfl
  have clashes := clash_congr (g := (afterUnlink s e (refs' e)).exp)
    (update_same Expectation.tuple rfl) (update_same Expectation.mask rfl)
  have member : ∀ i, i ∈ s.list.erase e ↔ i ≠ e ∧ i ∈ s.list := fun i => inv.nodup.mem_erase_iff
  constructor
  case nodup => exact inv.nodup.erase e
  case listed =>
    intro i left
    have kept := (member i).mp left
    exact (mem_allocated_afterUnlink inv kept.1 _).mpr (inv.listed i kept.2)
  case timers =>
    intro i
    show (Function.update s.exp e _ i).pending = true ↔ i ∈ s.list.erase e
    rw [member]
    by_cases here : i = e
    · rw [here, Function.update_self]
      simp
    · rw [Function.update_of_ne here, inv.timers]
      simp [here]
  case slab =>
    simp only [afterUnlink]
    split
    · exact inv.slab.erase e
    · exact inv.slab
  case uses =>
    intro i allocated
    show (Function.update s.exp e _ i).use = (if i ∈ s.list.erase e then 2 else 0) + _ ∧
      0 < (Function.update s.exp e _ i).use
    by_cases here : i = e
    · subst here
      have gone : i ∉ s.list.erase i := fun still => ((member i).mp still).1 rfl
      have left : (refs' i : Int) ≠ 0 := by
        intro zero
        simp only [afterUnlink, if_pos zero] at allocated
        exact (inv.slab.mem_erase_iff.mp allocated).1 rfl
      rw [Function.update_self, if_neg gone]
      exact ⟨(Int.zero_add _).symm, by simp only; omega⟩
    · have old := inv.uses i ((mem_allocated_afterUnlink inv here _).mp allocated)
      rw [Function.update_of_ne here, others i here]
      simpa only [member, ne_eq, here, not_false_eq_true, true_and] using old
  case freed =>
    intro i gone
    by_cases here : i = e
    · subst here
      by_contra left
      apply gone
      simp only [afterUnlink]
      rw [if_neg (by omega)]
      exact inv.listed i listed
    · rw [others i here]
      exact inv.freed i (mt (mem_allocated_afterUnlink inv here _).mpr gone)
  case counted =>
    intro m
    rw [countP_master masters]
    exact counted_erase inv listed m
  case apart =>
    apply (inv.apart.sublist (List.erase_sublist (a := e))).imp
    exact fun clear => (clashes _ _).trans clear
  case bounded =>
    intro m limited
    have old := inv.bounded m limited
    show Function.update s.expecting _ _ m ≤ _
    by_cases here : m = (s.exp e).master
    · rw [here, Function.update_self, ← here]
      simp only [afterUnlink]
      omega
    · rw [Function.update_of_ne here]
      exact old

/-- The count of a listed expectation. -/
theorem use_of_listed (inv : ExpectInv s refs) (listed : e ∈ s.list) :
    (s.exp e).use = 2 + refs e := by
  have use := (inv.uses e (inv.listed e listed)).1
  rwa [if_pos listed] at use

/-- Nothing is expected at the start. -/
theorem inv_noExpectations (slab : s.allocated = []) (list : s.list = [])
    (timers : ∀ e, (s.exp e).pending = false) (expecting : ∀ m, s.expecting m = 0)
    (noRefs : ∀ e, refs e = 0) : ExpectInv s refs := by
  refine ⟨?_, ?_, ?_, ?_, ?_, ?_, ?_, ?_, ?_⟩
  · rw [list]
    exact List.nodup_nil
  · rw [list]
    exact fun _ member => absurd member List.not_mem_nil
  · intro e
    rw [timers, list]
    simp
  · rw [slab]
    exact List.nodup_nil
  · rw [slab]
    exact fun _ member => absurd member List.not_mem_nil
  · exact fun e _ => noRefs e
  · intro m
    rw [expecting, list]
    rfl
  · rw [list]
    exact List.Pairwise.nil
  · intro m _
    rw [expecting]
    exact Int.natCast_nonneg _

section

variable (inv : ExpectInv s refs)
include inv

/-- A pending expectation is taken away. -/
theorem takeAway_of_pending (pending : (s.exp e).pending = true) :
    takeAway s e = afterUnlink s e (refs e) ∧ ExpectInv (takeAway s e) refs := by
  have listed := (inv.timers e).mp pending
  have gone := takeAway_eq (use_of_listed inv listed)
  refine ⟨gone, ?_⟩
  rw [gone]
  exact inv_afterUnlink refs inv listed fun _ _ => rfl

/-- The holder of an expectation that left the list has the reference of the timer. -/
theorem inv_found (pending : (s.exp e).pending = true) :
    ExpectInv (unlinkExpect (stopTimer s e) e) (Function.update refs e (refs e + 1)) := by
  have listed := (inv.timers e).mp pending
  rw [unlinkExpect_stopTimer (use_of_listed inv listed)]
  have left := inv_afterUnlink (Function.update refs e (refs e + 1)) inv listed
    fun i other => Function.update_of_ne other _ _
  rwa [Function.update_self] at left

/-- A change of one expectation that the list does not show: only the counts and the memory have to
be looked at. -/
theorem inv_change {x : Expectation} {allocated : List Nat} {refs' : Nat → Nat}
    (timer : x.pending = (s.exp e).pending)
    (same : e ∈ s.list → x.master = (s.exp e).master ∧ x.tuple = (s.exp e).tuple ∧
      x.mask = (s.exp e).mask) (listed : ∀ i ∈ s.list, i ∈ allocated) (slab : allocated.Nodup)
    (uses : ∀ i ∈ allocated, (Function.update s.exp e x i).use =
      (if i ∈ s.list then 2 else 0) + refs' i ∧ 0 < (Function.update s.exp e x i).use)
    (freed : ∀ i, i ∉ allocated → refs' i = 0) :
    ExpectInv { s with exp := Function.update s.exp e x, allocated := allocated } refs' := by
  have visible : ∀ i ∈ s.list, (Function.update s.exp e x i).master = (s.exp i).master ∧
      (Function.update s.exp e x i).tuple = (s.exp i).tuple ∧
      (Function.update s.exp e x i).mask = (s.exp i).mask := by
    intro i member
    by_cases here : i = e
    · rw [here, Function.update_self]
      exact same (here ▸ member)
    · rw [Function.update_of_ne here]
      exact ⟨rfl, rfl, rfl⟩
  refine ⟨inv.nodup, listed, ?_, slab, uses, freed, ?_, ?_, inv.bounded⟩
  · intro i
    show (Function.update s.exp e x i).pending = true ↔ i ∈ s.list
    rw [update_same Expectation.pending timer]
    exact inv.timers i
  · intro m
    show s.expecting m = s.list.countP fun i => (Function.update s.exp e x i).master = m
    rw [inv.counted m]
    congr 1
    apply List.countP_congr
    intro i member
    rw [(visible i member).1]
  · apply inv.apart.imp_of_mem
    intro a b memberA memberB clear
    show expectClash (Function.update s.exp e x b) (Function.update s.exp e x a) = false
    rw [expectClash, (visible a memberA).2.1, (visible a memberA).2.2, (visible b memberB).2.1,
      (visible b memberB).2.2]
    exact clear

/-- A change of the use count with the references of the holders. -/
theorem inv_use (inSlab : e ∈ s.allocated) {r : Nat} {u : Int}
    (use : u = (s.exp e).use + r - refs e) (left : 0 < u) :
    ExpectInv (s.modify e fun exp => { exp with use := u }) (Function.update refs e r) := by
  apply inv_change inv
  · rfl
  · exact fun _ => ⟨rfl, rfl, rfl⟩
  · exact inv.listed
  · exact inv.slab
  · intro i allocated
    by_cases here : i = e
    · rw [here, Function.update_self, Function.update_self]
      have old := (inv.uses e inSlab).1
      refine ⟨?_, left⟩
      show u = (if e ∈ s.list then 2 else 0) + (r : Int)
      omega
    · rw [Function.update_of_ne here, Function.update_of_ne here]
      exact inv.uses i allocated
  · intro i gone
    have other : i ≠ e := fun here => gone (here ▸ inSlab)
    rw [Function.update_of_ne other]
    exact inv.freed i gone

/-- A holder puts its reference. -/
theorem inv_expectPut {e r : Nat} (held : refs e = r + 1) :
    ExpectInv (expectPut s e) (Function.update refs e r) := by
  have allocated : e ∈ s.allocated := by
    by_contra gone
    have none := inv.freed e gone
    omega
  have use := inv.uses e allocated
  unfold expectPut
  by_cases last : (s.exp e).use - 1 = 0
  · have unlisted : e ∉ s.list := by
      intro listed
      have two := use_of_listed inv listed
      omega
    simp only [if_pos last]
    apply inv_change inv
    · rfl
    · exact fun listed => absurd listed unlisted
    · intro i listed
      exact inv.slab.mem_erase_iff.mpr ⟨fun here => unlisted (here ▸ listed), inv.listed i listed⟩
    · exact inv.slab.erase e
    · intro i left
      have kept := inv.slab.mem_erase_iff.mp left
      rw [Function.update_of_ne kept.1, Function.update_of_ne kept.1]
      exact inv.uses i kept.2
    · intro i gone
      by_cases here : i = e
      · rw [if_neg unlisted] at use
        rw [here, Function.update_self]
        omega
      · rw [Function.update_of_ne here]
        exact inv.freed i fun still => gone (inv.slab.mem_erase_iff.mpr ⟨here, still⟩)
  · simp only [if_neg last]
    exact inv_use inv allocated (by omega) (by omega)

/-- Memory for a new expectation, with the reference of the caller. -/
theorem inv_expectAlloc (fresh : e ∉ s.allocated) (master : Nat) (tuple mask : Tuple)
    (permanent : Bool) :
    ExpectInv (expectAlloc s e master tuple mask permanent) (Function.update refs e 1) := by
  have unlisted : e ∉ s.list := fun listed => fresh (inv.listed e listed)
  have stopped : (s.exp e).pending = false := by
    rw [Bool.eq_false_iff]
    exact fun pending => unlisted ((inv.timers e).mp pending)
  apply inv_change inv
  · rw [stopped]
  · exact fun listed => absurd listed unlisted
  · exact fun i listed => List.mem_cons_of_mem _ (inv.listed i listed)
  · exact List.nodup_cons.mpr ⟨fresh, inv.slab⟩
  · intro i allocated
    by_cases here : i = e
    · rw [here, Function.update_self, Function.update_self, if_neg unlisted]
      exact ⟨rfl, Int.one_pos⟩
    · rw [Function.update_of_ne here, Function.update_of_ne here]
      exact inv.uses i (List.mem_of_ne_of_mem here allocated)
  · intro i gone
    rw [List.mem_cons, not_or] at gone
    rw [Function.update_of_ne gone.1]
    exact inv.freed i gone.2

/-- The holder of an expectation that is not listed writes to it. -/
theorem inv_assign (unlisted : e ∉ s.list) (tuple mask : Tuple) :
    ExpectInv (s.modify e fun exp => { exp with tuple := tuple, mask := mask }) refs := by
  have uses : ∀ i, (Function.update s.exp e { s.exp e with tuple := tuple, mask := mask } i).use =
      (s.exp i).use := update_same Expectation.use rfl
  apply inv_change inv
  · rfl
  · exact fun listed => absurd listed unlisted
  · exact inv.listed
  · exact inv.slab
  · intro i allocated
    show (Function.update s.exp e { s.exp e with tuple := tuple, mask := mask } i).use = _ ∧
      0 < (Function.update s.exp e { s.exp e with tuple := tuple, mask := mask } i).use
    rw [uses]
    exact inv.uses i allocated
  · exact inv.freed

/-- An expectation is put on the list. -/
theorem inv_expectInsert (inSlab : e ∈ s.allocated) (unlisted : e ∉ s.list)
    (clear : ∀ i ∈ s.list, expectClash (s.exp i) (s.exp e) = false)
    (room : s.maxExpected (s.exp e).master ≠ 0 →
      s.expecting (s.exp e).master + 1 ≤ s.maxExpected (s.exp e).master) :
    ExpectInv (expectInsert s e) refs := by
  have masters : ∀ i, ((expectInsert s e).exp i).master = (s.exp i).master :=
    update_same Expectation.master rfl
  have clashes := clash_congr (g := (expectInsert s e).exp)
    (update_same Expectation.tuple rfl) (update_same Expectation.mask rfl)
  constructor
  case nodup => exact List.nodup_cons.mpr ⟨unlisted, inv.nodup⟩
  case listed =>
    intro i listed
    rcases List.mem_cons.mp listed with here | old
    · exact here ▸ inSlab
    · exact inv.listed i old
  case timers =>
    intro i
    show (Function.update s.exp e _ i).pending = true ↔ i ∈ e :: s.list
    by_cases here : i = e
    · rw [here, Function.update_self]
      simp
    · rw [Function.update_of_ne here, inv.timers, List.mem_cons]
      simp [here]
  case slab => exact inv.slab
  case uses =>
    intro i allocated
    show (Function.update s.exp e _ i).use = (if i ∈ e :: s.list then 2 else 0) + (refs i : Int) ∧
      0 < (Function.update s.exp e _ i).use
    have old := inv.uses i allocated
    by_cases here : i = e
    · subst here
      rw [if_neg unlisted] at old
      rw [Function.update_self, if_pos List.mem_cons_self]
      simp only
      omega
    · rw [Function.update_of_ne here]
      simpa [here] using old
  case freed => exact inv.freed
  case counted =>
    intro m
    rw [countP_master masters]
    show Function.update s.expecting _ _ m = ((e :: s.list).countP _ : Nat)
    rw [List.countP_cons]
    have old := inv.counted m
    by_cases here : m = (s.exp e).master
    · rw [here, Function.update_self, ← here, old]
      simp [here]
    · have other : (s.exp e).master ≠ m := fun same => here same.symm
      rw [Function.update_of_ne here, old]
      simp [other]
  case apart =>
    refine List.pairwise_cons.mpr ⟨?_, ?_⟩
    · exact fun i listed => (clashes i e).trans (clear i listed)
    · exact inv.apart.imp fun known => (clashes _ _).trans known
  case bounded =>
    intro m limited
    show Function.update s.expecting _ _ m ≤ _
    by_cases here : m = (s.exp e).master
    · rw [here, Function.update_self]
      exact room (here ▸ limited)
    · rw [Function.update_of_ne here]
      exact inv.bounded m limited

end

/-- What the loop of `ip_conntrack_expect_related` has seen when it reaches the end of the list. -/
theorem relatedLoop_none {l : List Nat} (pending : ∀ i ∈ l, (s.exp i).pending = true)
    (passed : relatedLoop s e l = none) : ∀ i ∈ l, expectMatches (s.exp i) (s.exp e) = false ∧
      expectClash (s.exp i) (s.exp e) = false := by
  induction l with
  | nil => exact fun i member => absurd member List.not_mem_nil
  | cons j rest ih =>
    rw [relatedLoop, pending j List.mem_cons_self, if_pos rfl] at passed
    split at passed
    · cases passed
    · rename_i unlike
      split at passed
      · cases passed
      · rename_i clear
        intro i member
        rcases List.mem_cons.mp member with here | later
        · rw [here]
          exact ⟨Bool.eq_false_iff.mpr unlike, Bool.eq_false_iff.mpr clear⟩
        · exact ih (fun k member => pending k (List.mem_cons_of_mem _ member)) passed i later

/-- An expectation matches itself. -/
theorem expectMatches_self (exp : Expectation) : expectMatches exp exp = true := by
  simp [expectMatches, Tuple.equal]

/-- What is left of the expectations belongs to the same connections. -/
structure Left (s s' : Expectations) : Prop where
  /-- Nothing new is listed. -/
  list : ∀ i ∈ s'.list, i ∈ s.list
  /-- The masters stay. -/
  master : ∀ i, (s'.exp i).master = (s.exp i).master
  /-- Nothing new is allocated. -/
  slab : ∀ i ∈ s'.allocated, i ∈ s.allocated

/-- Nothing done, everything left. -/
theorem Left.refl (s : Expectations) : Left s s := ⟨fun _ => id, fun _ => rfl, fun _ => id⟩

/-- What two steps leave is left. -/
theorem Left.trans {s s' s'' : Expectations} (first : Left s s') (second : Left s' s'') :
    Left s s'' :=
  ⟨fun i member => first.list i (second.list i member),
    fun i => (second.master i).trans (first.master i),
    fun i member => first.slab i (second.slab i member)⟩

/-- Unlinking only takes away. -/
theorem left_afterUnlink (s : Expectations) (e : Nat) (use : Int) :
    Left s (afterUnlink s e use) := by
  refine ⟨fun i => List.mem_of_mem_erase, update_same Expectation.master rfl, ?_⟩
  intro i member
  simp only [afterUnlink] at member
  split at member
  · exact List.mem_of_mem_erase member
  · exact member

/-- A change that keeps the master. -/
theorem left_modify (s : Expectations) (e : Nat) {f : Expectation → Expectation}
    (same : (f (s.exp e)).master = (s.exp e).master) : Left s (s.modify e f) :=
  ⟨fun _ => id, update_same Expectation.master same, fun _ => id⟩

/-- A put only takes away. -/
theorem left_expectPut (s : Expectations) (e : Nat) : Left s (expectPut s e) := by
  unfold expectPut
  split
  · exact ⟨fun _ => id, update_same Expectation.master rfl, fun i => List.mem_of_mem_erase⟩
  · exact left_modify s e rfl

section

variable (inv : ExpectInv s refs)
include inv

/-- The oldest expectation of a connection is taken away, if there is one. -/
theorem evictOldestExpect_cases (master : Nat) :
    s.expecting master = 0 ∧ evictOldestExpect s master = s ∨
      ∃ i ∈ s.list, (s.exp i).master = master ∧
        evictOldestExpect s master = afterUnlink s i (refs i) := by
  unfold evictOldestExpect
  cases found : s.list.reverse.find? fun i => (s.exp i).master = master with
  | none =>
    left
    refine ⟨?_, rfl⟩
    rw [List.find?_eq_none] at found
    rw [inv.counted, Int.natCast_eq_zero, List.countP_eq_zero]
    intro i listed
    exact found i (List.mem_reverse.mpr listed)
  | some i =>
    right
    have listed := List.mem_reverse.mp (List.mem_of_find?_eq_some found)
    have pending := (inv.timers i).mpr listed
    have own := List.find?_some found
    rw [decide_eq_true_eq] at own
    refine ⟨i, listed, own, ?_⟩
    simp only [pending, if_true]
    exact (takeAway_of_pending inv pending).1

/-- `ip_conntrack_expect_related`. -/
theorem inv_conntrackExpectRelated (inSlab : e ∈ s.allocated) :
    ExpectInv (conntrackExpectRelated s e).2 refs := by
  unfold conntrackExpectRelated
  cases outcome : relatedLoop s e s.list with
  | some ret => exact inv
  | none =>
    have passed := relatedLoop_none (fun i listed => (inv.timers i).mpr listed) outcome
    have unlisted : e ∉ s.list := by
      intro listed
      have unlike := (passed e listed).1
      rw [expectMatches_self] at unlike
      cases unlike
    have clear : ∀ i ∈ s.list, expectClash (s.exp i) (s.exp e) = false :=
      fun i listed => (passed i listed).2
    show ExpectInv (expectInsert (if s.maxExpected (s.exp e).master ≠ 0 ∧
      s.maxExpected (s.exp e).master ≤ s.expecting (s.exp e).master then
        evictOldestExpect s (s.exp e).master else s) e) refs
    split
    · rename_i full
      have limit := inv.bounded _ full.1
      rcases evictOldestExpect_cases inv (s.exp e).master with ⟨none, -⟩ | ⟨i, listed, own, evicted⟩
      · omega
      · -- the oldest one is gone, and the new one takes its place
        have other : e ≠ i := fun here => unlisted (here ▸ listed)
        have left := inv_afterUnlink refs inv listed fun _ _ => rfl
        have same : (afterUnlink s i (refs i)).exp e = s.exp e := Function.update_of_ne other _ _
        rw [evicted]
        apply inv_expectInsert left
        · simp only [afterUnlink]
          split
          · exact inv.slab.mem_erase_iff.mpr ⟨other, inSlab⟩
          · exact inSlab
        · exact fun still => unlisted (List.mem_of_mem_erase still)
        · intro j still
          have here := (inv.nodup.mem_erase_iff.mp still)
          have kept : (afterUnlink s i (refs i)).exp j = s.exp j := Function.update_of_ne here.1 _ _
          rw [kept, same]
          exact clear j here.2
        · intro _
          rw [same]
          simp only [afterUnlink, own, Function.update_self]
          omega
    · rename_i room
      exact inv_expectInsert inv inSlab unlisted clear fun limited => by
        have open_ := not_and.mp room limited
        omega

/-- Only the new expectation is added to the list. -/
theorem conntrackExpectRelated_left (e : Nat) :
    (∀ i ∈ (conntrackExpectRelated s e).2.list, i = e ∨ i ∈ s.list) ∧
      (∀ i, ((conntrackExpectRelated s e).2.exp i).master = (s.exp i).master) ∧
      ∀ i ∈ (conntrackExpectRelated s e).2.allocated, i ∈ s.allocated := by
  have insert : ∀ s', Left s s' → (∀ i ∈ (expectInsert s' e).list, i = e ∨ i ∈ s.list) ∧
      (∀ i, ((expectInsert s' e).exp i).master = (s.exp i).master) ∧
      ∀ i ∈ (expectInsert s' e).allocated, i ∈ s.allocated := by
    intro s' left
    refine ⟨?_, ?_, left.slab⟩
    · intro i member
      exact (List.mem_cons.mp member).imp id (left.list i)
    · intro i
      have kept : ∀ i, ((expectInsert s' e).exp i).master = (s'.exp i).master :=
        update_same Expectation.master rfl
      rw [kept, left.master]
  unfold conntrackExpectRelated
  cases relatedLoop s e s.list with
  | some ret => exact ⟨fun i => .inr, fun _ => rfl, fun _ => id⟩
  | none =>
    apply insert
    split
    · rcases evictOldestExpect_cases inv (s.exp e).master with ⟨-, same⟩ | ⟨i, -, -, evicted⟩
      · rw [same]
        exact Left.refl s
      · rw [evicted]
        exact left_afterUnlink s i _
    · exact Left.refl s

/-- A connection that expects nothing gets another helper. -/
theorem inv_setHelper {ct : Nat} (idle : s.expecting ct = 0) (max : Nat) :
    ExpectInv { s with maxExpected := Function.update s.maxExpected ct max } refs := by
  refine ⟨inv.nodup, inv.listed, inv.timers, inv.slab, inv.uses, inv.freed, inv.counted, inv.apart,
    ?_⟩
  intro m limited
  show s.expecting m ≤ (Function.update s.maxExpected ct max m : Nat)
  replace limited : Function.update s.maxExpected ct max m ≠ 0 := limited
  by_cases here : m = ct
  · rw [here, idle]
    exact Int.natCast_nonneg _
  · rw [Function.update_of_ne here] at limited ⊢
    exact inv.bounded m limited

/-- `ip_conntrack_unexpect_related`. -/
theorem inv_unexpectRelated (e : Nat) :
    ExpectInv (unexpectRelated s e) refs ∧ Left s (unexpectRelated s e) := by
  unfold unexpectRelated
  split
  · rename_i i found
    have chosen := List.find?_some found
    rw [Bool.and_eq_true] at chosen
    obtain ⟨gone, kept⟩ := takeAway_of_pending inv chosen.2
    exact ⟨kept, gone ▸ left_afterUnlink s i _⟩
  · exact ⟨inv, Left.refl s⟩

/-- One round of the loop takes an expectation of the connection away. -/
theorem inv_removeOne (ct i : Nat) : ExpectInv (removeOne ct s i) refs ∧ Left s (removeOne ct s i) ∧
      ∀ j ∈ (removeOne ct s i).list, (s.exp j).master = ct → j ≠ i := by
  unfold removeOne
  split
  · rename_i own
    obtain ⟨gone, kept⟩ := takeAway_of_pending inv own.2
    refine ⟨kept, gone ▸ left_afterUnlink s i _, ?_⟩
    rw [gone]
    exact fun j left _ => (inv.nodup.mem_erase_iff.mp left).1
  · rename_i other
    refine ⟨inv, Left.refl s, ?_⟩
    rintro j listed own rfl
    exact other ⟨own, (inv.timers j).mpr listed⟩

/-- The loop of `ip_ct_remove_expectations`, with the elements that are still to be looked at. -/
theorem inv_removeLoop (ct : Nat) {l : List Nat}
    (ahead : ∀ i ∈ s.list, (s.exp i).master = ct → i ∈ l) :
    ExpectInv (l.foldl (removeOne ct) s) refs ∧ Left s (l.foldl (removeOne ct) s) ∧
      ∀ i ∈ (l.foldl (removeOne ct) s).list, (s.exp i).master ≠ ct := by
  induction l generalizing s with
  | nil => exact ⟨inv, Left.refl s, fun i listed own => List.not_mem_nil (ahead i listed own)⟩
  | cons j rest ih =>
    obtain ⟨kept, left, gone⟩ := inv_removeOne inv ct j
    have next := ih kept fun i listed own => by
      rw [left.master] at own
      exact List.mem_of_ne_of_mem (gone i listed own) (ahead i (left.list i listed) own)
    refine ⟨next.1, left.trans next.2.1, ?_⟩
    intro i listed
    have apart := next.2.2 i listed
    rwa [left.master] at apart

/-- `ip_ct_remove_expectations` leaves none of the connection. -/
theorem inv_removeExpectations (ct : Nat) :
    ExpectInv (removeExpectations s ct) refs ∧ Left s (removeExpectations s ct) ∧
      ∀ i ∈ (removeExpectations s ct).list, (s.exp i).master ≠ ct := by
  unfold removeExpectations
  split
  · rename_i none
    rw [inv.counted, Int.natCast_eq_zero, List.countP_eq_zero] at none
    exact ⟨inv, Left.refl s, fun i listed own => none i listed (decide_eq_true own)⟩
  · exact inv_removeLoop inv ct fun i listed _ => listed

/-- What `find_expectation` returns: an expectation that covers the tuple and whose master is
confirmed, and that the caller then holds. -/
theorem inv_findLoop (confirmed : Nat → Bool) (tuple : Tuple) {l : List Nat}
    (listed : ∀ i ∈ l, i ∈ s.list) : (findLoop confirmed tuple s l = (none, s) ∧
      ∀ i ∈ l, Covers (s.exp i) tuple → confirmed (s.exp i).master = false) ∨
    ∃ i s', findLoop confirmed tuple s l = (some i, s') ∧ i ∈ l ∧ Covers (s.exp i) tuple ∧
      confirmed (s.exp i).master = true ∧ Left s s' ∧
      ExpectInv s' (Function.update refs i (refs i + 1)) := by
  induction l with
  | nil => exact .inl ⟨rfl, fun i member => absurd member List.not_mem_nil⟩
  | cons j rest ih =>
    have here := listed j List.mem_cons_self
    have pending := (inv.timers j).mpr here
    rw [findLoop]
    split
    · rename_i fits
      rw [Bool.and_eq_true] at fits
      right
      split
      · refine ⟨j, _, rfl, List.mem_cons_self, fits.1, fits.2, left_modify s j rfl, ?_⟩
        have use := inv.uses j (inv.listed j here)
        exact inv_use inv (inv.listed j here) (by omega) (by omega)
      · refine ⟨j, _, rfl, List.mem_cons_self, fits.1, fits.2, ?_, inv_found inv pending⟩
        rw [unlinkExpect_stopTimer (use_of_listed inv here)]
        exact left_afterUnlink s j _
    · rename_i unfit
      rcases ih fun i member => listed i (List.mem_cons_of_mem _ member) with
        ⟨none, unmet⟩ | ⟨i, s', found, member, rest⟩
      · refine .inl ⟨none, ?_⟩
        intro i member covers
        rcases List.mem_cons.mp member with same | later
        · rw [same] at covers ⊢
          rw [Bool.eq_false_iff]
          exact fun known => unfit (by rw [Bool.and_eq_true]; exact ⟨covers, known⟩)
        · exact unmet i later covers
      · exact .inr ⟨i, s', found, List.mem_cons_of_mem _ member, rest⟩

end

end Steps

end Fvs318g.Verif.Expect
