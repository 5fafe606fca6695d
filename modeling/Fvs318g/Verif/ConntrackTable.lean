import Fvs318g.Netfilter.ConntrackTable
import Fvs318g.Verif.Expect

/-!
# What the table keeps

A connection is held by the hash, by the connections that it is the master of, and by packets. The
invariant says that its use count is the number of these holders, that nothing which is held is
freed, and that no two connections in the hash share a tuple. Functions that hand a reference from
one holder to another are described with the references of the packets as a parameter.
-/

namespace Fvs318g.Verif.ConntrackTable

open Lib Netfilter Netfilter.ConntrackTable
open Expect (ExpectInv inv_removeExpectations)

/-- The connection stands in the hash. -/
def Tabled (s : ConntrackTable) (ct : Nat) : Prop := (ct, Dir.original) ∈ s.hash

instance (s : ConntrackTable) (ct : Nat) : Decidable (Tabled s ct) :=
  inferInstanceAs (Decidable ((ct, Dir.original) ∈ s.hash))

/-- The number of connections that a connection is the master of. -/
def slaves (s : ConntrackTable) (m : Nat) : Nat :=
  s.allocated.countP fun c => (s.conn c).master = some m

/-- What holds of the table, with the references of the packets, those to expectations, and the
connection that is being set up. -/
structure TableInv (s : ConntrackTable) (refs erefs : Nat → Nat) (nascent : Option Nat) :
    Prop where
  /-- The expectations. -/
  exps : ExpectInv s.exps erefs
  /-- Nothing is allocated twice. -/
  slab : s.allocated.Nodup
  /-- No entry is in the hash twice. -/
  entries : s.hash.Nodup
  /-- A connection stands in the hash by both of its tuples. -/
  pairs : ∀ ct, (ct, Dir.reply) ∈ s.hash ↔ Tabled s ct
  /-- What stands in the hash is allocated and confirmed. -/
  tabled : ∀ ct, Tabled s ct → ct ∈ s.allocated ∧ (s.conn ct).confirmed = true
  /-- No connection waits twice. -/
  waiting : s.unconfirmed.Nodup
  /-- The connections that wait are those that are not confirmed. -/
  unconfirmed : ∀ ct, ct ∈ s.unconfirmed ↔
    ct ∈ s.allocated ∧ (s.conn ct).confirmed = false ∧ nascent ≠ some ct
  /-- A use count is the number of holders, and a connection is freed with the last one. -/
  uses : ∀ ct ∈ s.allocated, (s.conn ct).use =
    (if Tabled s ct then 1 else 0) + refs ct + slaves s ct ∧ 0 < (s.conn ct).use
  /-- No packet refers to freed memory. -/
  freed : ∀ ct, ct ∉ s.allocated → refs ct = 0
  /-- A master is allocated. -/
  masters : ∀ ct ∈ s.allocated, ∀ m, (s.conn ct).master = some m → m ∈ s.allocated
  /-- Only connections in the hash have timers. -/
  timers : ∀ ct, (s.conn ct).pending = true → Tabled s ct
  /-- `ip_conntrack_count`. -/
  counted : s.count = s.allocated.length
  /-- A connection that expects others is allocated. -/
  expected : ∀ e ∈ s.exps.list, (s.exps.exp e).master ∈ s.allocated
  /-- Connections in the hash have different tuples. -/
  distinct : ∀ a ∈ s.hash, ∀ b ∈ s.hash, (s.tupleOf a).equal (s.tupleOf b) = true → a.1 = b.1

variable {ct : Nat}

section Steps

variable {s : ConntrackTable} {refs erefs : Nat → Nat} {nascent : Option Nat}

/-- A packet refers to memory that is allocated. -/
theorem TableInv.allocated (inv : TableInv s refs erefs nascent) (held : 0 < refs ct) :
    ct ∈ s.allocated := by
  by_contra gone
  have none := inv.freed ct gone
  omega

/-- An entry of the hash belongs to a connection that stands in it. -/
theorem tabled_of_mem (inv : TableInv s refs erefs nascent) {h : Nat × Dir} (member : h ∈ s.hash) :
    Tabled s h.1 := by
  obtain ⟨c, dir⟩ := h
  cases dir with
  | original => exact member
  | reply => exact (inv.pairs c).mp member

/-- A slave is counted. -/
theorem slaves_pos {ct m : Nat} (member : ct ∈ s.allocated) (slave : (s.conn ct).master = some m) :
    0 < slaves s m :=
  List.countP_pos_iff.mpr ⟨ct, member, decide_eq_true slave⟩

/-- The same masters give the same slaves. -/
theorem slaves_congr {conn : Nat → Connection}
    (masters : ∀ c ∈ s.allocated, (conn c).master = (s.conn c).master) (m : Nat) :
    slaves { s with conn } m = slaves s m := by
  apply List.countP_congr
  intro c member
  show decide ((conn c).master = some m) = true ↔ _
  rw [masters c member]

/-! ## Writing to connections -/

/-- A field that the new value has from the old one is as before everywhere. -/
theorem update_field {α : Type} {x : Connection} (field : Connection → α)
    (same : field x = field (s.conn ct)) (c : Nat) :
    field (Function.update s.conn ct x c) = field (s.conn c) := by
  by_cases here : c = ct
  · rw [here, Function.update_self, same]
  · rw [Function.update_of_ne here]

/-- Connections are written, and the clauses that look at their values still hold. -/
theorem inv_write (inv : TableInv s refs erefs nascent) {conn : Nat → Connection}
    {refs' : Nat → Nat} (statuses : ∀ c ∈ s.allocated, (conn c).confirmed = (s.conn c).confirmed)
    (tuples : ∀ c, Tabled s c → ∀ dir, (conn c).tuplehash dir = (s.conn c).tuplehash dir)
    (timers : ∀ c, (conn c).pending = true → Tabled s c)
    (masters : ∀ c ∈ s.allocated, ∀ m, (conn c).master = some m → m ∈ s.allocated)
    (uses : ∀ c ∈ s.allocated, (conn c).use =
      (if Tabled s c then 1 else 0) + refs' c + slaves { s with conn } c ∧ 0 < (conn c).use)
    (freed : ∀ c, c ∉ s.allocated → refs' c = 0) : TableInv { s with conn } refs' erefs nascent :=
  { inv with
    tabled := fun c stands =>
      have old := inv.tabled c stands
      ⟨old.1, (statuses c old.1).trans old.2⟩
    unconfirmed := by
      intro c
      rw [inv.unconfirmed]
      apply and_congr_right
      intro member
      rw [← statuses c member]
    uses, freed, masters, timers
    distinct := by
      have same : ∀ h ∈ s.hash, tupleOf { s with conn } h = s.tupleOf h :=
        fun h member => tuples h.1 (tabled_of_mem inv member) h.2
      intro a memberA b memberB equal
      rw [same a memberA, same b memberB] at equal
      exact inv.distinct a memberA b memberB equal }

/-- A change of a connection that keeps its master and its status, and its tuples if it stands in
the hash. -/
theorem inv_conn (inv : TableInv s refs erefs nascent) {x : Connection} {refs' : Nat → Nat}
    (master : x.master = (s.conn ct).master) (status : x.confirmed = (s.conn ct).confirmed)
    (tuples : Tabled s ct → ∀ dir, x.tuplehash dir = (s.conn ct).tuplehash dir)
    (timer : x.pending = true → Tabled s ct) (others : ∀ c, c ≠ ct → refs' c = refs c)
    (use : ct ∈ s.allocated → x.use = (if Tabled s ct then 1 else 0) + refs' ct + slaves s ct ∧
      0 < x.use) (free : ct ∉ s.allocated → refs' ct = 0) :
    TableInv { s with conn := Function.update s.conn ct x } refs' erefs nascent := by
  have owners := update_field Connection.master master
  apply inv_write inv
  case statuses => exact fun c _ => update_field Connection.confirmed status c
  case tuples =>
    intro c stands dir
    by_cases here : c = ct
    · subst here
      rw [Function.update_self, tuples stands]
    · rw [Function.update_of_ne here]
  case timers =>
    intro c pending
    by_cases here : c = ct
    · rw [here, Function.update_self] at pending
      rw [here]
      exact timer pending
    · rw [Function.update_of_ne here] at pending
      exact inv.timers c pending
  case masters => exact fun c member m slave => inv.masters c member m ((owners c).symm.trans slave)
  case uses =>
    intro c member
    rw [slaves_congr fun c _ => owners c]
    by_cases here : c = ct
    · rw [here, Function.update_self]
      exact use (here ▸ member)
    · rw [Function.update_of_ne here, others c here]
      exact inv.uses c member
  case freed =>
    intro c gone
    by_cases here : c = ct
    · rw [here]
      exact free (here ▸ gone)
    · rw [others c here]
      exact inv.freed c gone

/-- A write to free memory. -/
theorem inv_free (inv : TableInv s refs erefs nascent) (fresh : ct ∉ s.allocated) {x : Connection}
    (timer : x.pending = false) :
    TableInv { s with conn := Function.update s.conn ct x } refs erefs nascent := by
  have same : ∀ c ∈ s.allocated, Function.update s.conn ct x c = s.conn c :=
    fun c member => Function.update_of_ne (ne_of_mem_of_not_mem member fresh) _ _
  apply inv_write inv
  case statuses => exact fun c member => congrArg _ (same c member)
  case tuples => exact fun c stands dir => by rw [same c (inv.tabled c stands).1]
  case timers =>
    intro c pending
    by_cases here : c = ct
    · rw [here, Function.update_self, timer] at pending
      cases pending
    · rw [Function.update_of_ne here] at pending
      exact inv.timers c pending
  case masters =>
    intro c member m slave
    rw [same c member] at slave
    exact inv.masters c member m slave
  case uses =>
    intro c member
    rw [slaves_congr fun c member => congrArg _ (same c member), same c member]
    exact inv.uses c member
  case freed => exact inv.freed

/-- A packet gets a reference. -/
theorem inv_conntrackGet (inv : TableInv s refs erefs nascent) (member : ct ∈ s.allocated) :
    TableInv (conntrackGet s ct) (Function.update refs ct (refs ct + 1)) erefs nascent := by
  have old := inv.uses ct member
  apply inv_conn inv
  · rfl
  · rfl
  · exact fun _ _ => rfl
  · exact inv.timers ct
  · exact fun c other => Function.update_of_ne other _ _
  · intro _
    rw [Function.update_self]
    simp only
    omega
  · exact fun gone => absurd member gone

/-- A timer is stopped, or expires. -/
theorem inv_stopTimer (inv : TableInv s refs erefs nascent) (ct : Nat) :
    TableInv (stopTimer s ct) refs erefs nascent := by
  apply inv_conn inv
  · rfl
  · rfl
  · exact fun _ _ => rfl
  · exact fun pending => absurd pending Bool.false_ne_true
  · exact fun _ _ => rfl
  · exact inv.uses ct
  · exact inv.freed ct

/-! ## Freeing a connection -/

/-- The references after a connection was destroyed: its own reference is gone, and the one to its
master is left to be put. -/
def handedOn (s : ConntrackTable) (refs : Nat → Nat) (ct : Nat) (c : Nat) : Nat :=
  if c = ct then 0 else refs c + if (s.conn ct).master = some c then 1 else 0

/-- The last reference is one of a packet: neither the hash nor a slave has it. -/
theorem TableInv.last (inv : TableInv s refs erefs nascent) (member : ct ∈ s.allocated)
    (held : 0 < refs ct) (last : (s.conn ct).use = 1) : ¬Tabled s ct ∧ slaves s ct = 0 := by
  have use := (inv.uses ct member).1
  split at use
  · omega
  · rename_i untabled
    exact ⟨untabled, by omega⟩

/-- The slaves that others still have when a connection is freed. -/
theorem slaves_destroy (member : ct ∈ s.allocated) (c : Nat) :
    slaves (destroyConntrack s ct) c =
      slaves s c - if (s.conn ct).master = some c then 1 else 0 := by
  show (s.allocated.erase ct).countP (fun d => (s.conn d).master = some c) = _
  rw [List.countP_erase]
  simp only [member, true_and, decide_eq_true_eq]
  rfl

/-- The others still wait when a connection is freed. -/
theorem mem_unconfirmed_destroy (inv : TableInv s refs erefs nascent) (ct c : Nat) :
    c ∈ (destroyConntrack s ct).unconfirmed ↔ c ≠ ct ∧ c ∈ s.unconfirmed := by
  show c ∈ (if (s.conn ct).confirmed = true then s.unconfirmed else s.unconfirmed.erase ct) ↔ _
  split
  · rename_i status
    refine ⟨fun waits => ⟨?_, waits⟩, And.right⟩
    rintro rfl
    exact Bool.false_ne_true (((inv.unconfirmed c).mp waits).2.1.symm.trans status)
  · exact inv.waiting.mem_erase_iff

/-- `destroy_conntrack`, before the memory of the connection is written to. -/
theorem inv_forget (inv : TableInv s refs erefs none) (member : ct ∈ s.allocated)
    (held : 0 < refs ct) (last : (s.conn ct).use = 1) :
    TableInv (destroyConntrack s ct) (handedOn s refs ct) erefs none := by
  obtain ⟨untabled, unowned⟩ := inv.last member held last
  obtain ⟨expsInv, left, cleared⟩ := inv_removeExpectations inv.exps ct
  have kept : ∀ c, c ∈ s.allocated.erase ct ↔ c ≠ ct ∧ c ∈ s.allocated :=
    fun c => inv.slab.mem_erase_iff
  exact { inv with
    exps := expsInv
    slab := inv.slab.erase ct
    tabled := fun c stands =>
      have old := inv.tabled c stands
      ⟨(kept c).mpr ⟨fun here => untabled (here ▸ stands), old.1⟩, old.2⟩
    waiting := by
      simp only [destroyConntrack]
      split
      · exact inv.waiting
      · exact inv.waiting.erase ct
    unconfirmed := by
      intro c
      show _ ↔ c ∈ s.allocated.erase ct ∧ (s.conn c).confirmed = false ∧ _
      rw [mem_unconfirmed_destroy inv, inv.unconfirmed, kept, and_assoc]
    uses := by
      intro c allocated
      obtain ⟨other, old⟩ := (kept c).mp allocated
      have uses := inv.uses c old
      rw [slaves_destroy member, handedOn, if_neg other]
      show (s.conn c).use = (if Tabled s c then 1 else 0) + _ + _ ∧ 0 < (s.conn c).use
      by_cases slave : (s.conn ct).master = some c
      · have positive := slaves_pos member slave
        rw [if_pos slave]
        omega
      · rw [if_neg slave]
        omega
    freed := by
      intro c gone
      rw [handedOn]
      split
      · rfl
      · rename_i other
        have unallocated : c ∉ s.allocated := fun still => gone ((kept c).mpr ⟨other, still⟩)
        have stranger : (s.conn ct).master ≠ some c :=
          fun slave => unallocated (inv.masters ct member c slave)
        rw [inv.freed c unallocated, if_neg stranger]
    masters := by
      intro c allocated m slave
      have old := ((kept c).mp allocated).2
      refine (kept m).mpr ⟨?_, inv.masters c old m slave⟩
      rintro rfl
      have served := slaves_pos old slave
      omega
    counted := by
      show s.count - 1 = ((s.allocated.erase ct).length : Int)
      have positive := List.length_pos_of_mem member
      rw [inv.counted, List.length_erase_of_mem member]
      omega
    expected := by
      intro e listed
      show ((s.exps.removeExpectations ct).exp e).master ∈ s.allocated.erase ct
      rw [left.master]
      exact (kept _).mpr ⟨cleared e listed, inv.expected e (left.list e listed)⟩ }

/-- `destroy_conntrack` of a connection without other holders. Its memory is free when the count
has been written. -/
theorem inv_destroyConntrack (inv : TableInv s refs erefs none) (member : ct ∈ s.allocated)
    (held : 0 < refs ct) (last : (s.conn ct).use = 1) :
    TableInv (destroyConntrack (s.modify ct fun c => { c with use := c.use - 1 }) ct)
      (handedOn s refs ct) erefs none := by
  have gone : ct ∉ (destroyConntrack s ct).allocated := inv.slab.not_mem_erase
  have timer : (s.conn ct).pending = false :=
    Bool.eq_false_iff.mpr (mt (inv.timers ct) (inv.last member held last).1)
  have freed := inv_free (inv_forget inv member held last) gone
    (x := { s.conn ct with use := (s.conn ct).use - 1 }) timer
  simpa only [destroyConntrack, conntrackFree, ConntrackTable.modify, Function.update_self]
    using freed

/-- `ip_conntrack_put`, with the masters that are freed on the way. -/
theorem inv_putLoop {n : Nat} (inv : TableInv s refs erefs none) (held : 0 < refs ct)
    (fuel : s.allocated.length < n) :
    TableInv (putLoop n s ct) (Function.update refs ct (refs ct - 1)) erefs none := by
  induction n generalizing s refs ct with
  | zero => omega
  | succ n ih =>
    have member := inv.allocated held
    have use := inv.uses ct member
    unfold putLoop
    simp only
    by_cases last : (s.conn ct).use - 1 = 0
    · rw [if_pos last]
      have gone := inv_destroyConntrack inv member held (by omega)
      have one : refs ct = 1 := by
        have count := use.1
        split at count <;> omega
      cases owner : (s.conn ct).master with
      | none =>
        have same : Function.update refs ct (refs ct - 1) = handedOn s refs ct := by
          funext c
          by_cases here : c = ct
          · rw [here, Function.update_self, handedOn, if_pos rfl, one]
          · rw [Function.update_of_ne here, handedOn, if_neg here, owner]
            rfl
        rw [same]
        exact gone
      | some m =>
        have other : m ≠ ct := by
          rintro rfl
          exact (slaves_pos member owner).ne' (inv.last member held (by omega)).2
        have handed : handedOn s refs ct m = refs m + 1 := by
          rw [handedOn, if_neg other, if_pos owner]
        have freed : (s.allocated.erase ct).length < n := by
          rw [List.length_erase_of_mem member]
          have positive := List.length_pos_of_mem member
          omega
        have next := ih gone (by rw [handed]; exact Nat.succ_pos _) freed
        have same : Function.update refs ct (refs ct - 1) =
            Function.update (handedOn s refs ct) m (handedOn s refs ct m - 1) := by
          funext c
          by_cases here : c = ct
          · rw [here, Function.update_self, Function.update_of_ne other.symm, handedOn, if_pos rfl,
              one]
          · rw [Function.update_of_ne here]
            by_cases there : c = m
            · rw [there, Function.update_self, handed]
              rfl
            · have stranger : some m ≠ some c := fun equal => there (Option.some.inj equal).symm
              rw [Function.update_of_ne there, handedOn, if_neg here, owner, if_neg stranger]
              rfl
        rw [same]
        exact next
    · rw [if_neg last]
      apply inv_conn inv
      · rfl
      · rfl
      · exact fun _ _ => rfl
      · exact inv.timers ct
      · exact fun c other => Function.update_of_ne other _ _
      · intro _
        rw [Function.update_self]
        simp only
        omega
      · exact fun gone => absurd member gone

/-- A held reference can be given back. -/
theorem inv_conntrackPut (inv : TableInv s refs erefs none) (held : 0 < refs ct) :
    TableInv (conntrackPut s ct) (Function.update refs ct (refs ct - 1)) erefs none :=
  inv_putLoop inv held (Nat.lt_succ_self _)

/-! ## Leaving the hash -/

/-- Only the entries of the connection are taken away. -/
theorem mem_cleanFromLists (inv : TableInv s refs erefs nascent) (ct : Nat) (h : Nat × Dir) :
    h ∈ (cleanFromLists s ct).hash ↔ h.1 ≠ ct ∧ h ∈ s.hash := by
  show h ∈ (s.hash.erase (ct, .original)).erase (ct, .reply) ↔ _
  rw [(inv.entries.erase _).mem_erase_iff, inv.entries.mem_erase_iff, ← and_assoc]
  apply and_congr_left
  intro _
  obtain ⟨c, dir⟩ := h
  cases dir <;> simp

/-- The reference of the hash is left to be put. -/
theorem inv_cleanFromLists (inv : TableInv s refs erefs none) (stands : Tabled s ct)
    (stopped : (s.conn ct).pending = false) :
    TableInv (cleanFromLists s ct) (Function.update refs ct (refs ct + 1)) erefs none := by
  obtain ⟨expsInv, left, -⟩ := inv_removeExpectations inv.exps ct
  have mem := mem_cleanFromLists inv ct
  have still : ∀ c, Tabled (cleanFromLists s ct) c ↔ c ≠ ct ∧ Tabled s c :=
    fun c => mem (c, .original)
  exact { inv with
    exps := expsInv
    entries := (inv.entries.erase _).erase _
    pairs := fun c => by rw [mem, still, inv.pairs]
    tabled := fun c tabled => inv.tabled c ((still c).mp tabled).2
    uses := by
      intro c member
      have old := inv.uses c member
      show (s.conn c).use = (if Tabled (cleanFromLists s ct) c then 1 else 0) +
        (Function.update refs ct (refs ct + 1) c : Nat) + slaves s c ∧ 0 < (s.conn c).use
      by_cases here : c = ct
      · subst here
        have out : ¬Tabled (cleanFromLists s c) c := fun tabled => ((still c).mp tabled).1 rfl
        rw [if_pos stands] at old
        rw [if_neg out, Function.update_self]
        omega
      · have same : Tabled (cleanFromLists s ct) c ↔ Tabled s c := by rw [still, and_iff_right here]
        rw [Function.update_of_ne here]
        simp only [same]
        exact old
    freed := by
      intro c gone
      have other : c ≠ ct := fun here => gone (here ▸ (inv.tabled ct stands).1)
      rw [Function.update_of_ne other]
      exact inv.freed c gone
    timers := by
      intro c pending
      refine (still c).mpr ⟨?_, inv.timers c pending⟩
      rintro rfl
      exact Bool.false_ne_true (stopped.symm.trans pending)
    expected := by
      intro e listed
      show ((s.exps.removeExpectations ct).exp e).master ∈ s.allocated
      rw [left.master]
      exact inv.expected e (left.list e listed)
    distinct := fun a memberA b memberB =>
      inv.distinct a ((mem a).mp memberA).2 b ((mem b).mp memberB).2 }

/-- `death_by_timeout` of a connection whose timer was stopped or has expired. -/
theorem inv_deathByTimeout (inv : TableInv s refs erefs none) (stands : Tabled s ct)
    (stopped : (s.conn ct).pending = false) (refused : Bool) :
    TableInv (deathByTimeout refused s ct) refs erefs none := by
  cases refused with
  | true => exact inv
  | false =>
    have held : 0 < Function.update refs ct (refs ct + 1) ct := by
      rw [Function.update_self]
      exact Nat.succ_pos _
    have put := inv_conntrackPut (inv_cleanFromLists inv stands stopped) held
    rw [Function.update_self, Function.update_idem, Nat.add_sub_cancel,
      Function.update_eq_self] at put
    exact put

/-- What `del_timer` and then `death_by_timeout` do to a connection with a timer. -/
theorem inv_timeout (inv : TableInv s refs erefs none) (pending : (s.conn ct).pending = true)
    (refused : Bool) : TableInv (deathByTimeout refused (stopTimer s ct) ct) refs erefs none := by
  apply inv_deathByTimeout (inv_stopTimer inv ct)
  · exact inv.timers ct pending
  · show (Function.update s.conn ct _ ct).pending = false
    rw [Function.update_self]

/-- `early_drop` gives back the reference that it takes. -/
theorem inv_earlyDrop (inv : TableInv s refs erefs none) (refused : Nat → Bool)
    {chain : List (Nat × Dir)} (part : ∀ h ∈ chain, h ∈ s.hash) :
    TableInv (earlyDrop refused s chain).2 refs erefs none := by
  unfold earlyDrop
  split
  · exact inv
  · rename_i h found
    have member := part h (List.mem_reverse.mp (List.mem_of_find?_eq_some found))
    have allocated := (inv.tabled h.1 (tabled_of_mem inv member)).1
    have got := inv_conntrackGet inv allocated
    have held : 0 < Function.update refs h.1 (refs h.1 + 1) h.1 := by
      rw [Function.update_self]
      exact Nat.succ_pos _
    have back : Function.update (Function.update refs h.1 (refs h.1 + 1)) h.1
        (Function.update refs h.1 (refs h.1 + 1) h.1 - 1) = refs := by
      rw [Function.update_self, Function.update_idem, Nat.add_sub_cancel, Function.update_eq_self]
    simp only
    split
    · rename_i pending
      have timer : ((conntrackGet s h.1).conn h.1).pending = true := by
        show (Function.update s.conn h.1 _ h.1).pending = true
        rw [Function.update_self]
        exact pending
      have put := inv_conntrackPut (inv_timeout got timer (refused h.1)) held
      rwa [back] at put
    · have put := inv_conntrackPut got held
      rwa [back] at put

end Steps

/-! ## What else these functions leave -/

/-- Getting and putting references leaves the hash and the timers, and nothing new appears. -/
structure Kept (s s' : ConntrackTable) : Prop where
  /-- The hash. -/
  hash : s'.hash = s.hash
  /-- The timers. -/
  timers : ∀ c, (s'.conn c).pending = (s.conn c).pending
  /-- Nothing new is allocated. -/
  slab : ∀ c ∈ s'.allocated, c ∈ s.allocated
  /-- Nothing new waits. -/
  waiting : s'.unconfirmed.length ≤ s.unconfirmed.length

variable (s : ConntrackTable)

/-- Nothing done, everything kept. -/
theorem Kept.refl : Kept s s := ⟨rfl, fun _ => rfl, fun _ => id, Nat.le_refl _⟩

/-- What two steps keep is kept. -/
theorem Kept.trans {s s' s'' : ConntrackTable} (first : Kept s s') (second : Kept s' s'') :
    Kept s s'' :=
  ⟨second.hash.trans first.hash, fun c => (second.timers c).trans (first.timers c),
    fun c member => first.slab c (second.slab c member), second.waiting.trans first.waiting⟩

/-- A change that leaves the timer alone. -/
theorem kept_modify (ct : Nat) {f : Connection → Connection}
    (same : (f (s.conn ct)).pending = (s.conn ct).pending) : Kept s (s.modify ct f) := by
  refine ⟨rfl, ?_, fun _ => id, Nat.le_refl _⟩
  intro c
  show (Function.update s.conn ct (f (s.conn ct)) c).pending = _
  by_cases here : c = ct
  · rw [here, Function.update_self, same]
  · rw [Function.update_of_ne here]

/-- Taking a reference. -/
theorem kept_conntrackGet (ct : Nat) : Kept s (conntrackGet s ct) := kept_modify s ct rfl

/-- Freeing one connection. -/
theorem kept_destroyConntrack (ct : Nat) : Kept s (destroyConntrack s ct) := by
  refine ⟨rfl, fun _ => rfl, fun _ => List.mem_of_mem_erase, ?_⟩
  show (if (s.conn ct).confirmed = true then s.unconfirmed
    else s.unconfirmed.erase ct).length ≤ s.unconfirmed.length
  split
  · exact Nat.le_refl _
  · exact List.length_erase_le

/-- Puts along the masters. -/
theorem kept_putLoop (n : Nat) (s : ConntrackTable) (ct : Nat) : Kept s (putLoop n s ct) := by
  induction n generalizing s ct with
  | zero => exact Kept.refl s
  | succ n ih =>
    have lowered : Kept s (s.modify ct fun c => { c with use := c.use - 1 }) := kept_modify s ct rfl
    have destroyed := lowered.trans (kept_destroyConntrack _ ct)
    unfold putLoop
    simp only
    split
    · split
      · exact destroyed.trans (ih _ _)
      · exact destroyed
    · exact lowered

/-- The table behind `death_by_timeout`, before the reference of the hash is put. -/
def timedOut (refused : Bool) (s : ConntrackTable) (ct : Nat) : ConntrackTable :=
  if refused then stopTimer s ct else cleanFromLists (stopTimer s ct) ct

/-- An expiry does no more than `timedOut` says. -/
theorem kept_timeout (refused : Bool) (s : ConntrackTable) (ct : Nat) :
    Kept (timedOut refused s ct) (deathByTimeout refused (stopTimer s ct) ct) := by
  cases refused with
  | true => exact Kept.refl _
  | false => exact kept_putLoop _ _ _

/-- `timedOut` respects what is kept. -/
theorem Kept.timedOut {s s' : ConntrackTable} (kept : Kept s s') (refused : Bool) (ct : Nat) :
    Kept (timedOut refused s ct) (timedOut refused s' ct) := by
  have timers : ∀ c, ((stopTimer s' ct).conn c).pending = ((stopTimer s ct).conn c).pending := by
    intro c
    show (Function.update s'.conn ct _ c).pending = (Function.update s.conn ct _ c).pending
    by_cases here : c = ct
    · rw [here, Function.update_self, Function.update_self]
    · rw [Function.update_of_ne here, Function.update_of_ne here, kept.timers]
  cases refused with
  | true => exact ⟨kept.hash, timers, kept.slab, kept.waiting⟩
  | false =>
    refine ⟨?_, timers, kept.slab, kept.waiting⟩
    show (s'.hash.erase _).erase _ = (s.hash.erase _).erase _
    rw [kept.hash]

/-- `early_drop` times out the oldest connection of the chain that is not assured, if it has a
timer. -/
theorem earlyDrop_cases (refused : Nat → Bool) (s : ConntrackTable) (chain : List (Nat × Dir)) :
    (∃ s', earlyDrop refused s chain = (false, s') ∧ Kept s s' ∧
      ∀ h, chain.reverse.find? (fun h => !(s.conn h.1).assured) = some h →
        (s.conn h.1).pending = false) ∨
    ∃ h s', earlyDrop refused s chain = (true, s') ∧
      chain.reverse.find? (fun h => !(s.conn h.1).assured) = some h ∧
      (s.conn h.1).pending = true ∧ Kept (timedOut (refused h.1) s h.1) s' := by
  unfold earlyDrop
  cases oldest : chain.reverse.find? fun h => !(s.conn h.1).assured with
  | none => exact .inl ⟨s, rfl, Kept.refl s, fun h found => (Option.some_ne_none h found.symm).elim⟩
  | some h =>
    simp only
    split
    · rename_i pending
      refine .inr ⟨h, _, rfl, rfl, pending, ?_⟩
      have timed := (kept_conntrackGet s h.1).timedOut (refused h.1) h.1
      exact (timed.trans (kept_timeout _ _ _)).trans (kept_putLoop _ _ _)
    · rename_i stopped
      refine .inl ⟨_, rfl, (kept_conntrackGet s h.1).trans (kept_putLoop _ _ _), ?_⟩
      intro h' same
      rw [← Option.some.inj same]
      exact Bool.eq_false_iff.mpr stopped

end Fvs318g.Verif.ConntrackTable
