import Fvs318g.Verif.ConntrackTable

/-!
# Setting up a connection

The functions that find a connection, allocate one, link it to the connection that expected it, and
put it into the hash, with what they keep.
-/

namespace Fvs318g.Verif.ConntrackTable

open Lib Netfilter Netfilter.ConntrackTable
open Expect (ExpectInv inv_findLoop inv_expectPut inv_setHelper left_expectPut)

section Find

/-- Equal tuples are looked for in the same chain. -/
theorem hashConntrack_of_equal (env : TableEnv) {t u : Tuple} (equal : t.equal u = true) :
    hashConntrack env t = hashConntrack env u := by
  simp only [Tuple.equal, Bool.and_eq_true, beq_iff_eq] at equal
  simp only [hashConntrack, equal]

/-- Equality of tuples is symmetric. -/
theorem equal_symm {t u : Tuple} (equal : t.equal u = true) : u.equal t = true := by
  simp only [Tuple.equal, Bool.and_eq_true, beq_iff_eq] at equal ⊢
  simp only [equal, and_self]

/-- A lookup fails only if no entry of the whole hash has the tuple. -/
theorem conntrackFind_isNone (env : TableEnv) (s : ConntrackTable) (tuple : Tuple) :
    (conntrackFind env s tuple).isNone = true ↔
      ∀ h ∈ s.hash, tuple.equal (s.tupleOf h) = false := by
  unfold conntrackFind chain
  rw [Option.isNone_iff_eq_none, List.find?_eq_none]
  simp only [List.mem_filter, decide_eq_true_eq, Bool.not_eq_true]
  constructor
  · intro missed h member
    by_contra equal
    rw [Bool.not_eq_false] at equal
    have chained := missed h ⟨member, (hashConntrack_of_equal env equal).symm⟩
    rw [equal] at chained
    cases chained
  · exact fun missed h chained => missed h chained.1

/-- What is found is in the hash, with the tuple. -/
theorem conntrackFind_some {env : TableEnv} {s : ConntrackTable} {tuple : Tuple} {h : Nat × Dir}
    (found : conntrackFind env s tuple = some h) : h ∈ s.hash ∧ tuple.equal (s.tupleOf h) = true :=
  ⟨(List.mem_filter.mp (List.mem_of_find?_eq_some found)).1,
    List.find?_some (p := fun h => tuple.equal (s.tupleOf h)) found⟩

end Find

variable {ct : Nat}

section Setup

variable {s : ConntrackTable} {refs erefs : Nat → Nat} {nascent : Option Nat}

/-- The expectations change, and their masters stay allocated. -/
theorem inv_exps (inv : TableInv s refs erefs nascent) {exps : Expectations} {erefs' : Nat → Nat}
    (expsInv : ExpectInv exps erefs')
    (masters : ∀ e ∈ exps.list, (exps.exp e).master ∈ s.allocated) :
    TableInv { s with exps } refs erefs' nascent :=
  { inv with exps := expsInv, expected := masters }

/-! ## Memory -/

/-- Memory with the values of a new connection is taken into use. -/
theorem inv_take (inv : TableInv s refs erefs none) (fresh : ct ∉ s.allocated)
    (use : (s.conn ct).use = 1) (master : (s.conn ct).master = none) :
    TableInv { s with allocated := ct :: s.allocated, count := s.count + 1 }
      (Function.update refs ct 1) erefs (some ct) := by
  have untabled : ¬Tabled s ct := fun stands => fresh (inv.tabled ct stands).1
  have slavesSame : ∀ m, slaves { s with allocated := ct :: s.allocated, count := s.count + 1 } m =
      slaves s m := by
    intro m
    show (ct :: s.allocated).countP (fun c => (s.conn c).master = some m) = _
    rw [List.countP_cons_of_neg]
    · rfl
    · simp [master]
  have unowned : slaves s ct = 0 := by
    apply List.countP_eq_zero.mpr
    intro c member slave
    exact fresh (inv.masters c member ct (of_decide_eq_true slave))
  exact { inv with
    slab := List.nodup_cons.mpr ⟨fresh, inv.slab⟩
    tabled := fun c stands => (inv.tabled c stands).imp_left (List.mem_cons_of_mem ct)
    unconfirmed := by
      intro c
      rw [inv.unconfirmed]
      show _ ↔ c ∈ ct :: s.allocated ∧ (s.conn c).confirmed = false ∧ _
      by_cases here : c = ct
      · subst here
        simp [fresh]
      · have other : some ct ≠ some c := fun equal => here (Option.some.inj equal).symm
        simp [here, other]
    uses := by
      intro c member
      rw [slavesSame]
      show (s.conn c).use = (if Tabled s c then 1 else 0) + _ + _ ∧ 0 < (s.conn c).use
      by_cases here : c = ct
      · subst here
        rw [if_neg untabled, Function.update_self, unowned, use]
        decide
      · rw [Function.update_of_ne here]
        exact inv.uses c ((List.mem_cons.mp member).resolve_left here)
    freed := by
      intro c gone
      rw [List.mem_cons, not_or] at gone
      rw [Function.update_of_ne gone.1]
      exact inv.freed c gone.2
    masters := by
      intro c member m slave
      rcases List.mem_cons.mp member with rfl | old
      · exact absurd (master.symm.trans slave) (Option.some_ne_none m).symm
      · exact List.mem_cons_of_mem _ (inv.masters c old m slave)
    counted := by
      show s.count + 1 = ((ct :: s.allocated).length : Int)
      rw [inv.counted, List.length_cons]
      rfl
    expected := fun e listed => List.mem_cons_of_mem _ (inv.expected e listed) }

/-- No expectation is left for memory that is free. -/
theorem expecting_of_free (inv : TableInv s refs erefs nascent) (fresh : ct ∉ s.allocated) :
    s.exps.expecting ct = 0 := by
  rw [inv.exps.counted, Int.natCast_eq_zero, List.countP_eq_zero]
  intro e listed own
  exact fresh (of_decide_eq_true own ▸ inv.expected e listed)

/-- A fresh connection expects nothing yet. -/
theorem forget_expecting (inv : TableInv s refs erefs nascent) (fresh : ct ∉ s.allocated) :
    { s.exps with expecting := Function.update s.exps.expecting ct 0 } = s.exps := by
  rw [← expecting_of_free inv fresh, Function.update_eq_self]

/-- `ip_conntrack_alloc` with memory: the one who sets up the connection refers to it. -/
theorem inv_allocMemory (inv : TableInv s refs erefs none) (fresh : ct ∉ s.allocated)
    (orig repl : Tuple) :
    TableInv (allocMemory true s ct orig repl).2 (Function.update refs ct 1) erefs (some ct) := by
  have written := inv_free inv fresh (x := newConnection orig repl) rfl
  have taken := inv_take written fresh (by simp [newConnection]) (by simp [newConnection])
  simp only [allocMemory, if_pos, ConntrackTable.modify, forget_expecting inv fresh]
  exact taken

/-- `ip_conntrack_free` of a connection that the protocol did not accept. -/
theorem inv_conntrackFree (inv : TableInv s refs erefs none) (fresh : ct ∉ s.allocated)
    (orig repl : Tuple) :
    TableInv (conntrackFree (allocMemory true s ct orig repl).2 ct) refs erefs none := by
  have written := inv_free inv fresh (x := newConnection orig repl) rfl
  simp only [conntrackFree, allocMemory, if_pos, ConntrackTable.modify, forget_expecting inv fresh,
    List.erase_cons_head, Int.add_sub_cancel]
  exact written

/-! ## Linking -/

/-- The connection that was set up waits to be confirmed. -/
theorem inv_wait (inv : TableInv s refs erefs (some ct)) (member : ct ∈ s.allocated)
    (status : (s.conn ct).confirmed = false) :
    TableInv { s with unconfirmed := ct :: s.unconfirmed } refs erefs none := by
  have apart : ct ∉ s.unconfirmed := fun waits => ((inv.unconfirmed ct).mp waits).2.2 rfl
  exact { inv with
    waiting := List.nodup_cons.mpr ⟨apart, inv.waiting⟩
    unconfirmed := by
      intro c
      rw [List.mem_cons, inv.unconfirmed]
      show _ ↔ c ∈ s.allocated ∧ (s.conn c).confirmed = false ∧ _
      by_cases here : c = ct
      · subst here
        simp [member, status]
      · have other : some ct ≠ some c := fun equal => here (Option.some.inj equal).symm
        simp [here, other] }

/-- A connection gets a master, with a reference to it. -/
theorem inv_adopt (inv : TableInv s refs erefs nascent) {ct m : Nat} (member : ct ∈ s.allocated)
    (orphan : (s.conn ct).master = none) (owner : m ∈ s.allocated) (other : m ≠ ct) :
    TableInv (conntrackGet (s.modify ct fun c => { c with master := some m }) m) refs erefs
      nascent := by
  let s' := conntrackGet (s.modify ct fun c => { c with master := some m }) m
  have others : ∀ c, (s'.conn c).confirmed = (s.conn c).confirmed ∧
      (s'.conn c).pending = (s.conn c).pending ∧
      (∀ dir, (s'.conn c).tuplehash dir = (s.conn c).tuplehash dir) ∧
      (s'.conn c).master = if c = ct then some m else (s.conn c).master := by
    intro c
    simp only [s', conntrackGet, ConntrackTable.modify]
    by_cases owns : c = m
    · subst owns
      rw [Function.update_self, Function.update_of_ne other, if_neg other]
      exact ⟨rfl, rfl, fun dir => by cases dir <;> rfl, rfl⟩
    · rw [Function.update_of_ne owns]
      by_cases here : c = ct
      · rw [here, Function.update_self, if_pos rfl]
        exact ⟨rfl, rfl, fun dir => by cases dir <;> rfl, rfl⟩
      · rw [Function.update_of_ne here, if_neg here]
        exact ⟨rfl, rfl, fun _ => rfl, rfl⟩
  have uses : ∀ c, (s'.conn c).use = (s.conn c).use + if c = m then 1 else 0 := by
    intro c
    simp only [s', conntrackGet, ConntrackTable.modify]
    by_cases owns : c = m
    · subst owns
      rw [Function.update_self, Function.update_of_ne other, if_pos rfl]
    · rw [Function.update_of_ne owns, if_neg owns]
      by_cases here : c = ct
      · rw [here, Function.update_self]
        exact (Int.add_zero _).symm
      · rw [Function.update_of_ne here]
        exact (Int.add_zero _).symm
  have slavesNow : ∀ c, slaves s' c = slaves s c + if c = m then 1 else 0 := by
    intro c
    have perm := List.perm_cons_erase member
    have rest : (s.allocated.erase ct).countP (fun d => (s'.conn d).master = some c) =
        (s.allocated.erase ct).countP fun d => (s.conn d).master = some c := by
      apply List.countP_congr
      intro d still
      rw [(others d).2.2.2, if_neg (inv.slab.mem_erase_iff.mp still).1]
    show s.allocated.countP (fun d => (s'.conn d).master = some c) =
      s.allocated.countP (fun d => (s.conn d).master = some c) + _
    rw [perm.countP_eq, perm.countP_eq, List.countP_cons, List.countP_cons, rest,
      (others ct).2.2.2, if_pos rfl, orphan]
    simp [eq_comm]
  show TableInv { s with conn := s'.conn } refs erefs nascent
  apply inv_write inv
  case statuses => exact fun c _ => (others c).1
  case tuples => exact fun c _ => (others c).2.2.1
  case timers => exact fun c pending => inv.timers c ((others c).2.1.symm.trans pending)
  case masters =>
    intro c allocated x slave
    rw [(others c).2.2.2] at slave
    split at slave
    · exact Option.some.inj slave ▸ owner
    · exact inv.masters c allocated x slave
  case uses =>
    intro c allocated
    have old := inv.uses c allocated
    have served : slaves { s with conn := s'.conn } c = _ := slavesNow c
    rw [uses, served]
    split <;> omega
  case freed => exact inv.freed

/-- `init_conntrack` under the lock. -/
theorem inv_linkConntrack (inv : TableInv s refs erefs (some ct)) (member : ct ∈ s.allocated)
    (status : (s.conn ct).confirmed = false) (orphan : (s.conn ct).master = none)
    (idle : s.exps.expecting ct = 0) (new : NewEnv) (tuple : Tuple) :
    TableInv (linkConntrack new s ct tuple) refs erefs none := by
  have waits := inv_wait inv member status
  unfold linkConntrack Expectations.findExpectation
  rcases inv_findLoop inv.exps (fun m => (s.conn m).confirmed) tuple (l := s.exps.list)
      (fun _ => id) with ⟨missed, -⟩ | ⟨i, exps, found, listed, -, confirmed, left, kept⟩
  · rw [missed]
    exact inv_exps waits (inv_setHelper inv.exps idle new.maxExpected) inv.expected
  · rw [found]
    have put := inv_expectPut kept (e := i) (Function.update_self _ _ _)
    rw [Function.update_idem, Function.update_eq_self] at put
    have gone := left.trans (left_expectPut exps i)
    have masters : ∀ e ∈ (exps.expectPut i).list,
        ((exps.expectPut i).exp e).master ∈ s.allocated := by
      intro e still
      rw [gone.master]
      exact inv.expected e (gone.list e still)
    have other : (s.exps.exp i).master ≠ ct := by
      rintro rfl
      rw [status] at confirmed
      cases confirmed
    exact inv_adopt (inv_exps waits put masters) member orphan (inv.expected i listed) other

/-! ## Outcomes -/

/-- There was room for a connection, or room was made by dropping one from the chain. -/
def Room (env : TableEnv) (new : NewEnv) (s : ConntrackTable) (tuple : Tuple)
    (s₁ : ConntrackTable) : Prop :=
  (env.max = 0 ∨ s.count < env.max) ∧ s₁ = s ∨
    earlyDrop new.refused s (chain env s (hashConntrack env tuple)) = (true, s₁)

/-- With memory the protocol decides whether the connection is freed again or linked. -/
def Decided (env : TableEnv) (new : NewEnv) (s : ConntrackTable) (ct : Nat) (tuple : Tuple) :
    Prop :=
  ∃ s₁ repl, Room env new s tuple s₁ ∧
    (initConntrack env new s ct tuple =
        (.untracked, conntrackFree (allocMemory true s₁ ct tuple repl).2 ct) ∨
      initConntrack env new s ct tuple = (.found (ct, .original),
        linkConntrack new (allocMemory true s₁ ct tuple repl).2 ct tuple))

/-- Behind the limit `init_conntrack` fails for want of memory, or the protocol decides. -/
theorem initConntrack_of_room {env : TableEnv} {new : NewEnv} {s s₁ : ConntrackTable}
    {tuple repl : Tuple} (inverse : new.inverse = some repl)
    (alloc : conntrackAlloc env new s ct tuple repl = allocMemory new.memory s₁ ct tuple repl)
    (room : Room env new s tuple s₁) :
    initConntrack env new s ct tuple = (.noMemory, s₁) ∨ Decided env new s ct tuple := by
  have init : initConntrack env new s ct tuple =
      if !(allocMemory new.memory s₁ ct tuple repl).1 then
        (.noMemory, (allocMemory new.memory s₁ ct tuple repl).2)
      else if !new.accepted then
        (.untracked, conntrackFree (allocMemory new.memory s₁ ct tuple repl).2 ct)
      else (.found (ct, .original),
        linkConntrack new (allocMemory new.memory s₁ ct tuple repl).2 ct tuple) := by
    rw [initConntrack, inverse, ← alloc]
  cases memory : new.memory with
  | false =>
    rw [memory] at init
    exact .inl init
  | true =>
    rw [memory] at init
    refine .inr ⟨s₁, repl, room, ?_⟩
    cases accepted : new.accepted with
    | false =>
      rw [accepted] at init
      exact .inl init
    | true =>
      rw [accepted] at init
      exact .inr init

/-- The outcomes of `init_conntrack`. -/
theorem initConntrack_cases (env : TableEnv) (new : NewEnv) (s : ConntrackTable) (ct : Nat)
    (tuple : Tuple) :
    (∃ failure s₁, initConntrack env new s ct tuple = (failure, s₁) ∧
      failure.connection = none ∧ (s₁ = s ∨
        s₁ = (earlyDrop new.refused s (chain env s (hashConntrack env tuple))).2)) ∨
    Decided env new s ct tuple := by
  cases inverse : new.inverse with
  | none =>
    refine .inl ⟨.untracked, s, ?_, rfl, .inl rfl⟩
    rw [initConntrack, inverse]
  | some repl =>
    by_cases full : env.max ≠ 0 ∧ env.max ≤ s.count
    · cases dropped : (earlyDrop new.refused s (chain env s (hashConntrack env tuple))).1 with
      | false =>
        refine .inl ⟨.noMemory, _, ?_, rfl, .inr rfl⟩
        simp [initConntrack, inverse, conntrackAlloc, full, dropped]
      | true =>
        have alloc : conntrackAlloc env new s ct tuple repl = allocMemory new.memory
            (earlyDrop new.refused s (chain env s (hashConntrack env tuple))).2 ct tuple repl := by
          simp [conntrackAlloc, full, dropped]
        have made := initConntrack_of_room inverse alloc (.inr (by rw [← dropped]))
        exact made.imp_left fun failed => ⟨_, _, failed, rfl, .inr rfl⟩
    · have room : env.max = 0 ∨ s.count < env.max := by
        rwa [not_and_or, not_not, Int.not_le] at full
      have alloc : conntrackAlloc env new s ct tuple repl =
          allocMemory new.memory s ct tuple repl := by
        rw [conntrackAlloc, if_neg full]
      have made := initConntrack_of_room inverse alloc (.inl ⟨room, rfl⟩)
      exact made.imp_left fun failed => ⟨_, _, failed, rfl, .inl rfl⟩

/-- `early_drop` keeps the invariant. -/
theorem inv_early (inv : TableInv s refs erefs none) (env : TableEnv) (new : NewEnv)
    (tuple : Tuple) :
    TableInv (earlyDrop new.refused s (chain env s (hashConntrack env tuple))).2 refs erefs none :=
  inv_earlyDrop inv new.refused fun _ member => (List.mem_filter.mp member).1

/-- `early_drop` allocates nothing. -/
theorem slab_early (env : TableEnv) (new : NewEnv) (s : ConntrackTable) (tuple : Tuple) :
    ∀ c ∈ (earlyDrop new.refused s (chain env s (hashConntrack env tuple))).2.allocated,
      c ∈ s.allocated := by
  intro c member
  rcases earlyDrop_cases new.refused s (chain env s (hashConntrack env tuple)) with
    ⟨s', drop, kept, -⟩ | ⟨h, s', drop, -, -, kept⟩
  · rw [drop] at member
    exact kept.slab c member
  · rw [drop] at member
    have earlier := kept.slab c member
    unfold timedOut at earlier
    split at earlier
    · exact earlier
    · exact earlier

/-- The references of packets behind `resolve_normal_ct`. -/
def resolvedRefs (refs : Nat → Nat) : Option (Nat × Dir) → Nat → Nat
  | some h => Function.update refs h.1 (refs h.1 + 1)
  | none => refs

/-- `init_conntrack`: the packet refers to the connection that was set up. -/
theorem inv_initConntrack (inv : TableInv s refs erefs none) (fresh : ct ∉ s.allocated)
    (env : TableEnv) (new : NewEnv) (tuple : Tuple) : TableInv (initConntrack env new s ct tuple).2
      (resolvedRefs refs (initConntrack env new s ct tuple).1.connection) erefs none := by
  have early := inv_early inv env new tuple
  rcases initConntrack_cases env new s ct tuple with
    ⟨failure, s₁, init, untracked, state⟩ | ⟨s₁, repl, room, outcome⟩
  · rw [init, untracked]
    rcases state with rfl | rfl
    · exact inv
    · exact early
  · have kept : TableInv s₁ refs erefs none ∧ ct ∉ s₁.allocated := by
      rcases room with ⟨-, rfl⟩ | drop
      · exact ⟨inv, fresh⟩
      · have slab := slab_early env new s tuple
        rw [drop] at early slab
        exact ⟨early, fun member => fresh (slab ct member)⟩
    rcases outcome with init | init
    · rw [init]
      exact inv_conntrackFree kept.1 kept.2 tuple repl
    · rw [init]
      show TableInv _ (Function.update refs ct (refs ct + 1)) erefs none
      rw [inv.freed ct fresh]
      apply inv_linkConntrack (inv_allocMemory kept.1 kept.2 tuple repl)
      · exact List.mem_cons_self
      · simp [allocMemory, ConntrackTable.modify, newConnection]
      · simp [allocMemory, ConntrackTable.modify, newConnection]
      · simp [allocMemory]

/-- `resolve_normal_ct`: the packet refers to its connection. -/
theorem inv_resolveNormalCt (inv : TableInv s refs erefs none) (fresh : ct ∉ s.allocated)
    (env : TableEnv) (new : NewEnv) (tuple : Tuple) :
    TableInv (resolveNormalCt env new s ct tuple).2
      (resolvedRefs refs (resolveNormalCt env new s ct tuple).1.connection) erefs none := by
  unfold resolveNormalCt
  cases found : conntrackFind env s tuple with
  | some h =>
    have stands := tabled_of_mem inv (conntrackFind_some found).1
    exact inv_conntrackGet inv (inv.tabled h.1 stands).1
  | none => exact inv_initConntrack inv fresh env new tuple

/-! ## Confirming -/

/-- A connection that is not confirmed does not stand in the hash. -/
theorem TableInv.untabled (inv : TableInv s refs erefs nascent)
    (status : (s.conn ct).confirmed = false) : ¬Tabled s ct :=
  fun stands => Bool.false_ne_true (status.symm.trans (inv.tabled ct stands).2)

/-- The entries after a connection was put into the hash. -/
theorem mem_entered {hash : List (Nat × Dir)} {c : Nat} {dir : Dir} :
    (c, dir) ∈ (ct, Dir.reply) :: (ct, .original) :: hash ↔ c = ct ∨ (c, dir) ∈ hash := by
  cases dir <;> simp

/-- A connection with tuples that no entry has keeps the tuples of the hash apart. -/
theorem distinct_entered (inv : TableInv s refs erefs nascent)
    (new : ∀ dir, ∀ h ∈ s.hash, ((s.conn ct).tuplehash dir).equal (s.tupleOf h) = false) :
    ∀ a ∈ (ct, Dir.reply) :: (ct, .original) :: s.hash,
      ∀ b ∈ (ct, Dir.reply) :: (ct, .original) :: s.hash,
        (s.tupleOf a).equal (s.tupleOf b) = true → a.1 = b.1 := by
  rintro ⟨a, dirA⟩ memberA ⟨b, dirB⟩ memberB equal
  rcases mem_entered.mp memberA with rfl | oldA <;> rcases mem_entered.mp memberB with rfl | oldB
  · rfl
  · exact absurd ((new dirA (b, dirB) oldB).symm.trans equal) Bool.false_ne_true
  · exact absurd ((new dirB (a, dirA) oldA).symm.trans (equal_symm equal)) Bool.false_ne_true
  · exact inv.distinct _ oldA _ oldB equal

/-- `__ip_conntrack_confirm` of a connection that waits: its tuples are not in the hash yet, and the
hash refers to it afterwards. -/
theorem inv_conntrackConfirm (inv : TableInv s refs erefs none) (member : ct ∈ s.allocated)
    (status : (s.conn ct).confirmed = false) (env : TableEnv) :
    TableInv (conntrackConfirm env s ct).2 refs erefs none := by
  unfold conntrackConfirm
  split
  swap
  · exact inv
  rename_i clear
  rw [conntrackFind_isNone, conntrackFind_isNone] at clear
  have untabled := inv.untabled status
  let x : Connection :=
    { s.conn ct with pending := true, use := (s.conn ct).use + 1, confirmed := true }
  have owners : ∀ c, (Function.update s.conn ct x c).master = (s.conn c).master :=
    update_field Connection.master rfl
  have tuples : ∀ h, tupleOf { s with conn := Function.update s.conn ct x } h = s.tupleOf h :=
    fun h => update_field (fun c => c.tuplehash h.2) (by cases h.2 <;> rfl) h.1
  exact { inv with
    entries := by
      have unseen : ∀ dir, (ct, dir) ∉ s.hash :=
        fun dir stands => untabled (tabled_of_mem inv stands)
      simp [unseen, inv.entries]
    pairs := fun c => mem_entered.trans ((or_congr_right (inv.pairs c)).trans mem_entered.symm)
    tabled := by
      intro c tabled
      show c ∈ s.allocated ∧ (Function.update s.conn ct x c).confirmed = true
      by_cases here : c = ct
      · rw [here, Function.update_self]
        exact ⟨member, rfl⟩
      · rw [Function.update_of_ne here]
        exact inv.tabled c ((mem_entered.mp tabled).resolve_left here)
    waiting := inv.waiting.erase ct
    unconfirmed := by
      intro c
      show c ∈ s.unconfirmed.erase ct ↔ c ∈ s.allocated ∧
        (Function.update s.conn ct x c).confirmed = false ∧ _
      rw [inv.waiting.mem_erase_iff, inv.unconfirmed]
      by_cases here : c = ct
      · subst here
        simp [x]
      · rw [Function.update_of_ne here]
        exact and_iff_right here
    uses := by
      intro c allocated
      have old := inv.uses c allocated
      have served := slaves_congr (fun c (_ : c ∈ s.allocated) => owners c) c
      show (Function.update s.conn ct x c).use =
        (if (c, Dir.original) ∈ (ct, .reply) :: (ct, .original) :: s.hash then 1 else 0) + _ +
          (slaves { s with conn := Function.update s.conn ct x } c : Int) ∧
        0 < (Function.update s.conn ct x c).use
      rw [served]
      simp only [mem_entered]
      by_cases here : c = ct
      · subst here
        rw [if_neg untabled] at old
        rw [if_pos (.inl rfl), Function.update_self]
        show (s.conn c).use + 1 = _ ∧ 0 < (s.conn c).use + 1
        omega
      · rw [Function.update_of_ne here]
        simp only [here, false_or]
        exact old
    masters := fun c allocated m slave =>
      inv.masters c allocated m ((owners c).symm.trans slave)
    timers := by
      intro c pending
      apply mem_entered.mpr
      by_cases here : c = ct
      · exact .inl here
      · replace pending : (Function.update s.conn ct x c).pending = true := pending
        rw [Function.update_of_ne here] at pending
        exact .inr (inv.timers c pending)
    distinct := by
      have new : ∀ dir, ∀ h ∈ s.hash, ((s.conn ct).tuplehash dir).equal (s.tupleOf h) = false := by
        intro dir h old
        cases dir with
        | original => exact clear.1 h old
        | reply => exact clear.2 h old
      intro a memberA b memberB equal
      replace equal : (tupleOf { s with conn := Function.update s.conn ct x } a).equal
        (tupleOf { s with conn := Function.update s.conn ct x } b) = true := equal
      rw [tuples, tuples] at equal
      exact distinct_entered inv new a memberA b memberB equal }

/-- `ip_conntrack_alter_reply` of a connection that is not confirmed. -/
theorem inv_alterReply (inv : TableInv s refs erefs none) (status : (s.conn ct).confirmed = false)
    (newreply : Tuple) (maxExpected : Nat) :
    TableInv (alterReply s ct newreply maxExpected) refs erefs none := by
  have untabled := inv.untabled status
  have altered : TableInv (s.modify ct fun c => { c with reply := newreply }) refs erefs none := by
    apply inv_conn inv
    · rfl
    · rfl
    · exact fun stands => absurd stands untabled
    · exact inv.timers ct
    · exact fun _ _ => rfl
    · exact inv.uses ct
    · exact inv.freed ct
  unfold alterReply
  simp only
  split
  · rename_i idle
    exact inv_exps altered (inv_setHelper inv.exps idle.2 maxExpected) inv.expected
  · exact altered

end Setup

end Fvs318g.Verif.ConntrackTable
