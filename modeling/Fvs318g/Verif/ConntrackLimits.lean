import Fvs318g.Verif.ConntrackRuns

/-!
# The limit of the connection table

How many connections there can be, and what a hook that refuses the death of a connection does to
the limit and to the packets of new connections.
-/

namespace Fvs318g.Verif.ConntrackTable

open Lib Netfilter Netfilter.ConntrackTable

/-! ## The limit -/

/-- The entries that the connections in the hash and those that wait have or will have. -/
def load (s : ConntrackTable) : Nat := s.hash.length + 2 * s.unconfirmed.length

variable {s : ConntrackTable} {refs erefs : Nat → Nat}

/-- Connections in the hash are confirmed, those that wait are not. -/
theorem load_le (inv : TableInv s refs erefs none) : load s ≤ 2 * s.allocated.length := by
  let confirmed := s.allocated.filter fun c => (s.conn c).confirmed
  let others := s.allocated.filter fun c => ¬(s.conn c).confirmed = true
  have split : s.allocated.length = confirmed.length + others.length := by
    rw [← List.countP_eq_length_filter, ← List.countP_eq_length_filter]
    exact List.length_eq_countP_add_countP _
  have entries : s.hash ⊆ confirmed.flatMap fun c => [(c, .original), (c, .reply)] := by
    intro h member
    have stands := inv.tabled h.1 (tabled_of_mem inv member)
    rw [List.mem_flatMap]
    refine ⟨h.1, List.mem_filter.mpr stands, ?_⟩
    obtain ⟨c, dir⟩ := h
    cases dir <;> simp
  have hashed := (List.subperm_of_subset inv.entries entries).length_le
  have waiting : s.unconfirmed ⊆ others := by
    intro c member
    have waits := (inv.unconfirmed c).mp member
    refine List.mem_filter.mpr ⟨waits.1, ?_⟩
    simp [waits.2.1]
  have listed := (List.subperm_of_subset inv.waiting waiting).length_le
  have doubled : (confirmed.flatMap fun c => [(c, Dir.original), (c, Dir.reply)]).length =
      2 * confirmed.length := by
    rw [List.length_flatMap, Nat.mul_comm]
    show (confirmed.map fun _ => 2).sum = _
    rw [List.map_const', List.sum_replicate_nat]
  unfold load
  omega

/-- Nothing joins when references are given back. -/
theorem load_kept {s s' : ConntrackTable} (kept : Kept s s') : load s' ≤ load s := by
  have waiting := kept.waiting
  unfold load
  rw [kept.hash]
  omega

variable {ct : Nat}

/-- A connection that is timed out leaves with both of its entries. -/
theorem load_timedOut (inv : TableInv s refs erefs none) (stands : Tabled s ct) :
    load (timedOut false s ct) + 2 = load s := by
  show ((s.hash.erase (ct, .original)).erase (ct, .reply)).length + 2 * s.unconfirmed.length + 2 =
    s.hash.length + 2 * s.unconfirmed.length
  have second : (ct, Dir.reply) ∈ s.hash.erase (ct, .original) := by
    rw [inv.entries.mem_erase_iff]
    exact ⟨by simp, (inv.pairs ct).mpr stands⟩
  have first := List.length_erase_of_mem stands
  have both := List.length_erase_of_mem second
  have positive := List.length_pos_of_mem second
  omega

/-- Nothing joins when a connection is timed out. -/
theorem load_timeout_le (refused : Bool) (s : ConntrackTable) (ct : Nat) :
    load (timedOut refused s ct) ≤ load s := by
  cases refused with
  | true => exact Nat.le_refl _
  | false =>
    have first := List.length_erase_le (a := (ct, Dir.original)) (l := s.hash)
    have second := List.length_erase_le (a := (ct, Dir.reply)) (l := s.hash.erase (ct, .original))
    show ((s.hash.erase (ct, .original)).erase (ct, .reply)).length + 2 * s.unconfirmed.length ≤
      s.hash.length + 2 * s.unconfirmed.length
    omega

/-- The hook does not refuse the connections that a packet would have dropped. -/
def unrefused : TableEvent → Prop
  | .packet new _ _ => ∀ ct, new.refused ct = false
  | _ => True

/-- `early_drop` makes the table no fuller. -/
theorem load_early (env : TableEnv) (new : NewEnv) (s : ConntrackTable) (tuple : Tuple) :
    load (earlyDrop new.refused s (chain env s (hashConntrack env tuple))).2 ≤ load s := by
  rcases earlyDrop_cases new.refused s (chain env s (hashConntrack env tuple)) with
    ⟨s', drop, kept, -⟩ | ⟨h, s', drop, -, -, kept⟩
  · rw [drop]
    exact load_kept kept
  · rw [drop]
    exact (load_kept kept).trans (load_timeout_le _ _ _)

variable {env : TableEnv} {new : NewEnv}

/-- With room, one more connection fits. -/
theorem load_of_room {s s₁ : ConntrackTable} {tuple : Tuple} (inv : TableInv s refs erefs none)
    (limit : env.max ≠ 0) (below : load s ≤ 2 * env.max) (answers : ∀ ct, new.refused ct = false)
    (room : Room env new s tuple s₁) : load s₁ + 2 ≤ 2 * env.max := by
  rcases room with ⟨free, rfl⟩ | dropped
  · have count := free.resolve_left limit
    have all := load_le inv
    rw [inv.counted] at count
    omega
  · rcases earlyDrop_cases new.refused s (chain env s (hashConntrack env tuple)) with
      ⟨s', drop, -⟩ | ⟨h, s', drop, oldest, -, kept⟩
    · rw [dropped] at drop
      cases drop
    · rw [dropped] at drop
      cases drop
      have member := List.mem_reverse.mp (List.mem_of_find?_eq_some oldest)
      have stands := tabled_of_mem inv (List.mem_filter.mp member).1
      rw [answers] at kept
      have left := load_kept kept
      have fewer := load_timedOut inv stands
      omega

/-- `init_conntrack` under the lock: the hash and the timers stay, and one more connection waits. -/
theorem linkConntrack_keeps (new : NewEnv) (s : ConntrackTable) (ct : Nat) (tuple : Tuple) :
    (linkConntrack new s ct tuple).hash = s.hash ∧
      (linkConntrack new s ct tuple).unconfirmed = ct :: s.unconfirmed ∧
      ∀ c, ((linkConntrack new s ct tuple).conn c).pending = (s.conn c).pending := by
  unfold linkConntrack
  split
  · rename_i i exps found
    refine ⟨rfl, rfl, ?_⟩
    intro c
    have first : Kept s (s.modify ct fun c => { c with master := some (s.exps.exp i).master }) :=
      kept_modify s ct rfl
    have second := kept_conntrackGet
      (s.modify ct fun c => { c with master := some (s.exps.exp i).master }) (s.exps.exp i).master
    exact (second.timers c).trans (first.timers c)
  · exact ⟨rfl, rfl, fun _ => rfl⟩

/-- A packet stays within the limit. -/
theorem load_packet (inv : TableInv s refs erefs none) (limit : env.max ≠ 0)
    (below : load s ≤ 2 * env.max) (answers : ∀ ct, new.refused ct = false) (ct : Nat)
    (tuple : Tuple) : load (resolveNormalCt env new s ct tuple).2 ≤ 2 * env.max := by
  unfold resolveNormalCt
  cases conntrackFind env s tuple with
  | some h => exact below
  | none =>
    show load (initConntrack env new s ct tuple).2 ≤ 2 * env.max
    rcases initConntrack_cases env new s ct tuple with
      ⟨_, s₁, init, -, state⟩ | ⟨s₁, repl, room, outcome⟩
    · rw [init]
      rcases state with rfl | rfl
      · exact below
      · exact (load_early env new s tuple).trans below
    · have fits := load_of_room inv limit below answers room
      rcases outcome with init | init
      · rw [init]
        show load s₁ ≤ _
        omega
      · rw [init]
        have link := linkConntrack_keeps new (allocMemory true s₁ ct tuple repl).2 ct tuple
        show load (linkConntrack new (allocMemory true s₁ ct tuple repl).2 ct tuple) ≤ _
        unfold load at fits ⊢
        rw [link.1, link.2.1, List.length_cons]
        show s₁.hash.length + 2 * (s₁.unconfirmed.length + 1) ≤ _
        omega

/-- A connection takes up as much when it waits as in the hash. -/
theorem load_confirm (waits : ct ∈ s.unconfirmed) (env : TableEnv) :
    load (conntrackConfirm env s ct).2 = load s := by
  unfold conntrackConfirm
  split
  · have fewer := List.length_erase_of_mem waits
    have positive := List.length_pos_of_mem waits
    show s.hash.length + 1 + 1 + 2 * (s.unconfirmed.erase ct).length =
      s.hash.length + 2 * s.unconfirmed.length
    omega
  · rfl

/-- No event brings the table over its limit. -/
theorem load_step {s s' : TableState} {event : TableEvent} (limit : env.max ≠ 0) (inv : StateInv s)
    (below : load s.table ≤ 2 * env.max) (answers : unrefused event)
    (stepped : tableStep env s event = some s') : load s'.table ≤ 2 * env.max := by
  cases event with
  | packet new ct tuple =>
    obtain ⟨-, rfl⟩ := guarded_step stepped
    exact load_packet inv limit below answers ct tuple
  | release ct =>
    obtain ⟨-, rfl⟩ := guarded_step stepped
    exact (load_kept (kept_putLoop _ s.table ct)).trans below
  | confirm ct =>
    obtain ⟨⟨held, status⟩, rfl⟩ := guarded_step stepped
    have waits := (inv.unconfirmed ct).mpr
      ⟨inv.allocated held, status, (Option.some_ne_none ct).symm⟩
    exact (load_confirm waits env).trans_le below
  | alterReply ct newreply maxExpected =>
    obtain ⟨-, rfl⟩ := guarded_step stepped
    show load (alterReply s.table ct newreply maxExpected) ≤ _
    unfold alterReply
    simp only
    split
    · exact below
    · exact below
  | timeout refused ct =>
    obtain ⟨-, rfl⟩ := guarded_step stepped
    exact ((load_kept (kept_timeout refused s.table ct)).trans (load_timeout_le _ _ _)).trans below
  | attach | assure | rearm | expect | assign | related | unexpect | forget | expire =>
    obtain ⟨-, rfl⟩ := guarded_step stepped
    exact below

/-- With a limit, and as long as the hook refuses no connection that a packet would have dropped,
the connections in the hash, with two entries each, and those that wait to be confirmed are
together no more than the limit: a packet of a new connection is dropped, or takes the place of a
connection.
This is for packets that are handled one after the other. -/
theorem table_within_limit {env : TableEnv} {s : TableState} (limit : env.max ≠ 0)
    (reach : (tableSystem env).ReachableBy (fun _ event => unrefused event) s) :
    s.table.hash.length + 2 * s.table.unconfirmed.length ≤ 2 * env.max := by
  have both : StateInv s ∧ load s.table ≤ 2 * env.max := by
    refine System.ReachableBy.invariant ?_ ?_ reach
    · intro s start
      refine ⟨stateInv_init start, ?_⟩
      rw [load, start.hash, start.unconfirmed]
      exact Nat.zero_le _
    · intro s event s' ih answers stepped
      exact ⟨stateInv_step ih.1 stepped, load_step limit ih.1 ih.2 answers stepped⟩
  exact both.2

/-- One chain, and a limit of one connection. -/
def oneConnection : TableEnv := ⟨1, 0, 1⟩

/-- A second connection arrives while the first one has the only place. -/
def secondRun (refused : Bool) : List TableEvent :=
  [.packet (newTcp false controlTuple) 0 controlTuple, .confirm 0,
    .packet (newTcp refused dataTuple) 1 dataTuple]

/-- The second connection takes the place of the first, which its packet still holds. With a hook
that refuses the first one's death, `early_drop` reports a drop all the same, and the limit is
exceeded. -/
theorem table_within_limit_second :
    (∃ s, (tableSystem oneConnection).run emptyTable (secondRun false) = some s ∧
      s.table.hash = [] ∧ s.table.unconfirmed = [1] ∧ s.table.allocated = [1, 0] ∧
      s.table.hash.length + 2 * s.table.unconfirmed.length ≤ 2 * oneConnection.max) ∧
    ∃ s, (tableSystem oneConnection).run emptyTable (secondRun true) = some s ∧
      2 * oneConnection.max < s.table.hash.length + 2 * s.table.unconfirmed.length := by
  constructor
  · have ran : ((tableSystem oneConnection).run emptyTable (secondRun false)).map (fun s =>
        (s.table.hash, s.table.unconfirmed, s.table.allocated)) = some ([], [1], [1, 0]) := by
      decide +kernel
    obtain ⟨s, run, values⟩ := Option.map_eq_some_iff.mp ran
    simp only [Prod.mk.injEq] at values
    have answers : ∀ e ∈ secondRun false, ∀ _ : TableState, unrefused e := by
      simp [secondRun, unrefused, newTcp]
    have start : (tableSystem oneConnection).ReachableBy (fun _ event => unrefused event)
        emptyTable := .init emptyTable_empty
    exact ⟨s, run, values.1, values.2.1, values.2.2,
      table_within_limit (by decide) (System.reachableBy_of_run start answers run)⟩
  · have ran : ((tableSystem oneConnection).run emptyTable (secondRun true)).map (fun s =>
        s.table.hash.length + 2 * s.table.unconfirmed.length) = some 4 := by decide +kernel
    obtain ⟨s, run, values⟩ := Option.map_eq_some_iff.mp ran
    exact ⟨s, run, by rw [values]; decide⟩

/-! ## Connections whose death was refused -/

/-- The connection stands in the hash without a timer. -/
def Stopped (s : ConntrackTable) (ct : Nat) : Prop := Tabled s ct ∧ (s.conn ct).pending = false

/-- Nobody starts the timer of the connection. -/
def notRearmed (ct : Nat) : TableEvent → Bool
  | .rearm c => c != ct
  | _ => true

/-- References that are given back end no connection without a timer. -/
theorem stopped_kept {s s' : ConntrackTable} (kept : Kept s s') (stopped : Stopped s ct) :
    Stopped s' ct := by
  refine ⟨?_, (kept.timers ct).trans stopped.2⟩
  unfold Tabled
  rw [kept.hash]
  exact stopped.1

/-- A connection without a timer is not timed out. -/
theorem stopped_timedOut {ct c : Nat} (refused : Bool) (stopped : Stopped s ct)
    (pending : (s.conn c).pending = true) : Stopped (timedOut refused s c) ct := by
  have other : ct ≠ c := by
    rintro rfl
    rw [stopped.2] at pending
    cases pending
  have timer : ((stopTimer s c).conn ct).pending = false := by
    show (Function.update s.conn c _ ct).pending = false
    rw [Function.update_of_ne other]
    exact stopped.2
  cases refused with
  | true => exact ⟨stopped.1, timer⟩
  | false =>
    refine ⟨?_, timer⟩
    show (ct, Dir.original) ∈ (s.hash.erase (c, .original)).erase (c, .reply)
    rw [List.mem_erase_of_ne (by simp), List.mem_erase_of_ne (by simp [other])]
    exact stopped.1

/-- `early_drop` ends no connection without a timer. -/
theorem stopped_early {tuple : Tuple} (stopped : Stopped s ct) :
    Stopped (earlyDrop new.refused s (chain env s (hashConntrack env tuple))).2 ct := by
  rcases earlyDrop_cases new.refused s (chain env s (hashConntrack env tuple)) with
    ⟨s', drop, kept, -⟩ | ⟨h, s', drop, -, pending, kept⟩
  · rw [drop]
    exact stopped_kept kept stopped
  · rw [drop]
    exact stopped_kept kept (stopped_timedOut _ stopped pending)

/-- A connection that is set up, or freed again, leaves the others. -/
theorem stopped_decided {s s₁ : ConntrackTable} {ct name : Nat} {tuple repl : Tuple}
    (stopped : Stopped s₁ ct) (other : ct ≠ name) (outcome : initConntrack env new s name tuple =
        (.untracked, conntrackFree (allocMemory true s₁ name tuple repl).2 name) ∨
      initConntrack env new s name tuple = (.found (name, .original),
        linkConntrack new (allocMemory true s₁ name tuple repl).2 name tuple)) :
    Stopped (initConntrack env new s name tuple).2 ct := by
  have alloc : Stopped (allocMemory true s₁ name tuple repl).2 ct := by
    refine ⟨stopped.1, ?_⟩
    show (Function.update s₁.conn name _ ct).pending = false
    rw [Function.update_of_ne other]
    exact stopped.2
  rcases outcome with init | init
  · rw [init]
    exact alloc
  · rw [init]
    have link := linkConntrack_keeps new (allocMemory true s₁ name tuple repl).2 name tuple
    refine ⟨?_, (link.2.2 ct).trans alloc.2⟩
    show (ct, Dir.original) ∈ (linkConntrack new _ name tuple).hash
    rw [link.1]
    exact alloc.1

/-- No packet ends a connection without a timer. -/
theorem stopped_packet (inv : TableInv s refs erefs none) {ct name : Nat} (stopped : Stopped s ct)
    (fresh : name ∉ s.allocated) (new : NewEnv) (tuple : Tuple) :
    Stopped (resolveNormalCt env new s name tuple).2 ct := by
  have other : ct ≠ name := ne_of_mem_of_not_mem (inv.tabled ct stopped.1).1 fresh
  unfold resolveNormalCt
  cases conntrackFind env s tuple with
  | some h => exact stopped_kept (kept_conntrackGet s h.1) stopped
  | none =>
    show Stopped (initConntrack env new s name tuple).2 ct
    have early : Stopped (earlyDrop new.refused s (chain env s (hashConntrack env tuple))).2 ct :=
      stopped_early stopped
    rcases initConntrack_cases env new s name tuple with
      ⟨_, s₁, init, -, state⟩ | ⟨s₁, repl, room, outcome⟩
    · rw [init]
      rcases state with rfl | rfl
      · exact stopped
      · exact early
    · apply @stopped_decided env new s s₁ ct name tuple repl _ other outcome
      rcases room with ⟨-, rfl⟩ | drop
      · exact stopped
      · rw [drop] at early
        exact early

/-- No event ends a connection without a timer. -/
theorem stopped_step {s s' : TableState} {event : TableEvent} (inv : StateInv s)
    (stopped : Stopped s.table ct) (alone : notRearmed ct event = true)
    (stepped : tableStep env s event = some s') : Stopped s'.table ct := by
  cases event with
  | packet new name tuple =>
    obtain ⟨fresh, rfl⟩ := guarded_step stepped
    exact stopped_packet inv stopped fresh new tuple
  | attach c =>
    obtain ⟨-, rfl⟩ := guarded_step stepped
    exact stopped_kept (kept_conntrackGet s.table c) stopped
  | release c =>
    obtain ⟨-, rfl⟩ := guarded_step stepped
    exact stopped_kept (kept_putLoop _ s.table c) stopped
  | confirm c =>
    obtain ⟨⟨-, status⟩, rfl⟩ := guarded_step stepped
    have other : ct ≠ c := by
      rintro rfl
      rw [(inv.tabled ct stopped.1).2] at status
      cases status
    show Stopped (conntrackConfirm env s.table c).2 ct
    unfold conntrackConfirm
    split
    · refine ⟨List.mem_cons_of_mem _ (List.mem_cons_of_mem _ stopped.1), ?_⟩
      show (Function.update s.table.conn c _ ct).pending = false
      rw [Function.update_of_ne other]
      exact stopped.2
    · exact stopped
  | assure c =>
    obtain ⟨-, rfl⟩ := guarded_step stepped
    exact stopped_kept
      (kept_modify s.table c (f := fun c => { c with assured := true }) rfl) stopped
  | alterReply c newreply maxExpected =>
    obtain ⟨-, rfl⟩ := guarded_step stepped
    have altered := stopped_kept (kept_modify s.table c
      (f := fun c => { c with reply := newreply }) rfl) stopped
    show Stopped (alterReply s.table c newreply maxExpected) ct
    unfold alterReply
    simp only
    split
    · exact altered
    · exact altered
  | timeout refused c =>
    obtain ⟨pending, rfl⟩ := guarded_step stepped
    exact stopped_kept (kept_timeout refused s.table c) (stopped_timedOut refused stopped pending)
  | rearm c =>
    obtain ⟨-, rfl⟩ := guarded_step stepped
    have other : ct ≠ c := (bne_iff_ne.mp alone).symm
    refine ⟨stopped.1, ?_⟩
    show (Function.update s.table.conn c _ ct).pending = false
    rw [Function.update_of_ne other]
    exact stopped.2
  | expect | assign | related | unexpect | forget | expire =>
    obtain ⟨-, rfl⟩ := guarded_step stepped
    exact stopped

/-- No run without a new start of its timer ends a connection without a timer. -/
theorem stopped_run {s s' : TableState} {events : List TableEvent}
    (run : (tableSystem env).RunsBy (fun _ event => notRearmed ct event = true) s events s')
    (inv : StateInv s) (stopped : Stopped s.table ct) : Stopped s'.table ct := by
  induction run with
  | nil => exact stopped
  | cons alone stepped _ ih =>
    exact ih (stateInv_step inv stepped) (stopped_step inv stopped alone stepped)

/-- The connection that `early_drop` picks for a packet: the oldest one of the chain that is not
assured. -/
def oldest (env : TableEnv) (s : ConntrackTable) (tuple : Tuple) : Option (Nat × Dir) :=
  (chain env s (hashConntrack env tuple)).reverse.find? fun h => !(s.conn h.1).assured

/-- A packet makes `ip_conntrack_alloc` look for a connection to drop. -/
structure FindsFull (env : TableEnv) (s : ConntrackTable) (new : NewEnv) (tuple : Tuple) :
    Prop where
  /-- It belongs to no connection in the hash. -/
  missed : conntrackFind env s tuple = none
  /-- The protocol knows how to answer it. -/
  inverse : new.inverse.isSome
  /-- There is a limit, and it is reached. -/
  full : env.max ≠ 0 ∧ env.max ≤ s.count

/-- In a full table a packet of a new connection is dropped when the oldest connection of its chain
that is not assured has no timer. -/
theorem packet_dropped {name ct : Nat} {dir : Dir} {tuple : Tuple}
    (finds : FindsFull env s new tuple) (stopped : Stopped s ct)
    (first : oldest env s tuple = some (ct, dir)) :
    (resolveNormalCt env new s name tuple).1 = .noMemory := by
  obtain ⟨missed, inverse, full⟩ := finds
  obtain ⟨repl, inverse⟩ := Option.isSome_iff_exists.mp inverse
  have kept : (earlyDrop new.refused s (chain env s (hashConntrack env tuple))).1 = false := by
    rw [oldest] at first
    rw [earlyDrop, first]
    simp only [stopped.2, Bool.false_eq_true, if_false]
  rw [resolveNormalCt, missed]
  simp [initConntrack, inverse, conntrackAlloc, full, kept]

/-- The event makes the hook refuse the death of the connection: its timer expires, or `early_drop`
picks it to make room for a packet. -/
def refuses (env : TableEnv) (s : ConntrackTable) (ct : Nat) : TableEvent → Prop
  | .timeout refused c => refused = true ∧ c = ct
  | .packet new _ tuple =>
    FindsFull env s new tuple ∧ (∃ dir, oldest env s tuple = some (ct, dir)) ∧
      (s.conn ct).pending = true ∧ new.refused ct = true
  | _ => False

/-- A timer that expired or was stopped, and a death that was refused. -/
theorem stopped_refused (stands : Tabled s ct) : Stopped (timedOut true s ct) ct := by
  refine ⟨stands, ?_⟩
  show (Function.update s.conn ct _ ct).pending = false
  rw [Function.update_self]

/-- `early_drop` reports a drop for a connection whose death was refused. -/
theorem stopped_refused_packet (inv : TableInv s refs erefs none) {ct name : Nat} {tuple : Tuple}
    (fresh : name ∉ s.allocated) (refusal : refuses env s ct (.packet new name tuple)) :
    Stopped (resolveNormalCt env new s name tuple).2 ct := by
  obtain ⟨⟨missed, inverse, full⟩, ⟨dir, first⟩, pending, refused⟩ := refusal
  obtain ⟨repl, inverse⟩ := Option.isSome_iff_exists.mp inverse
  have stands := inv.timers ct pending
  have other : ct ≠ name := ne_of_mem_of_not_mem (inv.tabled ct stands).1 fresh
  rw [oldest] at first
  rcases earlyDrop_cases new.refused s (chain env s (hashConntrack env tuple)) with
    ⟨s₁, drop, -, none⟩ | ⟨h, s₁, drop, picked, -, kept⟩
  · rw [first] at none
    exact absurd (none _ rfl) (by rw [pending]; decide)
  · rw [first] at picked
    cases picked
    rw [refused] at kept
    have stopped := stopped_kept kept (stopped_refused stands)
    have alloc : conntrackAlloc env new s name tuple repl =
        allocMemory new.memory s₁ name tuple repl := by
      simp [conntrackAlloc, full, drop]
    rw [resolveNormalCt, missed]
    show Stopped (initConntrack env new s name tuple).2 ct
    rcases initConntrack_of_room inverse alloc (.inr drop) with failed | ⟨s₂, repl', room, outcome⟩
    · rw [failed]
      exact stopped
    · rcases room with ⟨free, -⟩ | dropped
      · omega
      · rw [drop] at dropped
        cases dropped
        exact stopped_decided stopped other outcome

/-- When the hook has refused the death of a connection, be it timed out or picked by `early_drop`,
nothing but a new start of its timer ends it: in every later run without one the connection stays in
the hash and has no timer, and whenever the table is full and it is the oldest connection of a chain
that is not assured, all packets of new connections of this chain are dropped. -/
theorem refused_connection_stays {env : TableEnv} {ct : Nat} {s s₁ s' : TableState}
    {event : TableEvent} {events : List TableEvent} (reach : (tableSystem env).Reachable s)
    (refusal : refuses env s.table ct event) (stepped : tableStep env s event = some s₁)
    (run : (tableSystem env).RunsBy (fun _ event => notRearmed ct event = true) s₁ events s') :
    Tabled s'.table ct ∧ (s'.table.conn ct).pending = false ∧
    ∀ new name tuple dir, FindsFull env s'.table new tuple →
      oldest env s'.table tuple = some (ct, dir) →
      (resolveNormalCt env new s'.table name tuple).1 = .noMemory := by
  have inv := stateInv_reachable reach
  have start : Stopped s₁.table ct := by
    cases event with
    | timeout refused c =>
      obtain ⟨pending, rfl⟩ := guarded_step stepped
      obtain ⟨rfl, rfl⟩ := refusal
      exact stopped_refused (inv.timers c pending)
    | packet new name tuple =>
      obtain ⟨fresh, rfl⟩ := guarded_step stepped
      exact stopped_refused_packet inv fresh refusal
    | attach | release | confirm | assure | alterReply | rearm | expect | assign | related
    | unexpect | forget | expire => exact absurd refusal id
  have stays := stopped_run run (stateInv_step inv stepped) start
  exact ⟨stays.1, stays.2, fun new name tuple dir finds first => packet_dropped finds stays first⟩

/-- The only place is taken by a connection that was closed by its packet. -/
def firstRun : List TableEvent :=
  [.packet (newTcp false controlTuple) 0 controlTuple, .confirm 0, .release 0]

/-- What the law asks of a state, for the packet of the next connection. -/
structure Seen where
  /-- The first connection has a timer. -/
  pending : Bool
  /-- The packet finds a full table. -/
  full : Bool
  /-- The connection that is picked for it. -/
  first : Option (Nat × Dir)
  deriving DecidableEq

/-- The same, as computed. -/
def seen (s : TableState) : Seen where
  pending := (s.table.conn 0).pending
  full := decide (oneConnection.max ≤ s.table.count) &&
    (conntrackFind oneConnection s.table dataTuple).isNone
  first := oldest oneConnection s.table dataTuple

/-- The packet finds a full table. -/
theorem findsFull_of_seen {s : TableState} (full : (seen s).full = true) (refused : Bool) :
    FindsFull oneConnection s.table (newTcp refused dataTuple) dataTuple := by
  simp only [seen, Bool.and_eq_true, decide_eq_true_eq, Option.isNone_iff_eq_none] at full
  exact ⟨full.2, rfl, by decide, full.1⟩

/-- The packet of the next connection. -/
def nextPacket : TableEvent := .packet (newTcp false dataTuple) 2 dataTuple

/-- Behind the event the first connection stays, and packets of the next one are dropped. -/
def StaysAfter (event : TableEvent) : Prop :=
  ∃ s s₁ s', (tableSystem oneConnection).run emptyTable firstRun = some s ∧
    tableStep oneConnection s event = some s₁ ∧
    (tableSystem oneConnection).runBy (fun _ event => notRearmed 0 event) s₁ [nextPacket] =
      some s' ∧
    Tabled s'.table 0 ∧ (s'.table.conn 0).pending = false ∧
    (resolveNormalCt oneConnection (newTcp false dataTuple) s'.table 2 dataTuple).1 = .noMemory

/-- The death of the first connection is refused, when its timer expires or for the next one. -/
theorem refused_connection_stays_second :
    StaysAfter (.timeout true 0) ∧ StaysAfter (.packet (newTcp true dataTuple) 1 dataTuple) := by
  have stays : ∀ event, (((tableSystem oneConnection).run emptyTable firstRun).bind fun s =>
      (tableStep oneConnection s event).bind fun s₁ =>
        ((tableSystem oneConnection).runBy (fun _ event => notRearmed 0 event) s₁
          [nextPacket]).map fun s' => (seen s, seen s')) =
        some (⟨true, true, some (0, .original)⟩, ⟨false, true, some (0, .original)⟩) →
      (∀ s, seen s = ⟨true, true, some (0, .original)⟩ → refuses oneConnection s.table 0 event) →
      StaysAfter event := by
    intro event ran refusal
    obtain ⟨s, run, rest⟩ := Option.bind_eq_some_iff.mp ran
    obtain ⟨s₁, stepped, rest⟩ := Option.bind_eq_some_iff.mp rest
    obtain ⟨s', later, values⟩ := Option.map_eq_some_iff.mp rest
    rw [Prod.mk.injEq] at values
    have known := refused_connection_stays
      (System.reachable_of_run (.init emptyTable_empty) run) (refusal s values.1) stepped
      (System.runsBy_of_runBy (fun _ _ alone => alone) later)
    exact ⟨s, s₁, s', run, stepped, later, known.1, known.2.1,
      known.2.2 _ _ _ _ (findsFull_of_seen (congrArg Seen.full values.2) false)
        (congrArg Seen.first values.2)⟩
  constructor
  · exact stays _ (by decide +kernel) fun _ _ => ⟨rfl, rfl⟩
  · apply stays _ (by decide +kernel)
    intro s values
    exact ⟨findsFull_of_seen (congrArg Seen.full values) true,
      ⟨.original, congrArg Seen.first values⟩, congrArg Seen.pending values, rfl⟩

end Fvs318g.Verif.ConntrackTable
