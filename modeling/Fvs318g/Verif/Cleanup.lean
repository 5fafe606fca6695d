import Fvs318g.Verif.CleanupCounts
import Fvs318g.Verif.CleanupTable

/-!
# Reference counts during a flush

The use count of a connection is compared with the references that are there: that of the table,
those of the flush and those of the other holders. The flush keeps them equal, up to its surplus
of 60000, as long as the count that it sets is computed from the current one. It then removes
every selected connection, which is destroyed once, when its last reference is put.
-/

namespace Fvs318g.Verif.Cleanup

open Lib Netfilter

variable {Conn : Type} [DecidableEq Conn]

/-! ## The flush -/

/-- Where the flush sets a count, it is still the one that it has read. -/
def Undisturbed (s : FlushState Conn) (e : FlushEvent Conn) : Prop :=
  e = .flush → ∀ ct read, s.pc = .setAdd ct read ∨ s.pc = .setSub ct read → s.use ct = read

/-- What is known of the connection that the flush handles. -/
def Stage (env : FlushEnv Conn) (s : FlushState Conn) : Prop :=
  match s.pc with
  | .search => True
  | .delTimer ct => s.listed env ct = true ∧ env.iter ct = true ∧ s.timerPending ct = true
  | .readAdd ct | .setAdd ct _ | .hook ct => s.listed env ct = true ∧ env.iter ct = true
  | .deathPut ct | .readSub ct | .setSub ct _ | .test ct | .lastPut ct =>
    s.listed env ct = false
  | .repair _ => False
  | .done => ∀ b, ∀ h ∈ s.hash b, env.iter h.1 = false

/-- The flush has stopped the timer of a connection that is still listed. -/
def stopped : FlushPc Conn → Conn → Prop
  | .readAdd c, ct | .setAdd c _, ct | .hook c, ct => ct = c
  | _, _ => False

/-- The invariant of the flush apart from the counts. -/
structure Swept (env : FlushEnv Conn) (initial s : FlushState Conn) : Prop where
  /-- The hash is in order. -/
  hashed : Hashed env s.hash
  /-- Nothing is selected in the buckets that have been left. -/
  behind : ∀ b, b < s.bucket → ∀ h ∈ s.hash b, env.iter h.1 = false
  /-- Nothing is selected among the unconfirmed connections. -/
  confirmed : ∀ ct ∈ s.unconfirmed, env.iter ct = false
  /-- Listed connections were so at the start. -/
  listed_before : ∀ ct, s.listed env ct = true → initial.listed env ct = true
  /-- The timers of listed connections are pending. -/
  pending : ∀ ct, s.listed env ct = true → s.timerPending ct = true ∨ stopped s.pc ct
  /-- The connection that is handled. -/
  stage : Stage env s

/-- A table of confirmed connections with pending timers, before the flush. -/
structure Initial (env : FlushEnv Conn) (s : FlushState Conn) : Prop where
  /-- The hash is in order. -/
  hashed : Hashed env s.hash
  /-- The timers of the connections are pending. -/
  pending : ∀ ct, s.listed env ct = true → s.timerPending ct = true
  /-- No unconfirmed connection is selected. -/
  confirmed : ∀ ct ∈ s.unconfirmed, env.iter ct = false
  /-- The use counts are those of the table and of the other holders. -/
  use_eq : ∀ ct, s.use ct = (if s.listed env ct then 1 else 0) + (s.others ct : Int)
  /-- No connection of the table has been destroyed. -/
  alive : ∀ ct, s.listed env ct = true → s.destroyed ct = 0
  /-- `bucket` is 0. -/
  bucket_eq : s.bucket = 0
  /-- No count has been repaired. -/
  repaired_eq : s.repaired = false
  /-- The flush begins. -/
  pc_eq : s.pc = .search

section Flush

variable {env : FlushEnv Conn} {initial s s' : FlushState Conn}

/-- The invariants hold at the start. -/
theorem initial_invariant (start : Initial env initial) :
    Swept env initial initial ∧ Counted env initial initial := by
  have refs : ∀ ct, flushRefs initial.pc ct = 0 := by
    intro ct
    rw [start.pc_eq]
    rfl
  constructor
  · apply Swept.mk start.hashed
    · intro b low
      rw [start.bucket_eq] at low
      exact absurd low (Nat.not_lt_zero b)
    · exact start.confirmed
    · exact fun ct listed => listed
    · exact fun ct listed => Or.inl (start.pending ct listed)
    · rw [Stage, start.pc_eq]
      trivial
  · apply Counted.mk
    · intro ct
      rw [start.use_eq ct, holders, refs ct, start.pc_eq]
      simp only [surplus]
      split <;> push_cast <;> omega
    · intro ct listed
      rw [start.alive ct listed, holders, refs ct, listed]
      simp
    · exact start.repaired_eq

/-- A step that leaves the table. -/
theorem Swept.next (swept : Swept env initial s) (hash : s'.hash = s.hash)
    (bucket : s'.bucket = s.bucket) (unconfirmed : s'.unconfirmed = s.unconfirmed)
    (pending : ∀ ct, s.timerPending ct = true ∨ stopped s.pc ct →
      s'.timerPending ct = true ∨ stopped s'.pc ct) (stage : Stage env s') :
    Swept env initial s' := by
  apply Swept.mk
  · rw [hash]
    exact swept.hashed
  · rw [hash, bucket]
    exact swept.behind
  · rw [unconfirmed]
    exact swept.confirmed
  · intro ct listed
    rw [listed_congr hash] at listed
    exact swept.listed_before ct listed
  · intro ct listed
    rw [listed_congr hash] at listed
    exact pending ct (swept.pending ct listed)
  · exact stage

/-- A step of another holder leaves the table and the flush. -/
theorem Swept.aside (swept : Swept env initial s) (hash : s'.hash = s.hash)
    (bucket : s'.bucket = s.bucket) (unconfirmed : s'.unconfirmed = s.unconfirmed)
    (timers : s'.timerPending = s.timerPending) (pc : s'.pc = s.pc) : Swept env initial s' := by
  apply swept.next hash bucket unconfirmed
  · intro ct pending
    rw [timers, pc]
    exact pending
  · have stage := swept.stage
    unfold Stage FlushState.listed at stage ⊢
    rw [pc, hash, timers]
    exact stage

/-! ### The work that is left -/

/-- Steps from a place to the next deletion or to the end. -/
def phase : FlushPc Conn → Nat
  | .deathPut _ => 22
  | .readSub _ => 21
  | .setSub _ _ => 20
  | .test _ => 19
  | .repair _ => 18
  | .lastPut _ => 17
  | .search => 11
  | .delTimer _ => 10
  | .readAdd _ => 9
  | .setAdd _ _ => 8
  | .hook _ => 7
  | .done => 0

/-- A bound for the steps of the flush. -/
def flushWork (env : FlushEnv Conn) (s : FlushState Conn) : Nat :=
  16 * selectedLeft env s.hash + phase s.pc

/-! ### The steps -/

/-- The invariant of the flush. -/
def Good (env : FlushEnv Conn) (initial s : FlushState Conn) : Prop :=
  Swept env initial s ∧ Counted env initial s

section Steps

variable {c : Conn}

/-- A connection that is found is selected and listed, and the buckets before it are clear. -/
theorem found_spec (swept : Swept env initial s) {b : Nat}
    (found : getNextCorpse env s = (b, some c)) :
    s.listed env c = true ∧ env.iter c = true ∧
      ∀ k, k < b → ∀ h ∈ s.hash k, env.iter h.1 = false := by
  have none : s.unconfirmed.find? env.iter = none := by
    apply List.find?_eq_none.mpr
    intro ct member
    rw [swept.confirmed ct member]
    exact Bool.false_ne_true
  simp only [getNextCorpse, none, Option.or_none, Prod.mk.injEq] at found
  have spec := nextBucket_some (Prod.ext found.1 found.2)
  have listed : s.listed env c = true := by
    apply (listed_iff swept.hashed c).mpr
    exact ⟨b, spec.1⟩
  apply And.intro listed
  apply And.intro spec.2.1
  intro k below
  by_cases old : k < s.bucket
  · exact swept.behind k old
  · exact spec.2.2 k (by omega) below

/-- A search without result has seen the whole hash. -/
theorem missed_spec (inRange : ∀ ct dir, env.hashConntrack ct dir < env.htableSize)
    (swept : Swept env initial s) {b : Nat} (missed : getNextCorpse env s = (b, none)) :
    ∀ k, ∀ h ∈ s.hash k, env.iter h.1 = false := by
  simp only [getNextCorpse, Prod.mk.injEq, Option.or_eq_none_iff] at missed
  have spec := nextBucket_none (Prod.ext missed.1 missed.2.1)
  intro k h member
  have bound := inRange h.1 h.2
  rw [← swept.hashed.bucket_eq k h.1 h.2 member] at bound
  by_cases old : k < s.bucket
  · exact swept.behind k old h member
  · exact spec.2 k (by omega) (by omega) h member

/-- The search takes a reference on the connection that it finds. -/
theorem good_found (good : Good env initial s) (pc : s.pc = .search) {b : Nat}
    (found : getNextCorpse env s = (b, some c)) :
    Good env initial { s.get c with bucket := b, pc := .delTimer c } := by
  have spec := found_spec good.1 found
  have pending : ∀ ct, s.listed env ct = true → s.timerPending ct = true := by
    intro ct listed
    have timer := good.1.pending ct listed
    rw [pc] at timer
    exact timer.resolve_right id
  have elsewhere : ∀ ct, ct ≠ c →
      holders env { s.get c with bucket := b, pc := .delTimer c } ct = holders env s ct ∧
        surplus (.delTimer c) ct = surplus s.pc ct := by
    intro ct other
    rw [pc]
    exact ⟨holders_congr rfl (by rw [pc]; exact if_neg other) rfl, rfl⟩
  have alive : 1 ≤ holders env s c := by
    rw [holders, spec.1]
    simp only [if_true]
    omega
  have more : holders env { s.get c with bucket := b, pc := .delTimer c } c =
      holders env s c + 1 := by
    have shift : holders env { s.get c with bucket := b, pc := .delTimer c } c +
        flushRefs s.pc c + s.others c = holders env s c + flushRefs (.delTimer c) c + s.others c :=
      holders_shift rfl
    have before : flushRefs (.search : FlushPc Conn) c = 0 := rfl
    have now : flushRefs (.delTimer c) c = 1 := if_pos rfl
    rw [pc, before, now] at shift
    omega
  have extra : surplus (.delTimer c) c = surplus s.pc c := by
    rw [pc]
    rfl
  have swept : Swept env initial { s.get c with bucket := b, pc := .delTimer c } :=
    ⟨good.1.hashed, spec.2.2, good.1.confirmed, good.1.listed_before,
      fun ct listed => Or.inl (pending ct listed), ⟨spec.1, spec.2.1, pending c spec.1⟩⟩
  exact ⟨swept, good.2.get rfl rfl elsewhere alive more extra rfl⟩

/-- A search without result is the end. -/
theorem good_done (inRange : ∀ ct dir, env.hashConntrack ct dir < env.htableSize)
    (good : Good env initial s) (pc : s.pc = .search) {b : Nat}
    (missed : getNextCorpse env s = (b, none)) :
    Good env initial { s with bucket := b, pc := .done } := by
  have clear := missed_spec inRange good.1 missed
  have pending : ∀ ct, s.listed env ct = true → s.timerPending ct = true ∨ False := by
    intro ct listed
    have timer := good.1.pending ct listed
    rw [pc] at timer
    exact timer
  have refs : ∀ ct, flushRefs .done ct = flushRefs s.pc ct := by
    intro ct
    rw [pc]
    rfl
  have extra : ∀ ct, surplus .done ct = surplus s.pc ct := by
    intro ct
    rw [pc]
    rfl
  have swept : Swept env initial { s with bucket := b, pc := .done } :=
    ⟨good.1.hashed, fun k _ => clear k, good.1.confirmed, good.1.listed_before, pending, clear⟩
  exact ⟨swept, good.2.stay rfl rfl (fun ct => holders_congr rfl (refs ct) rfl) extra rfl⟩

section

variable (good : Good env initial s)
include good

/-- A step between places with the same references and the same surplus. -/
theorem Good.walk {before after : FlushPc Conn} (pc : s.pc = before)
    (alike : ∀ ct, flushRefs after ct = flushRefs before ct ∧
      surplus after ct = surplus before ct ∧ (stopped before ct → stopped after ct))
    (stage : Stage env { s with pc := after }) : Good env initial { s with pc := after } := by
  subst pc
  have same : ∀ ct, holders env { s with pc := after } ct = holders env s ct :=
    fun ct => holders_congr rfl (alike ct).1 rfl
  exact ⟨good.1.next rfl rfl rfl (fun ct => Or.imp_right (alike ct).2.2) stage,
    good.2.stay rfl rfl same (fun ct => (alike ct).2.1) rfl⟩

/-- The flush sets the count to the one it has read, with the surplus added or taken off. -/
theorem Good.flushSet {before after : FlushPc Conn} {value : Int} (pc : s.pc = before)
    (alike : ∀ ct, flushRefs after ct = flushRefs before ct ∧
      (ct ≠ c → surplus after ct = surplus before ct) ∧ (stopped before ct → stopped after ct))
    (extra : value - s.use c = surplus after c - surplus before c)
    (stage : Stage env { s with pc := after }) :
    Good env initial { s with use := Function.update s.use c value, pc := after } := by
  subst pc
  have same : ∀ ct, holders env { s with
      use := Function.update s.use c value, pc := after } ct = holders env s ct :=
    fun ct => holders_congr rfl (alike ct).1 rfl
  exact ⟨good.1.next rfl rfl rfl (fun ct => Or.imp_right (alike ct).2.2) stage,
    good.2.set rfl rfl same (fun ct => (alike ct).2.1) extra rfl⟩

/-- The timer is stopped. -/
theorem good_delTimer (pc : s.pc = .delTimer c) : Good env initial { s with
      timerPending := Function.update s.timerPending c false, pc := .readAdd c } := by
  have stage := good.1.stage
  rw [Stage, pc] at stage
  have pending : ∀ ct, s.timerPending ct = true ∨ stopped s.pc ct →
      Function.update s.timerPending c false ct = true ∨ ct = c := by
    intro ct before
    rw [pc] at before
    by_cases same : ct = c
    · exact Or.inr same
    · rw [Function.update_of_ne same]
      exact Or.inl (before.resolve_right id)
  have same : ∀ ct, holders env { s with
      timerPending := Function.update s.timerPending c false, pc := .readAdd c } ct =
      holders env s ct :=
    fun ct => holders_congr rfl (by rw [pc]; rfl) rfl
  have extra : ∀ ct, surplus (.readAdd c) ct = surplus s.pc ct := by
    intro ct
    rw [pc]
    rfl
  exact ⟨good.1.next rfl rfl rfl pending ⟨stage.1, stage.2.1⟩, good.2.stay rfl rfl same extra rfl⟩

/-- The count is read before it is raised. -/
theorem good_readAdd (pc : s.pc = .readAdd c) :
    Good env initial { s with pc := .setAdd c (s.use c) } := by
  have stage := good.1.stage
  rw [Stage, pc] at stage
  exact good.walk pc (fun _ => ⟨rfl, rfl, id⟩) stage

/-- The count is raised. -/
theorem good_setAdd {read : Int} (pc : s.pc = .setAdd c read) (current : s.use c = read) :
    Good env initial { s with
      use := Function.update s.use c (read + 60000), pc := .hook c } := by
  have stage := good.1.stage
  rw [Stage, pc] at stage
  have extra : read + 60000 - s.use c = surplus (.hook c) c - surplus (.setAdd c read) c := by
    rw [current]
    simp [surplus]
  exact good.flushSet pc (fun _ => ⟨rfl, fun other => if_neg other, id⟩) extra stage

end

/-- With the raised count the hook does not refuse. -/
theorem hook_passes (tame : ∀ ct n, 60000 ≤ n → env.refuses ct n = false)
    (good : Good env initial s) (pc : s.pc = .hook c) :
    (env.hookReady && env.refuses c (s.use c)) = false := by
  have count := good.2.use_eq c
  rw [pc] at count
  simp only [surplus, if_true] at count
  rw [tame c (s.use c) (by omega), Bool.and_false]

section

variable (good : Good env initial s)
include good

/-- The connection leaves the hash; the flush now has the reference of the table. -/
theorem good_hook (pc : s.pc = .hook c) :
    Good env initial { s with hash := cleanFromLists env c s.hash, pc := .deathPut c } := by
  have stage := good.1.stage
  rw [Stage, pc] at stage
  have member := mem_cleanFromLists good.1.hashed c
  have listed : ∀ ct, ({ s with
      hash := cleanFromLists env c s.hash, pc := .deathPut c } : FlushState Conn).listed env ct =
      (s.listed env ct && decide (ct ≠ c)) := by
    intro ct
    simp only [FlushState.listed, member, Bool.decide_and]
  have same : ∀ ct, holders env { s with
      hash := cleanFromLists env c s.hash, pc := .deathPut c } ct = holders env s ct := by
    intro ct
    rw [holders, holders, listed, pc]
    by_cases here : ct = c
    · simp [here, stage.1, flushRefs]
    · simp [here, flushRefs]
  have extra : ∀ ct, surplus (.deathPut c) ct = surplus s.pc ct := by
    intro ct
    rw [pc]
    rfl
  have still : ∀ ct, (s.listed env ct && decide (ct ≠ c)) = true →
      s.listed env ct = true ∧ ct ≠ c := by
    intro ct both
    simpa using both
  have swept : Swept env initial { s with
      hash := cleanFromLists env c s.hash, pc := .deathPut c } := by
    apply Swept.mk (hashed_cleanFromLists good.1.hashed c)
    · intro b below h inside
      exact good.1.behind b below h ((member b h.1 h.2).mp inside).1
    · exact good.1.confirmed
    · intro ct now
      rw [listed] at now
      exact good.1.listed_before ct (still ct now).1
    · intro ct now
      rw [listed] at now
      have timer := good.1.pending ct (still ct now).1
      rw [pc] at timer
      exact Or.inl (timer.resolve_right (still ct now).2)
    · rw [Stage]
      simp only [listed]
      simp
  exact ⟨swept, good.2.stay rfl rfl same extra rfl⟩

/-- The flush puts a reference: that of the table, or its own. -/
theorem Good.flushPut {before after : FlushPc Conn} (pc : s.pc = before)
    (alike : ∀ ct, flushRefs before ct = flushRefs after ct + (if ct = c then 1 else 0) ∧
      surplus after ct = surplus before ct ∧ (stopped before ct → stopped after ct))
    (stage : Stage env { s.put c with pc := after }) :
    Good env initial { s.put c with pc := after } := by
  subst pc
  have shift : ∀ ct, holders env { s.put c with pc := after } ct + flushRefs s.pc ct +
      s.others ct = holders env s ct + flushRefs after ct + s.others ct :=
    fun ct => holders_shift rfl
  have elsewhere : ∀ ct, ct ≠ c →
      holders env { s.put c with pc := after } ct = holders env s ct ∧
        surplus after ct = surplus s.pc ct := by
    intro ct other
    have moved := shift ct
    rw [(alike ct).1, if_neg other] at moved
    exact ⟨by omega, (alike ct).2.1⟩
  have less : holders env s c = holders env { s.put c with pc := after } c + 1 := by
    have moved := shift c
    rw [(alike c).1, if_pos rfl] at moved
    omega
  exact ⟨good.1.next rfl rfl rfl (fun ct => Or.imp_right (alike ct).2.2) stage,
    good.2.put rfl rfl elsewhere less (alike c).2.1 rfl⟩

/-- The reference of the table is put. -/
theorem good_deathPut (pc : s.pc = .deathPut c) :
    Good env initial { s.put c with pc := .readSub c } := by
  have stage := good.1.stage
  rw [Stage, pc] at stage
  have refs : ∀ ct, flushRefs (.deathPut c) ct =
      flushRefs (.readSub c) ct + if ct = c then 1 else 0 := by
    intro ct
    by_cases here : ct = c
    · simp [flushRefs, here]
    · simp [flushRefs, here]
  exact good.flushPut pc (fun ct => ⟨refs ct, rfl, id⟩) stage

/-- The count is read before it is lowered. -/
theorem good_readSub (pc : s.pc = .readSub c) :
    Good env initial { s with pc := .setSub c (s.use c) } := by
  have stage := good.1.stage
  rw [Stage, pc] at stage
  exact good.walk pc (fun _ => ⟨rfl, rfl, id⟩) stage

/-- The count is lowered. -/
theorem good_setSub {read : Int} (pc : s.pc = .setSub c read) (current : s.use c = read) :
    Good env initial { s with
      use := Function.update s.use c (read - 60000), pc := .test c } := by
  have stage := good.1.stage
  rw [Stage, pc] at stage
  have extra : read - 60000 - s.use c = surplus (.test c) c - surplus (.setSub c read) c := by
    rw [current]
    simp [surplus]
  exact good.flushSet pc (fun _ => ⟨rfl, fun other => (if_neg other).symm, id⟩) extra stage

/-- The lowered count is not zero: the flush still has its reference. -/
theorem test_passes (pc : s.pc = .test c) : s.use c ≠ 0 := by
  have count := good.2.use_eq c
  rw [holders, pc] at count
  simp only [surplus, flushRefs, if_true] at count
  omega

/-- No count is repaired. -/
theorem good_test (pc : s.pc = .test c) : Good env initial { s with pc := .lastPut c } := by
  have stage := good.1.stage
  rw [Stage, pc] at stage
  exact good.walk pc (fun _ => ⟨rfl, rfl, id⟩) stage

/-- The flush puts its own reference and searches on. -/
theorem good_lastPut (pc : s.pc = .lastPut c) : Good env initial { s.put c with pc := .search } :=
  good.flushPut pc (fun _ => ⟨(Nat.zero_add _).symm, rfl, id⟩) trivial

end

/-- References that the other holders take or put are counted at that connection only. -/
theorem holders_update {count : Nat} (hash : s'.hash = s.hash) (pc : s'.pc = s.pc)
    (others : s'.others = Function.update s.others c count) :
    (∀ ct, ct ≠ c → holders env s' ct = holders env s ct) ∧
      holders env s' c + s.others c = holders env s c + count := by
  have shift : ∀ ct, holders env s' ct + flushRefs s.pc ct + s.others ct =
      holders env s ct + flushRefs s'.pc ct + s'.others ct := fun ct => holders_shift hash
  rw [pc, others] at shift
  apply And.intro
  · intro ct other
    have moved := shift ct
    rw [Function.update_of_ne other] at moved
    omega
  · have moved := shift c
    rw [Function.update_self] at moved
    omega

/-- Another holder takes a reference. -/
theorem good_get (good : Good env initial s) (able : 0 < s.others c ∨ s.listed env c = true) :
    Good env initial { s.get c with
      others := Function.update s.others c (s.others c + 1) } := by
  have moved := @holders_update _ _ env s { s.get c with
    others := Function.update s.others c (s.others c + 1) } c _ rfl rfl rfl
  have alive : 1 ≤ holders env s c := by
    unfold holders
    rcases able with held | listed
    · omega
    · rw [if_pos listed]
      omega
  have more : holders env { s.get c with
      others := Function.update s.others c (s.others c + 1) } c = holders env s c + 1 := by
    have here := moved.2
    omega
  exact ⟨good.1.aside rfl rfl rfl rfl rfl,
    good.2.get rfl rfl (fun ct other => ⟨moved.1 ct other, rfl⟩) alive more rfl rfl⟩

/-- Another holder puts a reference. -/
theorem good_put (good : Good env initial s) (able : 0 < s.others c) :
    Good env initial { s.put c with
      others := Function.update s.others c (s.others c - 1) } := by
  have moved := @holders_update _ _ env s { s.put c with
    others := Function.update s.others c (s.others c - 1) } c _ rfl rfl rfl
  have less : holders env s c = holders env { s.put c with
      others := Function.update s.others c (s.others c - 1) } c + 1 := by
    have here := moved.2
    omega
  exact ⟨good.1.aside rfl rfl rfl rfl rfl,
    good.2.put rfl rfl (fun ct other => ⟨moved.1 ct other, rfl⟩) less rfl rfl⟩

end Steps

/-- A step inside the handling of a connection leaves less work. -/
theorem flushWork_lt {α : Type} {env : FlushEnv α} {s s' : FlushState α}
    (hash : s'.hash = s.hash) (sooner : phase s'.pc < phase s.pc) :
    flushWork env s' < flushWork env s := by
  unfold flushWork
  rw [hash]
  omega

/-- A step of the flush that finds the counts it has read keeps the invariant, and less work is
left. -/
theorem good_flush (inRange : ∀ ct dir, env.hashConntrack ct dir < env.htableSize)
    (tame : ∀ ct n, 60000 ≤ n → env.refuses ct n = false) (good : Good env initial s)
    (current : Undisturbed s .flush) (stepped : flushStep env s = some s') :
    Good env initial s' ∧ flushWork env s' < flushWork env s := by
  have stage := good.1.stage
  unfold Stage at stage
  unfold flushStep at stepped
  cases pc : s.pc with
  | search =>
    rw [pc] at stepped
    cases search : getNextCorpse env s with
    | mk b corpse =>
      rw [search] at stepped
      cases corpse with
      | some c =>
        cases stepped
        exact ⟨good_found good pc search, flushWork_lt rfl (by simp [pc, phase])⟩
      | none =>
        cases stepped
        exact ⟨good_done inRange good pc search, flushWork_lt rfl (by simp [pc, phase])⟩
  | delTimer c =>
    -- the connection is still listed, so its timer is pending and `del_timer` succeeds
    rw [pc] at stepped stage
    simp only [stage.2.2, if_true] at stepped
    cases stepped
    exact ⟨good_delTimer good pc, flushWork_lt rfl (by simp [pc, phase])⟩
  | readAdd c =>
    rw [pc] at stepped
    cases stepped
    exact ⟨good_readAdd good pc, flushWork_lt rfl (by simp [pc, phase])⟩
  | setAdd c read =>
    rw [pc] at stepped
    cases stepped
    have same := current rfl c read (Or.inl pc)
    exact ⟨good_setAdd good pc same, flushWork_lt rfl (by simp [pc, phase])⟩
  | hook c =>
    rw [pc] at stepped stage
    simp only [hook_passes tame good pc] at stepped
    cases stepped
    -- the deletion pays for the steps up to the next connection
    have fewer := selectedLeft_clean inRange stage.2 (of_decide_eq_true stage.1)
    apply And.intro (good_hook good pc)
    simp only [flushWork, phase, pc]
    omega
  | deathPut c =>
    rw [pc] at stepped
    cases stepped
    exact ⟨good_deathPut good pc, flushWork_lt rfl (by simp [pc, phase])⟩
  | readSub c =>
    rw [pc] at stepped
    cases stepped
    exact ⟨good_readSub good pc, flushWork_lt rfl (by simp [pc, phase])⟩
  | setSub c read =>
    rw [pc] at stepped
    cases stepped
    have same := current rfl c read (Or.inr pc)
    exact ⟨good_setSub good pc same, flushWork_lt rfl (by simp [pc, phase])⟩
  | test c =>
    rw [pc] at stepped
    simp only [if_neg (test_passes good pc)] at stepped
    cases stepped
    exact ⟨good_test good pc, flushWork_lt rfl (by simp [pc, phase])⟩
  | repair c =>
    rw [pc] at stage
    exact stage.elim
  | lastPut c =>
    rw [pc] at stepped
    cases stepped
    exact ⟨good_lastPut good pc, flushWork_lt rfl (by simp [pc, phase])⟩
  | done =>
    rw [pc] at stepped
    cases stepped

/-- Every step of an undisturbed run keeps the invariant and pays for the steps of the flush. -/
theorem good_next (inRange : ∀ ct dir, env.hashConntrack ct dir < env.htableSize)
    (tame : ∀ ct n, 60000 ≤ n → env.refuses ct n = false) (e : FlushEvent Conn)
    (good : Good env initial s) (current : Undisturbed s e)
    (stepped : flushNext env s e = some s') :
    Good env initial s' ∧ flushWork env s' + (if e == .flush then 1 else 0) ≤ flushWork env s := by
  cases e with
  | flush => exact good_flush inRange tame good current stepped
  | get c =>
    simp only [flushNext] at stepped
    split at stepped
    · next able =>
      cases stepped
      exact ⟨good_get good able, Nat.le_refl _⟩
    · cases stepped
  | put c =>
    simp only [flushNext] at stepped
    split at stepped
    · next able =>
      cases stepped
      exact ⟨good_put good able, Nat.le_refl _⟩
    · cases stepped

/-- The flush is never blocked before its end. -/
theorem flush_enabled (env : FlushEnv Conn) {s : FlushState Conn} (busy : s.pc ≠ .done) :
    (flushNext env s .flush).isSome = true := by
  simp only [flushNext, flushStep]
  cases pc : s.pc with
  | search =>
    simp only
    split <;> rfl
  | delTimer c =>
    simp only
    split <;> rfl
  | hook c =>
    simp only
    split <;> rfl
  | done => exact absurd pc busy
  | _ => rfl

/-- In every run in which the flush sets no count that has changed since it was read: the flush
ends after a bounded number of its steps; then every selected connection is out of the hash and
its count, beside what the other holders did, is less by one; a connection is destroyed once, when
it has no reference left; and no zero count is repaired. -/
theorem flush_exact (env : FlushEnv Conn)
    (inRange : ∀ ct dir, env.hashConntrack ct dir < env.htableSize)
    (tame : ∀ ct n, 60000 ≤ n → env.refuses ct n = false) {initial s : FlushState Conn}
    {es : List (FlushEvent Conn)} (start : Initial env initial)
    (ran : (flushSystem env initial).RunsBy Undisturbed initial es s) :
    (s.pc ≠ .done → (flushNext env s .flush).isSome = true) ∧
      es.countP (fun e => e == .flush) ≤ flushWork env initial ∧
      (s.pc = .done → ∀ ct, initial.listed env ct = true → env.iter ct = true →
        (∀ b dir, (ct, dir) ∉ s.hash b) ∧
          s.use ct - s.others ct = initial.use ct - initial.others ct - 1) ∧
      (∀ ct, initial.listed env ct = true →
        s.destroyed ct = if holders env s ct = 0 then 1 else 0) ∧
      s.repaired = false := by
  have keep : ∀ (s : FlushState Conn) e s', Good env initial s → Undisturbed s e →
      (flushSystem env initial).step s e = some s' → Good env initial s' ∧
        flushWork env s' + (if e == .flush then 1 else 0) ≤ flushWork env s :=
    fun _ e _ good current stepped => good_next inRange tame e good current stepped
  have run := ran.ranked keep (initial_invariant start)
  have good := run.1
  apply And.intro (flush_enabled env)
  apply And.intro (by omega)
  apply And.intro
  · intro done ct listed selected
    have stage := good.1.stage
    rw [Stage, done] at stage
    have gone : ∀ b dir, (ct, dir) ∉ s.hash b := by
      intro b dir member
      have unselected := stage b (ct, dir) member
      rw [selected] at unselected
      cases unselected
    have unlisted : s.listed env ct = false := decide_eq_false (gone _ _)
    have before := start.use_eq ct
    have now := good.2.use_eq ct
    rw [if_pos listed] at before
    rw [holders, unlisted, done] at now
    simp only [flushRefs, surplus] at now
    apply And.intro gone
    rw [before, now]
    simp
  · exact ⟨good.2.destroyed_eq, good.2.repaired_eq⟩

end Flush

/-! ## A table with one connection -/

/-- One connection with its tuples in the buckets 0 and 1; the hook refuses small counts. -/
def oneEnv : FlushEnv Unit where
  iter _ := true
  hashConntrack _ dir := match dir with
    | .original => 0
    | .reply => 1
  htableSize := 2
  hookReady := true
  refuses _ n := decide (n < 60000)

/-- The table with that connection and a number of other holders. -/
def oneTable (others : Nat) : FlushState Unit where
  use _ := 1 + others
  hash b := match b with
    | 0 => [((), .original)]
    | 1 => [((), .reply)]
    | _ => []
  unconfirmed := []
  timerPending _ := true
  destroyed _ := 0
  others _ := others
  bucket := 0
  repaired := false
  pc := .search

/-- The table meets the conditions for the start. -/
theorem initial_oneTable (others : Nat) : Initial oneEnv (oneTable others) := by
  have entries : ∀ b ct dir, (ct, dir) ∈ (oneTable others).hash b →
      b = oneEnv.hashConntrack ct dir := by
    intro b ct dir member
    match b with
    | 0 =>
      obtain rfl : dir = .original := by simpa [oneTable] using member
      rfl
    | 1 =>
      obtain rfl : dir = .reply := by simpa [oneTable] using member
      rfl
    | b + 2 => simp [oneTable] at member
  have nodup : ∀ b, ((oneTable others).hash b).Nodup := by
    intro b
    match b with
    | 0 => simp [oneTable]
    | 1 => simp [oneTable]
    | b + 2 => simp [oneTable]
  have paired : ∀ ct dir, (ct, dir) ∈ (oneTable others).hash (oneEnv.hashConntrack ct dir) := by
    intro ct dir
    cases dir with
    | original => simp [oneTable, oneEnv]
    | reply => simp [oneTable, oneEnv]
  exact ⟨⟨nodup, entries, fun _ ct _ _ dir' => paired ct dir'⟩, fun _ _ => rfl,
    fun _ member => absurd member List.not_mem_nil, fun _ => rfl, fun _ _ => rfl, rfl, rfl, rfl⟩

/-- At a concrete place the condition on the counts can be computed. -/
def settled (s : FlushState Conn) : Bool :=
  match s.pc with
  | .setAdd ct read | .setSub ct read => s.use ct == read
  | _ => true

/-- The computed condition is the condition. -/
theorem undisturbed_of_settled {α : Type} {s : FlushState α} {e : FlushEvent α}
    (check : settled s = true) : Undisturbed s e := by
  intro _ ct read place
  unfold settled at check
  rcases place with raise | lower
  · rw [raise] at check
    exact beq_iff_eq.mp check
  · rw [lower] at check
    exact beq_iff_eq.mp check

/-- The table with one other holder is flushed; the holder then lets go and the connection is
destroyed. -/
theorem flush_exact_one :
    ∃ s, (flushSystem oneEnv (oneTable 1)).RunsBy Undisturbed (oneTable 1)
        (List.replicate 11 .flush ++ [.put ()]) s ∧
      s.pc = .done ∧ (∀ b dir, ((), dir) ∉ s.hash b) ∧ s.destroyed () = 1 := by
  have inRange : ∀ ct dir, oneEnv.hashConntrack ct dir < oneEnv.htableSize := by
    intro ct dir
    cases dir with
    | original => exact Nat.zero_lt_succ 1
    | reply => exact Nat.lt_succ_self 1
  have tame : ∀ ct n, 60000 ≤ n → oneEnv.refuses ct n = false :=
    fun _ _ large => decide_eq_false (by omega)
  have outcome : ((flushSystem oneEnv (oneTable 1)).runBy (fun s _ => settled s) (oneTable 1)
      (List.replicate 11 .flush ++ [.put ()])).map (fun s => (s.pc, holders oneEnv s ())) =
      some (.done, 0) := by
    decide
  obtain ⟨s, executed, facts⟩ := Option.map_eq_some_iff.mp outcome
  obtain ⟨done, free⟩ := Prod.mk.inj facts
  have ran : (flushSystem oneEnv (oneTable 1)).RunsBy Undisturbed (oneTable 1)
      (List.replicate 11 .flush ++ [.put ()]) s :=
    System.runsBy_of_runBy (fun _ _ check => undisturbed_of_settled check) executed
  have result := flush_exact oneEnv inRange tame (initial_oneTable 1) ran
  have gone := result.2.2.1 done () rfl rfl
  have ended := result.2.2.2.1 () rfl
  rw [if_pos free] at ended
  exact ⟨s, ran, done, gone.1, ended⟩

/-- Where a run on the table ends: the flush, the count, the other holders' references, the
destructions and the repair. -/
def oneOutcome (others : Nat) (es : List (FlushEvent Unit)) :
    Option (FlushPc Unit × Int × Nat × Nat × Bool) :=
  ((flushSystem oneEnv (oneTable others)).run (oneTable others) es).map
    (fun s => (s.pc, s.use (), s.others (), s.destroyed (), s.repaired))

/-- A get or put between the read of a count and its setting is lost. A put: the connection keeps
a count of 1 that nobody holds and is never destroyed. A get: the connection is destroyed under
its holder. A get whose reference is put before the count is lowered: the count is zero there and
is repaired. -/
theorem flush_loses_references :
    oneOutcome 1 (List.replicate 3 .flush ++ .put () :: List.replicate 8 .flush) =
        some (.done, 1, 0, 0, false) ∧
      oneOutcome 0 (List.replicate 3 .flush ++ .get () :: List.replicate 8 .flush) =
        some (.done, 0, 1, 1, false) ∧
      oneOutcome 0 (List.replicate 3 .flush ++ .get () ::
          (List.replicate 3 .flush ++ .put () :: List.replicate 6 .flush)) =
        some (.done, 0, 0, 1, true) :=
  ⟨by decide, by decide, by decide⟩

end Fvs318g.Verif.Cleanup
