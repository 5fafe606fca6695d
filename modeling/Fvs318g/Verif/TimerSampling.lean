import Fvs318g.Arch.TimerSampling

/-!
# The tick count is that of the last read

The counter and the status together stand for the ticks since the last acknowledged interrupt:
the counter for those since the last reload, the status for the period before it. A call reads
them one after the other. Less than a period apart, the second counter value is larger only if a
reload falls between the two reads; then the loop goes round again, and as a second reload cannot
come before the first is acknowledged, it goes round once.
-/

namespace Fvs318g.Verif.TimerSampling

open Kernel Lib Arch Arch.TickTimer

variable {clk : TickClock} {h : TickTimer}

/-- A period has a tick. -/
theorem timerCounterValue_pos (clk : TickClock) : 0 < clk.timerCounterValue :=
  Nat.div_pos clk.fast (by decide)

/-- Two periods fit into an `unsigned long`. -/
theorem timerCounterValue_lt (clk : TickClock) : 2 * clk.timerCounterValue < 2 ^ 32 := by
  have bound := clk.apbClock.isLt
  unfold TickClock.timerCounterValue timerCounterValue hz
  omega

/-- What the registers say about the times. -/
structure Counts (clk : TickClock) (h : TickTimer) : Prop where
  /-- The counter does not show zero. -/
  counter_pos : 0 < h.counter
  /-- It shows at most the reload value. -/
  counter_le : h.counter ≤ clk.timerCounterValue
  /-- It counts from the last reload. -/
  now_eq : h.now + h.counter = h.reloaded + clk.timerCounterValue
  /-- The reloads are a period apart. -/
  reloaded_eq : h.reloaded = h.acknowledged + h.pending * clk.timerCounterValue
  /-- The status shows that there are reloads to acknowledge, and nothing else. -/
  status_eq : h.status = if h.pending = 0 then 0 else timer1OverflowInterruptBit

/-- The timer counts from its setup. -/
theorem counts_setup (clk : TickClock) : Counts clk (setup clk) where
  counter_pos := timerCounterValue_pos clk
  counter_le := le_refl _
  now_eq := rfl
  reloaded_eq := by simp only [setup, Nat.zero_mul]
  status_eq := rfl

/-- A tick keeps the count. -/
theorem Counts.tick (counts : Counts clk h) : Counts clk (h.tick clk) := by
  have value := counts.now_eq
  have positive := counts.counter_pos
  have size := counts.counter_le
  unfold TickTimer.tick
  by_cases last : h.counter - 1 = 0
  · rw [if_pos last]
    constructor
    case counter_pos => exact timerCounterValue_pos clk
    case counter_le => exact le_refl _
    case now_eq => rfl
    case reloaded_eq =>
      have before := counts.reloaded_eq
      simp only [Nat.add_mul, Nat.one_mul]
      omega
    case status_eq =>
      rw [if_neg (Nat.succ_ne_zero _)]
      simp only [counts.status_eq]
      split
      · exact BitVec.zero_or
      · exact BitVec.or_self
  · rw [if_neg last]
    constructor
    case counter_pos => exact Nat.pos_of_ne_zero last
    case counter_le => exact (Nat.sub_le _ _).trans size
    case now_eq =>
      simp only
      omega
    case reloaded_eq => exact counts.reloaded_eq
    case status_eq => exact counts.status_eq

/-- The handler keeps the count. -/
theorem Counts.acknowledge (counts : Counts clk h) : Counts clk h.acknowledge where
  counter_pos := counts.counter_pos
  counter_le := counts.counter_le
  now_eq := counts.now_eq
  reloaded_eq := by simp only [TickTimer.acknowledge, Nat.zero_mul, Nat.add_zero]
  status_eq := by
    simp only [TickTimer.acknowledge, counts.status_eq]
    split
    · exact BitVec.zero_and
    · decide

/-- The timer counts in every state that it comes to. -/
theorem counts_of_reachable (reach : (tickSystem clk).ReachableBy (Prompt clk) h) :
    Counts clk h := by
  apply System.ReachableBy.invariant (motive := Counts clk) _ _ reach
  · rintro h rfl
    exact counts_setup clk
  · intro h e h' counts prompt stepped
    cases e with
    | tick =>
      cases stepped
      exact counts.tick
    | interrupt =>
      obtain ⟨raised, rfl⟩ := guarded_step stepped
      exact counts.acknowledge

/-! ## Some ticks -/

/-- Ticks keep the count. -/
theorem Counts.ticks (counts : Counts clk h) (n : Nat) : Counts clk (h.ticks clk n) := by
  induction n generalizing h with
  | zero => exact counts
  | succ n ih => exact ih counts.tick

/-- What a tick does to the times. -/
theorem tick_times (clk : TickClock) (h : TickTimer) :
    (h.tick clk).now = h.now + 1 ∧ (h.tick clk).acknowledged = h.acknowledged ∧
      h.pending ≤ (h.tick clk).pending := by
  unfold TickTimer.tick
  split
  · exact ⟨rfl, rfl, Nat.le_succ _⟩
  · exact ⟨rfl, rfl, le_refl _⟩

/-- What ticks do to the times. -/
theorem ticks_times (clk : TickClock) (n : Nat) (h : TickTimer) :
    (h.ticks clk n).now = h.now + n ∧ (h.ticks clk n).acknowledged = h.acknowledged ∧
      h.pending ≤ (h.ticks clk n).pending := by
  induction n generalizing h with
  | zero => exact ⟨rfl, rfl, le_refl _⟩
  | succ n ih =>
    obtain ⟨now, acknowledged, pending⟩ := tick_times clk h
    obtain ⟨nows, acknowledgeds, pendings⟩ := ih (h.tick clk)
    rw [now] at nows
    exact ⟨by rw [TickTimer.ticks]; omega, acknowledgeds.trans acknowledged, pending.trans pendings⟩

/-- The status is raised exactly when a reload is to be acknowledged. -/
theorem Counts.status_ne_zero (counts : Counts clk h) : h.status ≠ 0 ↔ h.pending ≠ 0 := by
  rw [counts.status_eq]
  split
  · next none_ => simp [none_]
  · next some_ => simp [some_, timer1OverflowInterruptBit]

/-- The time of a timer by its counter and its reloads. -/
theorem Counts.total (counts : Counts clk h) :
    h.now + h.counter = h.acknowledged + h.pending * clk.timerCounterValue +
      clk.timerCounterValue := by
  rw [counts.now_eq, counts.reloaded_eq]

/-- No reload, or one. -/
theorem pending_cases {n : Nat} (once : n ≤ 1) (v : Nat) :
    n = 0 ∧ n * v = 0 ∨ n = 1 ∧ n * v = v := by
  rcases Nat.le_one_iff_eq_zero_or_eq_one.mp once with rfl | rfl
  · exact .inl ⟨rfl, Nat.zero_mul v⟩
  · exact .inr ⟨rfl, Nat.one_mul v⟩

/-- Ticks after ticks. -/
theorem ticks_add (clk : TickClock) (m n : Nat) (h : TickTimer) :
    h.ticks clk (m + n) = (h.ticks clk m).ticks clk n := by
  induction m generalizing h with
  | zero => rw [Nat.zero_add, TickTimer.ticks]
  | succ m ih => rw [Nat.add_right_comm, TickTimer.ticks, TickTimer.ticks, ih]

/-! ## A round of the loop -/

/-- Less than a period later, the counter is not larger exactly when it has not been reloaded. -/
theorem Counts.counter_le_iff (counts : Counts clk h) {n : Nat} (short : n < clk.timerCounterValue)
    (once : (h.ticks clk n).pending ≤ 1) :
    (h.ticks clk n).counter ≤ h.counter ↔ (h.ticks clk n).pending = h.pending := by
  have later := counts.ticks n
  have times := ticks_times clk n h
  have none_or_one := pending_cases (times.2.2.trans once) clk.timerCounterValue
  have none_or_one' := pending_cases once clk.timerCounterValue
  have total := counts.total
  have total' := later.total
  have range := counts.counter_le
  have positive' := later.counter_pos
  constructor
  · intro smaller
    omega
  · intro same
    omega

/-- A round with at most one unacknowledged reload. A larger counter value means that the reload
fell into the round, so there was none before; otherwise the status that was read is the one of
the end of the round. -/
theorem round_spec (counts : Counts clk h) {g : Gap}
    (short : g.beforeStatus + g.beforeCounter < clk.timerCounterValue)
    (once : (g.after clk h).pending ≤ 1) :
    ((g.after clk h).counter > h.counter → h.pending = 0 ∧ (g.after clk h).pending = 1) ∧
      ((g.after clk h).counter ≤ h.counter →
        (h.ticks clk g.beforeStatus).pending = (g.after clk h).pending) := by
  have whole : g.after clk h = h.ticks clk (g.beforeStatus + g.beforeCounter) :=
    (ticks_add clk g.beforeStatus g.beforeCounter h).symm
  have unreloaded : (g.after clk h).counter ≤ h.counter ↔ (g.after clk h).pending = h.pending := by
    rw [whole] at once ⊢
    exact counts.counter_le_iff short once
  -- the reloads to acknowledge do not get fewer in a call
  have before : h.pending ≤ (h.ticks clk g.beforeStatus).pending :=
    (ticks_times clk g.beforeStatus h).2.2
  have behind : (h.ticks clk g.beforeStatus).pending ≤ (g.after clk h).pending :=
    (ticks_times clk g.beforeCounter (h.ticks clk g.beforeStatus)).2.2
  constructor
  · intro larger
    have reloaded := mt unreloaded.mpr (Nat.not_le.mpr larger)
    omega
  · intro smaller
    have same := unreloaded.mp smaller
    omega

/-- A sample whose status belongs to its counter value counts the elapsed ticks. -/
theorem sample_ticks {s : Sample} (counts : Counts clk s.timer)
    (counter : s.ticks2 = s.timer.counter) (once : s.timer.pending ≤ 1)
    (status : s.interruptStatus ≠ 0 ↔ s.timer.pending ≠ 0) : s.ticks clk = s.timer.elapsed := by
  have bound := timerCounterValue_lt clk
  have total := counts.total
  have range := counts.counter_le
  have none_or_one := pending_cases once clk.timerCounterValue
  unfold Sample.ticks TickTimer.elapsed ulong
  rw [counter]
  by_cases raised : s.interruptStatus ≠ 0
  · have one := status.mp raised
    rw [if_pos raised]
    omega
  · have zero := mt status.mpr raised
    rw [if_neg raised]
    omega

/-- A round without a reload is the last one, and its sample counts the elapsed ticks. -/
theorem samplingLoop_last (counts : Counts clk h) {gaps : Nat → Gap} {k : Nat}
    (short : (gaps k).beforeStatus + (gaps k).beforeCounter < clk.timerCounterValue)
    (once : ((gaps k).after clk h).pending ≤ 1)
    (smaller : ((gaps k).after clk h).counter ≤ h.counter) (fuel : Nat) :
    ∃ s, samplingLoop clk gaps (fuel + 1) k h.counter h = some s ∧ s.rounds = k + 1 ∧
      s.timer = (gaps k).after clk h ∧ s.ticks clk = s.timer.elapsed := by
  have middle := counts.ticks (gaps k).beforeStatus
  have last := middle.ticks (gaps k).beforeCounter
  have same := (round_spec counts short once).2 smaller
  rw [samplingLoop, if_neg (Nat.not_lt.mpr smaller)]
  apply Exists.intro _
  apply And.intro rfl
  apply And.intro rfl
  apply And.intro rfl
  apply sample_ticks last rfl once
  rw [middle.status_ne_zero, same]

/-- The test of the loop fails at the end of the last round, and of no other one. -/
def EndsAfter (clk : TickClock) (gaps : Nat → Gap) (h : TickTimer) (rounds : Nat) : Prop :=
  ∃ last, rounds = last + 1 ∧
    (∀ j < last, (afterRounds clk gaps h j).counter < (afterRounds clk gaps h (j + 1)).counter) ∧
    (afterRounds clk gaps h rounds).counter ≤ (afterRounds clk gaps h last).counter

/-- For every schedule in question the loop ends after at most two rounds, with the first one in
which the counter is not larger than before, and the tick count that is converted is that of the
ticks since the last acknowledged interrupt when the counter was read last. -/
theorem gettimeoffset_exact (clk : TickClock) (h : TickTimer) (gaps : Nat → Gap)
    (reach : (tickSystem clk).ReachableBy (Prompt clk) h) (unhurried : Unhurried clk gaps h) :
    ∃ s, gettimeoffset clk gaps 2 h = some (s, clk.ticks2usecs (s.ticks clk)) ∧
      1 ≤ s.rounds ∧ s.rounds ≤ 2 ∧ EndsAfter clk gaps h s.rounds ∧
      s.timer = afterRounds clk gaps h s.rounds ∧ s.ticks clk = s.timer.elapsed := by
  have counts := counts_of_reachable reach
  have first := unhurried 0 (fun j before => absurd before (Nat.not_lt_zero j))
  by_cases larger : ((gaps 0).after clk h).counter > h.counter
  · -- a reload fell into the first round, so there is none in the second
    have second := unhurried 1 (fun j before => by
      obtain rfl := Nat.lt_one_iff.mp before
      exact larger)
    have counts' : Counts clk ((gaps 0).after clk h) :=
      (counts.ticks (gaps 0).beforeStatus).ticks (gaps 0).beforeCounter
    have one := ((round_spec counts first.1 first.2).1 larger).2
    have smaller := Nat.not_lt.mp fun again =>
      absurd ((round_spec counts' second.1 second.2).1 again).1 (by rw [one]; decide)
    obtain ⟨s, ended, rounds, timer, ticks⟩ := samplingLoop_last counts' second.1 second.2 smaller 0
    have loop : samplingLoop clk gaps 2 0 h.counter h = some s := by
      rw [samplingLoop, if_pos larger]
      exact ended
    have ends : EndsAfter clk gaps h 2 := ⟨1, rfl, fun j before => by
      obtain rfl := Nat.lt_one_iff.mp before
      exact larger, smaller⟩
    apply Exists.intro s
    rw [gettimeoffset, loop, rounds, timer]
    exact ⟨rfl, by decide, le_refl _, ends, rfl, timer ▸ ticks⟩
  · obtain ⟨s, ended, rounds, timer, ticks⟩ :=
      samplingLoop_last counts first.1 first.2 (Nat.not_lt.mp larger) 1
    have ends : EndsAfter clk gaps h 1 :=
      ⟨0, rfl, fun j before => absurd before (Nat.not_lt_zero j), Nat.not_lt.mp larger⟩
    apply Exists.intro s
    rw [gettimeoffset, ended, rounds, timer]
    exact ⟨rfl, le_refl _, by decide, ends, rfl, timer ▸ ticks⟩

/-- The interrupt stays prompt while the counter does not come to its reload. -/
theorem reachable_ticks (reach : (tickSystem clk).ReachableBy (Prompt clk) h) (once : h.pending ≤ 1)
    {n : Nat} (short : n < h.counter) :
    h.ticks clk n = { h with counter := h.counter - n, now := h.now + n } ∧
      (tickSystem clk).ReachableBy (Prompt clk) (h.ticks clk n) := by
  induction n generalizing h with
  | zero => exact ⟨rfl, reach⟩
  | succ n ih =>
    have ticked : h.tick clk = { h with counter := h.counter - 1, now := h.now + 1 } :=
      if_neg (by omega)
    have prompt : Prompt clk h .tick := fun _ => by rw [ticked]; exact once
    have next : (tickSystem clk).ReachableBy (Prompt clk) (h.tick clk) := .step reach prompt rfl
    rw [TickTimer.ticks]
    rw [ticked] at next ⊢
    obtain ⟨same, reached⟩ := ih next once (Nat.lt_sub_of_add_lt short)
    refine ⟨?_, reached⟩
    rw [same]
    congr 1 <;> simp only <;> omega

/-- A clock of 50 MHz. -/
def fiftyMegahertz : TickClock := ⟨50000000, by decide⟩

/-- The timer of that clock two ticks before its first reload. -/
def beforeReload : TickTimer := ⟨2, 0, 499998, 0, 0, 0⟩

/-- A call with the reload in its first round. -/
theorem gettimeoffset_exact_reload :
    ∃ s, gettimeoffset fiftyMegahertz (fun _ => ⟨1, 2⟩) 2 beforeReload =
        some (s, fiftyMegahertz.ticks2usecs (s.ticks fiftyMegahertz)) ∧
      1 ≤ s.rounds ∧ s.rounds ≤ 2 ∧
      EndsAfter fiftyMegahertz (fun _ => ⟨1, 2⟩) beforeReload s.rounds ∧
      s.timer = afterRounds fiftyMegahertz (fun _ => ⟨1, 2⟩) beforeReload s.rounds ∧
      s.ticks fiftyMegahertz = s.timer.elapsed := by
  apply gettimeoffset_exact
  · have start : (tickSystem fiftyMegahertz).ReachableBy (Prompt fiftyMegahertz) (setup _) :=
      .init rfl
    have short : 499998 < (setup fiftyMegahertz).counter := by decide
    obtain ⟨same, reach⟩ := reachable_ticks start (Nat.zero_le 1) short
    rw [same] at reach
    exact reach
  · intro k reached
    match k with
    | 0 => decide
    | 1 => decide
    | k + 2 => exact absurd (reached 1 (by omega)) (by decide)

end Fvs318g.Verif.TimerSampling
