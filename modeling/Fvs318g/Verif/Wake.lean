import Fvs318g.Verif.Poll

/-!
# The receive wake-up

Between passes the driver relies on the latched FSRC edge: a frame that waits at
`cur_index` must find polling scheduled, the line masked by a handler on its way to
schedule it, or an edge latched. A pass without work gives that up in the order ownership
check, `netif_rx_complete`, clear edge, open mask. A frame that arrives between the check
and the clearing of the edge is not seen by the check, and its edge is cleared.
-/

namespace Fvs318g.Verif.Wake

open Kernel Lib Gsw Receive Poll

/-- A frame waits at `cur_index`. -/
def Ready (rx : RxWorld) : Prop := (slot rx.ring.desc rx.ring.curIndex).cown = true

/-- A frame waits and nothing will make the driver look at it. -/
def Asleep (w : WakeWorld) : Prop :=
  Ready w.poll.rx ∧ w.sched = false ∧ w.masked = false ∧ w.latched = false

/-- A pass without work is between its ownership check and the clearing of the edge. -/
def InWindow (w : WakeWorld) : Prop :=
  (w.poll.phase = .receiving ∧ w.poll.rx.pass = .returned 0) ∨ w.poll.phase = .empty ∨
    (w.poll.phase = .enabling ∧ w.edgeCleared = false)

/-- No frame arrives in that window. -/
def Quiet (w : WakeWorld) (e : WakeEvent) : Prop :=
  (∃ length, e = .poll (.fill length)) → ¬ InWindow w

/-- The driver relies on the latched edge. -/
def Relies (w : WakeWorld) : Prop :=
  w.isr = .idle ∧ w.sched = false ∧
    (w.poll.phase = .idle ∨ (w.poll.phase = .enabling ∧ w.edgeCleared = true))

/-- What holds between polling, the interrupt handler and the line. -/
structure WakeOk (w : WakeWorld) : Prop where
  /-- A handler in progress is on its way to schedule polling, with the line masked. -/
  isr : w.isr ≠ .idle → (w.isr = .acked ∨ w.isr = .cleared ∨ w.isr = .disabled) ∧
    w.masked = true ∧ w.sched = false ∧ w.poll.phase = .idle
  /-- The line is masked while polling is scheduled. -/
  masked : w.sched = true → w.masked = true
  /-- A pass runs while polling is scheduled. -/
  polling : w.poll.phase ≠ .idle → w.poll.phase ≠ .enabling → w.sched = true
  /-- After `netif_rx_complete` the line is still masked. -/
  enabling : w.poll.phase = .enabling → w.sched = false ∧ w.masked = true
  /-- The edge is cleared by the end of a pass only. -/
  cleared : w.edgeCleared = true → w.poll.phase = .enabling
  /-- The ownership check of a pass without work still holds. -/
  window : InWindow w → ¬ Ready w.poll.rx
  /-- A frame that waits has its edge latched. -/
  latched : Relies w → Ready w.poll.rx → w.latched = true

section Steps

variable {w : WakeWorld} {poll : PollWorld}

section

variable (ok : WakeOk w)
include ok

/-- A pass or a scheduled poll excludes a handler in progress. -/
theorem WakeOk.isr_idle (busy : w.poll.phase ≠ .idle ∨ w.sched = true) : w.isr = .idle := by
  by_contra handling
  obtain ⟨_, _, unscheduled, idle⟩ := ok.isr handling
  rcases busy with phase | sched
  · exact phase idle
  · rw [unscheduled] at sched
    contradiction

/-- An open mask excludes a scheduled poll. -/
theorem WakeOk.unscheduled (unmasked : w.masked = false) : w.sched = false := by
  rw [Bool.eq_false_iff]
  exact fun sched => Bool.false_ne_true (unmasked.symm.trans (ok.masked sched))

/-- An open mask excludes the end of a pass. -/
theorem WakeOk.not_enabling (unmasked : w.masked = false) : w.poll.phase ≠ .enabling := by
  intro enabling
  exact Bool.false_ne_true (unmasked.symm.trans (ok.enabling enabling).2)

/-- An open mask excludes a pass. -/
theorem WakeOk.poll_idle (unmasked : w.masked = false) : w.poll.phase = .idle := by
  by_contra running
  have sched := ok.polling running (ok.not_enabling unmasked)
  exact Bool.false_ne_true ((ok.unscheduled unmasked).symm.trans sched)

/-- A frame arrives outside the window and latches an edge. -/
theorem wakeOk_fill {length : Nat} (quiet : ¬ InWindow w)
    (inner : pollStep w.poll (.fill length) = some poll) :
    WakeOk { w with poll := poll, latched := true } := by
  cases pollStep_move inner with
  | fill _ filled =>
    cases rxStep_move filled
    exact ⟨ok.isr, ok.masked, ok.polling, ok.enabling, ok.cleared,
      fun inside => absurd inside quiet, fun _ _ => rfl⟩

/-- The hardware stops. -/
theorem wakeOk_stop (inner : pollStep w.poll .stop = some poll) :
    WakeOk { w with poll := poll } := by
  cases pollStep_move inner
  exact ⟨ok.isr, ok.masked, ok.polling, ok.enabling, ok.cleared, ok.window, ok.latched⟩

/-- The stack frees a buffer. -/
theorem wakeOk_release {skb : SkBuff} (inner : pollStep w.poll (.release skb) = some poll) :
    WakeOk { w with poll := poll } := by
  cases pollStep_move inner with
  | release released =>
    cases rxStep_move released
    exact ⟨ok.isr, ok.masked, ok.polling, ok.enabling, ok.cleared, ok.window, ok.latched⟩

/-- A scheduled pass makes a step and is still before its `netif_rx_complete`. -/
theorem wakeOk_pass (sched : w.sched = true) (before : poll.phase ≠ .enabling)
    (window : InWindow { w with poll := poll } → ¬ Ready poll.rx) :
    WakeOk { w with poll := poll } where
  isr handling := absurd (ok.isr_idle (.inr sched)) handling
  masked := ok.masked
  polling _ _ := sched
  enabling now := absurd now before
  cleared edge := absurd ((ok.enabling (ok.cleared edge)).1.symm.trans sched) Bool.false_ne_true
  window := window
  latched relies := absurd (relies.2.1.symm.trans sched) Bool.false_ne_true

/-- The steps of `star_gsw_receive_packet` in a pass: the only way to return without work
is the ownership check. -/
theorem wakeOk_receive {e : RxEvent} {rx : RxWorld} (pollOk : PollOk w.poll)
    (slots : Slots w.poll.rx) (receiving : w.poll.phase = .receiving)
    (kind : e = .count ∨ ∃ answer, e = .iterate answer) (inner : rxStep w.poll.rx e = some rx) :
    WakeOk { w with poll := { w.poll with rx := rx } } := by
  have sched := ok.polling (by simp [receiving]) (by simp [receiving])
  rw [PollOk, receiving] at pollOk
  obtain ⟨_, _, _, pass⟩ := pollOk
  refine wakeOk_pass ok sched (by simp [receiving]) ?_
  intro inside
  have returned : rx.pass = .returned 0 := by simpa [InWindow, receiving] using inside
  rcases kind with rfl | ⟨answer, rfl⟩
  · cases rxStep_move inner with
    | nothing _ zero =>
      have hardware := (rxCount_eq_zero slots.cur zero).2
      exact fun ready => Bool.false_ne_true (hardware.symm.trans ready)
    | loop => simp at returned
  · cases rxStep_move inner with
    | exhausted looping done =>
      rw [looping] at pass
      obtain ⟨positive, work⟩ := pass
      have zero : _ = 0 := RxPass.returned.inj returned
      omega
    | notReady | replace | reuse => simp at returned

/-- `star_gsw_poll` is called for a scheduled device. -/
theorem wakeOk_enter {budget quota : Int} (sched : w.sched = true)
    (inner : pollStep w.poll (.enter budget quota) = some poll) :
    WakeOk { w with poll := poll } := by
  cases pollStep_move inner with
  | enter _ _ _ entered =>
    cases rxStep_move entered
    exact wakeOk_pass ok sched (by simp) (by simp [InWindow])

/-- Back in `star_gsw_poll`: only a pass without work goes on to `netif_rx_complete`. -/
theorem wakeOk_branch (inner : pollStep w.poll .branch = some poll) :
    WakeOk { w with poll := poll } := by
  cases pollStep_move inner with
  | @branch workDone receiving returned =>
    have sched := ok.polling (by simp [receiving]) (by simp [receiving])
    by_cases worked : workDone ≠ 0
    · by_cases full : w.poll.isQf = true
      · exact wakeOk_pass ok sched (by simp [worked, full]) (by simp [InWindow, worked, full])
      · exact wakeOk_pass ok sched (by simp [worked, full]) (by simp [InWindow, worked, full])
    · obtain rfl : workDone = 0 := by omega
      exact wakeOk_pass ok sched (by simp) fun _ => ok.window (.inl ⟨receiving, returned⟩)

/-- The two steps that restart the hardware. -/
theorem wakeOk_restart {e : PollEvent} (kind : e = .clear ∨ e = .start)
    (inner : pollStep w.poll e = some poll) : WakeOk { w with poll := poll } := by
  rcases kind with rfl | rfl
  · cases pollStep_move inner with
    | clear full =>
      have sched := ok.polling (by simp [full]) (by simp [full])
      exact wakeOk_pass ok sched (by simp) (by simp [InWindow])
  · cases pollStep_move inner with
    | start restarting =>
      have sched := ok.polling (by simp [restarting]) (by simp [restarting])
      exact wakeOk_pass ok sched (by simp) (by simp [InWindow])

/-- `netif_rx_complete` leaves the line masked. -/
theorem wakeOk_complete (inner : pollStep w.poll .complete = some poll) :
    WakeOk { w with poll := poll, sched := false } := by
  cases pollStep_move inner with
  | complete empty =>
    have sched := ok.polling (by simp [empty]) (by simp [empty])
    refine ⟨?_, fun now => absurd now Bool.false_ne_true, fun _ other => absurd rfl other, ?_, ?_,
      fun _ => ok.window (.inr (.inl empty)), ?_⟩
    · exact fun handling => absurd (ok.isr_idle (.inr sched)) handling
    · exact fun _ => ⟨rfl, ok.masked sched⟩
    · exact fun _ => rfl
    · rintro ⟨_, _, idle | ⟨_, edge⟩⟩
      · contradiction
      · have enabling := ok.cleared edge
        rw [empty] at enabling
        contradiction

/-- The end of `enable_irq` opens the mask. -/
theorem wakeOk_enable (edge : w.edgeCleared = true) (inner : pollStep w.poll .enable = some poll) :
    WakeOk { w with poll := poll, masked := false, edgeCleared := false } := by
  cases pollStep_move inner with
  | enable enabling =>
    have idle := ok.isr_idle (.inl (by simp [enabling]))
    have unscheduled := (ok.enabling enabling).1
    refine ⟨?_, ?_, fun now => absurd rfl now, fun now => by simp at now, ?_, ?_, ?_⟩
    · exact fun handling => absurd idle handling
    · exact fun sched => absurd (unscheduled.symm.trans sched) Bool.false_ne_true
    · exact fun cleared => absurd cleared Bool.false_ne_true
    · simp [InWindow]
    · exact fun _ => ok.latched ⟨idle, unscheduled, .inr ⟨enabling, edge⟩⟩

/-- The first half of `enable_irq` clears the edge, with no frame waiting. -/
theorem wakeOk_clearEdge (enabling : w.poll.phase = .enabling) (edge : w.edgeCleared = false) :
    WakeOk { w with latched := false, edgeCleared := true } := by
  have quiet := ok.window (.inr (.inr ⟨enabling, edge⟩))
  exact ⟨ok.isr, ok.masked, ok.polling, ok.enabling, fun _ => enabling, fun _ => quiet,
    fun _ ready => absurd ready quiet⟩

/-- The processor takes an interrupt only while it relies on the edge. -/
theorem wakeOk_irq (unmasked : w.masked = false) :
    WakeOk { w with masked := true, isr := .acked } := by
  have unscheduled := ok.unscheduled unmasked
  have outside := ok.not_enabling unmasked
  have idle := ok.poll_idle unmasked
  exact ⟨fun _ => ⟨.inl rfl, rfl, unscheduled, idle⟩, fun _ => rfl, ok.polling,
    fun now => absurd now outside, ok.cleared, ok.window, fun relies => by simp [Relies] at relies⟩

/-- The handler ends by scheduling polling. -/
theorem wakeOk_isr {w' : WakeWorld} (stepped : wakeIsr w = some w') : WakeOk w' := by
  cases phase : w.isr with
  | idle => simp [wakeIsr, phase] at stepped
  | acked =>
    obtain ⟨_, masked, unscheduled, idle⟩ := ok.isr (by simp [phase])
    simp only [wakeIsr, phase, Option.some.injEq] at stepped
    obtain rfl := stepped
    exact ⟨fun _ => ⟨.inr (.inl rfl), masked, unscheduled, idle⟩, ok.masked, ok.polling,
      ok.enabling, ok.cleared, ok.window, fun relies => by simp [Relies] at relies⟩
  | cleared =>
    obtain ⟨_, masked, unscheduled, idle⟩ := ok.isr (by simp [phase])
    simp only [wakeIsr, phase, Option.some.injEq] at stepped
    obtain rfl := stepped
    exact ⟨fun _ => ⟨.inr (.inr rfl), rfl, unscheduled, idle⟩, fun _ => rfl, ok.polling,
      fun now => ⟨(ok.enabling now).1, rfl⟩, ok.cleared, ok.window,
      fun relies => by simp [Relies] at relies⟩
  | disabled =>
    obtain ⟨_, masked, unscheduled, idle⟩ := ok.isr (by simp [phase])
    simp only [wakeIsr, phase, unscheduled, Bool.false_eq_true, ↓reduceIte,
      Option.some.injEq] at stepped
    obtain rfl := stepped
    exact ⟨fun now => absurd rfl now, fun _ => masked, fun _ _ => rfl,
      fun now => absurd (idle.symm.trans now) (by decide), ok.cleared, ok.window,
      fun relies => by simp [Relies] at relies⟩
  | enabling next =>
    obtain ⟨known, _⟩ := ok.isr (by simp [phase])
    simp [phase] at known
  | leaving next =>
    obtain ⟨known, _⟩ := ok.isr (by simp [phase])
    simp [phase] at known

/-- Every event keeps `WakeOk`, arrivals in the window apart. -/
theorem wakeOk_step {w' : WakeWorld} {e : WakeEvent} (pollOk : PollOk w.poll)
    (slots : Slots w.poll.rx) (quiet : Quiet w e) (stepped : wakeStep w e = some w') :
    WakeOk w' := by
  cases e with
  | poll e =>
    obtain ⟨poll, inner, outer⟩ := Option.bind_eq_some_iff.mp stepped
    cases e with
    | fill length =>
      cases outer
      exact wakeOk_fill ok (quiet ⟨length, rfl⟩) inner
    | stop =>
      cases outer
      exact wakeOk_stop ok inner
    | release skb =>
      cases outer
      exact wakeOk_release ok inner
    | enter budget quota =>
      obtain ⟨sched, same⟩ := guarded_step outer
      rw [← same]
      exact wakeOk_enter ok sched inner
    | count =>
      cases outer
      cases pollStep_move inner with
      | count receiving counted =>
        exact wakeOk_receive ok pollOk slots receiving (.inl rfl) counted
    | iterate answer =>
      cases outer
      cases pollStep_move inner with
      | iterate receiving iterated =>
        exact wakeOk_receive ok pollOk slots receiving (.inr ⟨answer, rfl⟩) iterated
    | branch =>
      cases outer
      exact wakeOk_branch ok inner
    | clear =>
      cases outer
      exact wakeOk_restart ok (.inl rfl) inner
    | start =>
      cases outer
      exact wakeOk_restart ok (.inr rfl) inner
    | complete =>
      cases outer
      exact wakeOk_complete ok inner
    | enable =>
      obtain ⟨edge, same⟩ := guarded_step outer
      rw [← same]
      exact wakeOk_enable ok edge inner
  | clearEdge =>
    obtain ⟨guard, same⟩ := guarded_step stepped
    rw [← same]
    exact wakeOk_clearEdge ok guard.1 guard.2
  | irq =>
    obtain ⟨guard, same⟩ := guarded_step stepped
    rw [← same]
    exact wakeOk_irq ok guard.1
  | isr => exact wakeOk_isr ok stepped

end

end Steps

/-! ## Runs -/

/-- Every event of the whole is an event of the polling side, or leaves it alone. -/
theorem wakeStep_poll {w w' : WakeWorld} {e : WakeEvent} (stepped : wakeStep w e = some w') :
    w'.poll = w.poll ∨ ∃ e', pollStep w.poll e' = some w'.poll := by
  cases e with
  | poll e =>
    obtain ⟨poll, inner, outer⟩ := Option.bind_eq_some_iff.mp stepped
    have same : w'.poll = poll := by
      unfold wakePoll at outer
      split at outer
      · cases outer
        rfl
      · split at outer
        · cases outer
          rfl
        · contradiction
      · cases outer
        rfl
      · split at outer
        · cases outer
          rfl
        · contradiction
      · cases outer
        rfl
    exact .inr ⟨e, same ▸ inner⟩
  | clearEdge | irq =>
    left
    simp only [wakeStep] at stepped
    split at stepped
    · cases stepped
      rfl
    · contradiction
  | isr =>
    left
    simp only [wakeStep, wakeIsr] at stepped
    split at stepped
    · contradiction
    case h_4 =>
      split at stepped
      · cases stepped
        rfl
      · cases stepped
        rfl
    all_goals
      cases stepped
      rfl

/-- The polling side of a reachable state is reachable. -/
theorem wake_poll_reachable {allowed : WakeWorld → WakeEvent → Prop} {w : WakeWorld}
    (reached : wakeSystem.ReachableBy allowed w) : pollSystem.Reachable w.poll := by
  apply reached.project (f := WakeWorld.poll)
  · intro w start
    exact start.1
  · intro w e w' _ stepped
    rcases wakeStep_poll stepped with same | ⟨e', inner⟩
    · exact .inl same
    · exact .inr ⟨e', trivial, inner⟩

/-- The start: no frame waits. -/
theorem wakeOk_init {w : WakeWorld} (start : wakeSystem.init w) : WakeOk w := by
  obtain ⟨⟨⟨answer, ring, alloc, _, rx⟩, _, _, phase, _⟩, sched, _, _, isr, edge⟩ := start
  have empty : ¬ Ready w.poll.rx := by
    obtain ⟨cur, all⟩ := rxRingAlloc_spec alloc
    obtain ⟨_, _, _, _, _, desc⟩ := all 0 ring_positive
    rw [Ready, rx]
    show ¬ (slot ring.desc ring.curIndex).cown = true
    rw [cur, desc]
    exact Bool.false_ne_true
  refine ⟨fun handling => absurd isr handling, ?_, fun running => absurd phase running, ?_, ?_,
    fun _ => empty, fun _ ready => absurd ready empty⟩
  · exact fun scheduled => absurd (sched.symm.trans scheduled) Bool.false_ne_true
  · exact fun enabling => absurd (phase.symm.trans enabling) (by decide)
  · exact fun cleared => absurd (edge.symm.trans cleared) Bool.false_ne_true

/-- The law of the line in every run without an arrival in the window. -/
theorem wakeOk_run {w : WakeWorld} (reached : wakeSystem.ReachableBy Quiet w) : WakeOk w := by
  induction reached with
  | init start => exact wakeOk_init start
  | step before quiet stepped ih =>
    have polled := wake_poll_reachable before
    exact wakeOk_step ih (pollOk_run polled) (slots_run (poll_rx_reachable polled)) quiet stepped

/-- No wake-up is lost in a run in which no frame arrives between the ownership check of a
pass without work and the clearing of the edge. -/
theorem wake_up_kept {w : WakeWorld} (reached : wakeSystem.ReachableBy Quiet w) : ¬ Asleep w := by
  rintro ⟨ready, unscheduled, unmasked, unlatched⟩
  have ok := wakeOk_run reached
  have idle := ok.poll_idle unmasked
  have handled : w.isr = .idle := by
    by_contra handling
    exact Bool.false_ne_true (unmasked.symm.trans (ok.isr handling).2.1)
  have latched := ok.latched ⟨handled, unscheduled, .inl idle⟩ ready
  exact Bool.false_ne_true (unlatched.symm.trans latched)

/-- The whole before anything has happened, on a ring with evenly spaced buffers. -/
def wakeStart : WakeWorld where
  poll := pollStart
  sched := false
  masked := false
  latched := false
  isr := .idle
  edgeCleared := false

/-- The start is a start state. -/
theorem wakeStart_init : wakeSystem.init wakeStart :=
  ⟨⟨evenRing_init, rfl, rfl, rfl, rfl⟩, rfl, rfl, rfl, rfl, rfl⟩

/-- A frame arrives between passes, or after the edge is cleared. -/
def arrivesOutside (w : WakeWorld) : WakeEvent → Bool
  | .poll (.fill _) =>
    decide (w.poll.phase = .idle ∨ (w.poll.phase = .enabling ∧ w.edgeCleared = true))
  | _ => true

/-- Such an arrival is outside the window. -/
theorem arrivesOutside_sound (w : WakeWorld) (e : WakeEvent) (outside : arrivesOutside w e = true) :
    Quiet w e := by
  rintro ⟨length, rfl⟩ inside
  have phase := of_decide_eq_true outside
  rcases inside with ⟨receiving, _⟩ | empty | ⟨enabling, kept⟩
  · simp [receiving] at phase
  · simp [empty] at phase
  · simp [enabling, kept] at phase

/-- One frame is received, the next pass finds nothing, and a second frame arrives before
`enable_irq` opens the line, but after it has cleared the edge. -/
def keptTrace : List WakeEvent :=
  [.poll (.fill 100), .irq, .isr, .isr, .isr,
    .poll (.enter 64 64), .poll .count, .poll (.iterate (evenly starGswMaxRfdNum)),
    .poll (.iterate none), .poll .branch,
    .poll (.enter 64 64), .poll .count, .poll .branch, .poll .complete,
    .clearEdge, .poll (.fill 100), .poll .enable]

/-- The law after a whole round through interrupt, passes and `enable_irq`, with a frame that
waits. -/
theorem wake_up_kept_second_frame : ∃ w, wakeSystem.RunsBy Quiet wakeStart keptTrace w ∧
    Ready w.poll.rx ∧ w.masked = false ∧ ¬ Asleep w := by
  have ran : (wakeSystem.runBy arrivesOutside wakeStart keptTrace).any fun w =>
      (slot w.poll.rx.ring.desc w.poll.rx.ring.curIndex).cown && !w.masked := by decide +kernel
  simp only [Option.any_eq_true, Bool.and_eq_true, Bool.not_eq_true'] at ran
  obtain ⟨w, ran, ready, unmasked⟩ := ran
  have quiet := System.runsBy_of_runBy arrivesOutside_sound ran
  exact ⟨w, quiet, ready, unmasked, wake_up_kept (quiet.reachableBy (.init wakeStart_init))⟩

/-- The same round, but the second frame arrives after `netif_rx_complete` and before `enable_irq`
clears the edge. -/
def lostTrace : List WakeEvent :=
  [.poll (.fill 100), .irq, .isr, .isr, .isr,
    .poll (.enter 64 64), .poll .count, .poll (.iterate (evenly starGswMaxRfdNum)),
    .poll (.iterate none), .poll .branch,
    .poll (.enter 64 64), .poll .count, .poll .branch, .poll .complete,
    .poll (.fill 100), .clearEdge, .poll .enable]

/-- The second frame waits with polling not scheduled, the line open and no edge latched. -/
theorem wake_up_lost : ∃ w, wakeSystem.run wakeStart lostTrace = some w ∧
    wakeSystem.Reachable w ∧ Asleep w := by
  have ran : (wakeSystem.run wakeStart lostTrace).any fun w =>
      (slot w.poll.rx.ring.desc w.poll.rx.ring.curIndex).cown && !w.sched && !w.masked &&
        !w.latched := by decide +kernel
  simp only [Option.any_eq_true, Bool.and_eq_true, Bool.not_eq_true'] at ran
  obtain ⟨w, ran, ⟨⟨ready, unscheduled⟩, unmasked⟩, unlatched⟩ := ran
  exact ⟨w, ran, System.reachable_of_run (.init wakeStart_init) ran, ready, unscheduled, unmasked,
    unlatched⟩

end Fvs318g.Verif.Wake
