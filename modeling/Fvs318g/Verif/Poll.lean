import Fvs318g.Gsw.Poll
import Fvs318g.Verif.Receive

/-!
# Polling restarts the receive DMA

The flag `is_qf` is only looked at by passes that did some work. A pass with a positive
budget that begins on a stopped ring always does: either the positions differ, or they
agree and the descriptor there belongs to the processor. `PollOk` follows that argument
through the phases of `star_gsw_poll`.
-/

namespace Fvs318g.Verif.Poll

open Kernel Lib Gsw Receive

/-! ## What an event can do -/

/-- The events of polling, each with what it needs and what it leaves. -/
inductive PollMove (w : PollWorld) : PollEvent → PollWorld → Prop where
  /-- A frame is stored by a running hardware. -/
  | fill {length : Nat} {rx : RxWorld} (running : ¬ w.stopped = true)
      (inner : rxStep w.rx (.fill length) = some rx) :
      PollMove w (.fill length) { w with rx := rx }
  /-- The hardware meets a descriptor of the processor. -/
  | stop (running : w.stopped = false)
      (owned : (slot w.rx.ring.desc w.rx.fssd).cown = true) :
      PollMove w .stop { w with
        stopped := true, isQf := true
        log := { w.log with stoppedInside := w.log.stoppedInside || w.inLoop } }
  /-- The stack frees a buffer. -/
  | release {skb : SkBuff} {rx : RxWorld} (inner : rxStep w.rx (.release skb) = some rx) :
      PollMove w (.release skb) { w with rx := rx }
  /-- A pass begins. -/
  | enter {budget quota : Int} {rx : RxWorld} (idle : w.phase = .idle) (positive : 0 < budget)
      (allowed : 0 < quota) (inner : rxStep w.rx (.enter (min budget quota)) = some rx) :
      PollMove w (.enter budget quota) { w with
        rx := rx, phase := .receiving, budget := budget, quota := quota
        log := { stoppedAtEntry := w.stopped } }
  /-- The positions are compared. -/
  | count {rx : RxWorld} (receiving : w.phase = .receiving)
      (inner : rxStep w.rx .count = some rx) : PollMove w .count { w with rx := rx }
  /-- A descriptor is handled. -/
  | iterate {answer : Option Nat} {rx : RxWorld} (receiving : w.phase = .receiving)
      (inner : rxStep w.rx (.iterate answer) = some rx) :
      PollMove w (.iterate answer) { w with rx := rx }
  /-- The work is accounted for. -/
  | branch {workDone : Nat} (receiving : w.phase = .receiving)
      (returned : w.rx.pass = .returned workDone) :
      PollMove w .branch { w with
        budget := w.budget - workDone, quota := w.quota - workDone
        phase := if workDone ≠ 0 then (if w.isQf then .full else .idle) else .empty }
  /-- The flag is cleared. -/
  | clear (full : w.phase = .full) :
      PollMove w .clear { w with isQf := false, phase := .restarting }
  /-- The hardware is started. -/
  | start (restarting : w.phase = .restarting) :
      PollMove w .start
        { w with stopped := false, phase := .idle, log := { w.log with restarted := true } }
  /-- Polling is given up. -/
  | complete (empty : w.phase = .empty) :
      PollMove w .complete
        { w with phase := .enabling, log := { w.log with completed := true } }
  /-- The interrupt is enabled. -/
  | enable (enabling : w.phase = .enabling) : PollMove w .enable { w with phase := .idle }

variable {w w' : PollWorld} {e : PollEvent}

/-- A step is one of the moves. -/
theorem pollStep_move (stepped : pollStep w e = some w') : PollMove w e w' := by
  cases e with
  | fill length =>
    obtain ⟨running, mapped⟩ := Option.ite_none_left_eq_some.mp stepped
    obtain ⟨rx, inner, same⟩ := Option.map_eq_some_iff.mp mapped
    exact same ▸ .fill running inner
  | stop =>
    obtain ⟨guard, same⟩ := guarded_step stepped
    exact same ▸ .stop guard.1 guard.2
  | release skb =>
    obtain ⟨rx, inner, same⟩ := Option.map_eq_some_iff.mp stepped
    exact same ▸ .release inner
  | enter budget quota =>
    obtain ⟨guard, mapped⟩ := Option.ite_none_right_eq_some.mp stepped
    obtain ⟨rx, inner, same⟩ := Option.map_eq_some_iff.mp mapped
    exact same ▸ .enter guard.1 guard.2.1 guard.2.2 inner
  | count =>
    obtain ⟨receiving, mapped⟩ := Option.ite_none_right_eq_some.mp stepped
    obtain ⟨rx, inner, same⟩ := Option.map_eq_some_iff.mp mapped
    exact same ▸ .count receiving inner
  | iterate answer =>
    obtain ⟨receiving, mapped⟩ := Option.ite_none_right_eq_some.mp stepped
    obtain ⟨rx, inner, same⟩ := Option.map_eq_some_iff.mp mapped
    exact same ▸ .iterate receiving inner
  | branch =>
    simp only [pollStep] at stepped
    split at stepped
    next workDone receiving returned =>
      exact Option.some.inj stepped ▸ .branch receiving returned
    next => contradiction
  | clear =>
    obtain ⟨full, same⟩ := guarded_step stepped
    exact same ▸ .clear full
  | start =>
    obtain ⟨restarting, same⟩ := guarded_step stepped
    exact same ▸ .start restarting
  | complete =>
    obtain ⟨empty, same⟩ := guarded_step stepped
    exact same ▸ .complete empty
  | enable =>
    obtain ⟨enabling, same⟩ := guarded_step stepped
    exact same ▸ .enable enabling

/-! ## The polling side refines the receive side -/

/-- Every event of the polling side is an event of the receive ring, or leaves it alone. -/
theorem pollStep_rx (stepped : pollStep w e = some w') :
    w'.rx = w.rx ∨ ∃ e', rxStep w.rx e' = some w'.rx := by
  cases pollStep_move stepped with
  | fill _ inner | release inner | enter _ _ _ inner | count _ inner | iterate _ inner =>
    exact Or.inr ⟨_, inner⟩
  | stop | branch | clear | start | complete | enable => exact Or.inl rfl

/-- The receive ring of a reachable polling state is reachable. -/
theorem poll_rx_reachable {allowed : PollWorld → PollEvent → Prop}
    (reached : pollSystem.ReachableBy allowed w) : rxSystem.Reachable w.rx := by
  apply reached.project (f := PollWorld.rx)
  · intro w start
    exact start.1
  intro w e w' _ stepped
  rcases pollStep_rx stepped with same | ⟨e', inner⟩
  · exact .inl same
  · exact .inr ⟨e', trivial, inner⟩

/-! ## The positions -/

/-- There is nothing to do exactly when the positions agree at a descriptor of the hardware. -/
theorem rxCount_eq_zero {ring : RxRing} {fssdIndex : Nat} (cur : ring.curIndex < starGswMaxRfdNum)
    (zero : rxCount ring fssdIndex = 0) :
    fssdIndex = ring.curIndex ∧ (slot ring.desc ring.curIndex).cown = false := by
  unfold rxCount at zero
  split at zero
  · omega
  · split at zero
    · omega
    · split at zero
      · rename_i hardware
        exact ⟨by omega, hardware⟩
      · exact absurd zero (by decide)

/-- A pass never goes further than one turn. -/
theorem rxCount_le {ring : RxRing} {fssdIndex : Nat} (pos : fssdIndex < starGswMaxRfdNum) :
    rxCount ring fssdIndex ≤ starGswMaxRfdNum := by
  unfold rxCount
  split
  · omega
  · split
    · omega
    · split <;> omega

/-! ## The phases of `star_gsw_poll` -/

/-- While the hardware is stopped, `is_qf` says so and the processor owns the descriptor it
waits for. -/
def WaitsFull (w : PollWorld) : Prop :=
  w.stopped = true → w.isQf = true ∧ (slot w.rx.ring.desc w.rx.fssd).cown = true

/-- The pass owes a restart: the hardware was stopped at its begin or stopped inside. -/
def Owes (log : PassLog) : Prop := log.stoppedAtEntry = true ∨ log.stoppedInside = true

/-- What holds inside `star_gsw_receive_packet`. -/
def PassOk (w : PollWorld) : RxPass → Prop
  | .idle => False
  | .counting fssdIndex workToDo =>
    0 < workToDo ∧ fssdIndex < starGswMaxRfdNum ∧ WaitsFull w ∧
      (fssdIndex = w.rx.ring.curIndex →
        (slot w.rx.ring.desc w.rx.ring.curIndex).cown = true ∨ w.rx.fssd = w.rx.ring.curIndex)
  | .looping left workDone workToDo => 0 < workToDo ∧ (0 < left ∨ 0 < workDone)
  | .returned workDone => workDone = 0 → WaitsFull w ∧ ¬ Owes w.log

/-- What holds in each phase of `star_gsw_poll`. -/
def PhaseOk (w : PollWorld) : PollPhase → Prop
  | .idle => WaitsFull w ∧ (Owes w.log → w.log.restarted = true ∧ w.log.completed = false)
  | .receiving => (w.stopped = true → w.isQf = true) ∧ (Owes w.log → w.stopped = true) ∧
      w.log.completed = false ∧ PassOk w w.rx.pass
  | .full | .restarting => w.log.completed = false
  | .empty | .enabling => WaitsFull w ∧ ¬ Owes w.log

/-- What holds in every state of polling. -/
def PollOk (w : PollWorld) : Prop := PhaseOk w w.phase

section Steps

/-- A frame arrives. -/
theorem pollOk_fill {length : Nat} (slots : Slots w.rx) (ok : PollOk w)
    (stepped : pollStep w (.fill length) = some w') : PollOk w' := by
  cases pollStep_move stepped with
  | @fill _ rx running inner =>
    have waits : WaitsFull { w with rx := rx } := fun stopped => absurd stopped running
    cases rxStep_move inner with
    | fill hardware =>
      have inside := slots.pos
      cases phase : w.phase with
      | idle | empty | enabling =>
        simp only [PollOk, PhaseOk, phase] at ok ⊢
        exact ⟨waits, ok.2⟩
      | full | restarting => simpa only [PollOk, PhaseOk, phase] using ok
      | receiving =>
        simp only [PollOk, PhaseOk, phase] at ok ⊢
        obtain ⟨flag, owes, completed, pass⟩ := ok
        refine ⟨flag, owes, completed, ?_⟩
        cases at_ : w.rx.pass with
        | idle => simp [PassOk, at_] at pass
        | counting fssdIndex workToDo =>
          simp only [PassOk, at_] at pass ⊢
          obtain ⟨positive, below, _, here⟩ := pass
          refine ⟨positive, below, waits, fun same => ?_⟩
          -- a hardware that was here has just filled the descriptor
          left
          rcases here same with owned | there
          · rw [slot_setSlot _ inside]
            split
            · rfl
            · exact owned
          · rw [← there, slot_setSlot_self _ inside]
        | looping left workDone workToDo =>
          simp only [PassOk, at_] at pass ⊢
          exact pass
        | returned workDone =>
          simp only [PassOk, at_] at pass ⊢
          exact fun zero => ⟨waits, (pass zero).2⟩

/-- The hardware stops and `star_gsw_fsqf_isr` runs. -/
theorem pollOk_stop (ok : PollOk w) (stepped : pollStep w .stop = some w') : PollOk w' := by
  cases pollStep_move stepped with
  | stop _ owned =>
    cases phase : w.phase with
    | idle | empty | enabling =>
      have outside : w.inLoop = false := by simp [PollWorld.inLoop, phase]
      simp only [PollOk, PhaseOk, phase, outside, Bool.or_false] at ok ⊢
      exact ⟨fun _ => ⟨rfl, owned⟩, ok.2⟩
    | full | restarting => simpa only [PollOk, PhaseOk, phase] using ok
    | receiving =>
      simp only [PollOk, PhaseOk, phase] at ok ⊢
      obtain ⟨_, _, completed, pass⟩ := ok
      refine ⟨fun _ => trivial, fun _ => trivial, completed, ?_⟩
      cases at_ : w.rx.pass with
      | idle => simp [PassOk, at_] at pass
      | counting fssdIndex workToDo =>
        simp only [PassOk, at_] at pass ⊢
        exact ⟨pass.1, pass.2.1, fun _ => ⟨rfl, owned⟩, pass.2.2.2⟩
      | looping left workDone workToDo =>
        simp only [PassOk, at_] at pass ⊢
        exact pass
      | returned workDone =>
        have outside : w.inLoop = false := by simp [PollWorld.inLoop, at_]
        simp only [PassOk, at_, outside, Bool.or_false] at pass ⊢
        exact fun zero => ⟨fun _ => ⟨rfl, owned⟩, (pass zero).2⟩

/-- `star_gsw_poll` is called. -/
theorem pollOk_enter {budget quota : Int} (slots : Slots w.rx) (ok : PollOk w)
    (stepped : pollStep w (.enter budget quota) = some w') : PollOk w' := by
  cases pollStep_move stepped with
  | enter idle positive allowed inner =>
    simp only [PollOk, PhaseOk, idle] at ok ⊢
    obtain ⟨waits, _⟩ := ok
    cases rxStep_move inner with
    | enter =>
      refine ⟨fun stopped => (waits stopped).1, ?_, trivial, ?_⟩
      · rintro (atEntry | inside)
        · exact atEntry
        · exact absurd inside (by simp)
      · exact ⟨by omega, slots.pos, waits, fun same => .inr same⟩

/-- The pass compares the positions. -/
theorem pollOk_count (slots : Slots w.rx) (ok : PollOk w)
    (stepped : pollStep w .count = some w') : PollOk w' := by
  cases pollStep_move stepped with
  | count receiving inner =>
    simp only [PollOk, PhaseOk, receiving] at ok ⊢
    obtain ⟨flag, owes, completed, pass⟩ := ok
    refine ⟨flag, owes, completed, ?_⟩
    cases rxStep_move inner with
    | nothing counting zero =>
      rw [counting] at pass
      obtain ⟨_, _, waits, here⟩ := pass
      obtain ⟨same, hardware⟩ := rxCount_eq_zero slots.cur zero
      -- the hardware has not moved, so it cannot be stopped there
      have there : w.rx.fssd = w.rx.ring.curIndex := by
        rcases here same with owned | there
        · rw [hardware] at owned
          contradiction
        · exact there
      have running : ¬ w.stopped = true := by
        intro stopped
        have owned := (waits stopped).2
        rw [there, hardware] at owned
        contradiction
      exact fun _ => ⟨fun stopped => absurd stopped running, fun debt => running (owes debt)⟩
    | loop counting work =>
      rw [counting] at pass
      exact ⟨pass.1, .inl (by omega)⟩

/-- The pass handles one descriptor. -/
theorem pollOk_iterate {answer : Option Nat} (ok : PollOk w)
    (stepped : pollStep w (.iterate answer) = some w') : PollOk w' := by
  cases pollStep_move stepped with
  | iterate receiving inner =>
    simp only [PollOk, PhaseOk, receiving] at ok ⊢
    obtain ⟨flag, owes, completed, pass⟩ := ok
    refine ⟨flag, owes, completed, ?_⟩
    cases rxStep_move inner with
    | exhausted looping done =>
      rw [looping] at pass
      obtain ⟨positive, work⟩ := pass
      intro zero
      omega
    | notReady | reuse =>
      intro zero
      omega
    | replace looping =>
      rw [looping] at pass
      exact ⟨pass.1, .inr (by omega)⟩

/-- Back in `star_gsw_poll`. -/
theorem pollOk_branch (ok : PollOk w) (stepped : pollStep w .branch = some w') : PollOk w' := by
  cases pollStep_move stepped with
  | @branch workDone receiving returned =>
    simp only [PollOk, PhaseOk, receiving, returned] at ok
    obtain ⟨flag, owes, completed, pass⟩ := ok
    by_cases worked : workDone ≠ 0
    · by_cases full : w.isQf = true
      · rw [PollOk, if_pos worked, if_pos full]
        exact completed
      · have running : ¬ w.stopped = true := fun stopped => full (flag stopped)
        rw [PollOk, if_pos worked, if_neg full]
        exact ⟨fun stopped => absurd stopped running, fun debt => absurd (owes debt) running⟩
    · rw [PollOk, if_neg worked]
      exact pass (by omega)

/-- Every event keeps `PollOk`. -/
theorem pollOk_step {e : PollEvent} (slots : Slots w.rx) (ok : PollOk w)
    (stepped : pollStep w e = some w') : PollOk w' := by
  cases pollStep_move stepped with
  | fill => exact pollOk_fill slots ok stepped
  | stop => exact pollOk_stop ok stepped
  | release inner =>
    cases rxStep_move inner
    exact ok
  | enter => exact pollOk_enter slots ok stepped
  | count => exact pollOk_count slots ok stepped
  | iterate => exact pollOk_iterate ok stepped
  | branch => exact pollOk_branch ok stepped
  | clear full =>
    rw [PollOk, full] at ok
    exact ok
  | start restarting =>
    rw [PollOk, restarting] at ok
    exact ⟨fun stopped => absurd stopped Bool.false_ne_true, fun _ => ⟨rfl, ok⟩⟩
  | complete empty =>
    rw [PollOk, empty] at ok
    exact ok
  | enable enabling =>
    rw [PollOk, enabling] at ok
    exact ⟨ok.1, fun debt => absurd debt ok.2⟩

end Steps

/-- The phases in every state that is reached. -/
theorem pollOk_run {allowed : PollWorld → PollEvent → Prop}
    (reached : pollSystem.ReachableBy allowed w) : PollOk w := by
  induction reached with
  | init start =>
    obtain ⟨_, stopped, _, phase, log⟩ := start
    rw [PollOk, phase]
    refine ⟨fun full => ?_, fun debt => ?_⟩
    · rw [stopped] at full
      contradiction
    · rw [log] at debt
      rcases debt with atEntry | inside <;> contradiction
  | step before _ stepped ih => exact pollOk_step (slots_run (poll_rx_reachable before)) ih stepped

/-- A pass that began while the hardware was stopped does not call `netif_rx_complete`. -/
theorem PollOk.not_completed (ok : PollOk w) (atEntry : w.log.stoppedAtEntry = true) :
    w.log.completed = false := by
  cases phase : w.phase with
  | idle =>
    rw [PollOk, phase] at ok
    exact (ok.2 (.inl atEntry)).2
  | receiving =>
    rw [PollOk, phase] at ok
    exact ok.2.2.1
  | full | restarting =>
    rw [PollOk, phase] at ok
    exact ok
  | empty | enabling =>
    rw [PollOk, phase] at ok
    exact absurd (.inl atEntry) ok.2

/-- A pass that has returned has made the restart that it owed. -/
theorem PollOk.restarted (ok : PollOk w) (idle : w.phase = .idle) (debt : Owes w.log) :
    w.log.restarted = true := by
  rw [PollOk, idle] at ok
  exact (ok.2 debt).1

/-! ## A pass returns -/

/-- The events that are steps of the pass in progress. -/
def ofPass : PollEvent → Bool
  | .count | .iterate _ | .branch | .clear | .start | .complete | .enable => true
  | .fill _ | .stop | .release _ | .enter _ _ => false

/-- A bound on the number of steps that the pass in progress still has to make. -/
def stepsLeft (w : PollWorld) : Nat :=
  match w.phase with
  | .idle => 0
  | .restarting | .enabling => 1
  | .full | .empty => 2
  | .receiving =>
    match w.rx.pass with
    | .idle => 0
    | .returned _ => 3
    | .looping left _ _ => left + 4
    | .counting _ _ => starGswMaxRfdNum + 5

/-- A round of the loop can always be made, at the latest with a refused allocation. -/
theorem rxIterate_enabled {w : RxWorld} {left workDone : Nat} {workToDo : Int}
    (pass : w.pass = .looping left workDone workToDo) : ∃ w', rxIterate w none = some w' := by
  cases left with
  | zero => exact ⟨_, by rw [rxIterate, pass]⟩
  | succ left =>
    by_cases budget : workToDo ≤ workDone
    · exact ⟨_, by simp only [rxIterate, pass, budget, ↓reduceIte]; rfl⟩
    · by_cases ready : (slot w.ring.desc w.ring.curIndex).cown = true
      · exact ⟨_, by simp only [rxIterate, pass, budget, ready, ↓reduceIte, starGswAllocSkb]; rfl⟩
      · exact ⟨_, by simp only [rxIterate, pass, budget, ready, ↓reduceIte]; rfl⟩

/-- A pass in progress has a next step. -/
theorem pass_enabled (ok : PollOk w) (running : w.phase ≠ .idle) :
    ∃ e w', ofPass e = true ∧ pollStep w e = some w' := by
  cases phase : w.phase with
  | idle => exact absurd phase running
  | full => exact ⟨.clear, _, rfl, if_pos phase⟩
  | restarting => exact ⟨.start, _, rfl, if_pos phase⟩
  | empty => exact ⟨.complete, _, rfl, if_pos phase⟩
  | enabling => exact ⟨.enable, _, rfl, if_pos phase⟩
  | receiving =>
    simp only [PollOk, PhaseOk, phase] at ok
    obtain ⟨_, _, _, pass⟩ := ok
    cases at_ : w.rx.pass with
    | idle => simp [PassOk, at_] at pass
    | counting fssdIndex workToDo =>
      exact ⟨.count, _, rfl, by
        simp only [pollStep, phase, ↓reduceIte, rxStep, rxCompare, at_]
        rfl⟩
    | looping left workDone workToDo =>
      obtain ⟨rx, inner⟩ := rxIterate_enabled at_
      exact ⟨.iterate none, _, rfl, by
        simp only [pollStep, phase, ↓reduceIte, rxStep, inner]
        rfl⟩
    | returned workDone =>
      exact ⟨.branch, _, rfl, by
        simp only [pollStep, phase, at_]
        rfl⟩

/-- Each step of the pass brings its end nearer. -/
theorem pass_decreases (ok : PollOk w) (step : ofPass e = true) (stepped : pollStep w e = some w') :
    stepsLeft w' < stepsLeft w := by
  cases pollStep_move stepped with
  | fill | stop | release | enter => contradiction
  | count receiving inner =>
    simp only [PollOk, PhaseOk, receiving] at ok
    cases rxStep_move inner with
    | nothing counting => simp [stepsLeft, receiving, counting]
    | loop counting =>
      rw [counting] at ok
      have turn : rxCount w.rx.ring _ ≤ starGswMaxRfdNum := rxCount_le ok.2.2.2.2.1
      simp only [stepsLeft, receiving, counting]
      omega
  | iterate receiving inner =>
    cases rxStep_move inner with
    | exhausted looping | notReady looping | replace looping | reuse looping =>
      simp only [stepsLeft, receiving, looping]
      omega
  | @branch workDone receiving returned =>
    have before : stepsLeft w = 3 := by simp [stepsLeft, receiving, returned]
    rw [before]
    by_cases worked : workDone ≠ 0
    · by_cases full : w.isQf = true <;> simp [stepsLeft, worked, full]
    · simp [stepsLeft, worked]
  | clear phase | start phase | complete phase | enable phase => simp [stepsLeft, phase]

/-- What happens around a pass does not delay it. -/
theorem pass_unaffected (running : w.phase ≠ .idle) (other : ofPass e = false)
    (stepped : pollStep w e = some w') : stepsLeft w' = stepsLeft w := by
  cases pollStep_move stepped with
  | count | iterate | branch | clear | start | complete | enable => contradiction
  | fill _ inner | release inner =>
    cases rxStep_move inner
    rfl
  | stop => rfl
  | enter idle => exact absurd idle running

/-- A pass in progress has a next step, is brought nearer to its end by each of its steps and
is not delayed by anything else. -/
theorem pass_returns (ok : PollOk w) (running : w.phase ≠ .idle) :
    (∃ e w', ofPass e = true ∧ pollSystem.step w e = some w') ∧
      ∀ e w', pollSystem.step w e = some w' →
        if ofPass e = true then stepsLeft w' < stepsLeft w else stepsLeft w' = stepsLeft w := by
  refine ⟨pass_enabled ok running, ?_⟩
  intro e w' stepped
  by_cases step : ofPass e = true
  · rw [if_pos step]
    exact pass_decreases ok step stepped
  · rw [if_neg step]
    exact pass_unaffected running (Bool.eq_false_iff.mpr step) stepped

/-! ## The record of a pass -/

/-- `net_rx_action` calls `star_gsw_poll`. -/
def beginsPass : PollEvent → Bool
  | .enter _ _ => true
  | _ => false

/-- The hardware stops during a receive loop of the run. -/
def StopsInLoop (w : PollWorld) : List PollEvent → Prop
  | [] => False
  | e :: es => (e = .stop ∧ w.inLoop = true) ∨
      ∃ w', pollSystem.step w e = some w' ∧ StopsInLoop w' es

/-- What the record of a pass says of the events since. -/
structure LogsRun (w : PollWorld) (es : List PollEvent) (w' : PollWorld) : Prop where
  /-- The begin of the pass is not touched. -/
  atEntry : w'.log.stoppedAtEntry = w.log.stoppedAtEntry
  /-- The stops during the receive loop. -/
  inside : w'.log.stoppedInside = true ↔ w.log.stoppedInside = true ∨ StopsInLoop w es
  /-- The restarts. -/
  restarted : w'.log.restarted = true ↔ w.log.restarted = true ∨ .start ∈ es
  /-- The calls of `netif_rx_complete`. -/
  completed : w'.log.completed = true ↔ w.log.completed = true ∨ .complete ∈ es

/-- An event of the pass, or around it, is recorded. -/
theorem logsRun_step (stays : beginsPass e = false) (stepped : pollStep w e = some w') :
    LogsRun w [e] w' := by
  cases pollStep_move stepped with
  | enter => contradiction
  | fill | stop | release | count | iterate | branch | clear | start | complete | enable =>
    constructor <;> simp [StopsInLoop]

/-- The record of a run without a further pass. -/
theorem logsRun_run {es : List PollEvent} (stays : ∀ e ∈ es, beginsPass e = false)
    (ran : pollSystem.run w es = some w') : LogsRun w es w' := by
  induction es generalizing w with
  | nil =>
    cases ran
    constructor <;> simp [StopsInLoop]
  | cons e es ih =>
    obtain ⟨middle, stepped, rest⟩ := Option.bind_eq_some_iff.mp ran
    have first := logsRun_step (stays e List.mem_cons_self) stepped
    have later := ih (fun d member => stays d (List.mem_cons_of_mem e member)) rest
    constructor
    case atEntry => exact later.atEntry.trans first.atEntry
    case inside => rw [later.inside, first.inside]; simp [StopsInLoop, stepped, or_assoc]
    case restarted => rw [later.restarted, first.restarted]; simp [or_assoc]
    case completed => rw [later.completed, first.completed]; simp [or_assoc]

/-! ## Every pass restarts a stopped hardware -/

/-- In every reachable state: a pass that began while the hardware was stopped does not
call `netif_rx_complete`; a pass that has returned has executed `HAL_GSW_FS_DMA_START` if
the hardware was stopped when it began or stopped during its receive loop; and a pass that
has not returned has a next step, is brought nearer to its end by each of its steps and is
not delayed by anything else. The last part says the first two of the events of a pass that
begins in the state. -/
theorem poll_restarts_dma {w : PollWorld} (reached : pollSystem.Reachable w) :
    (w.log.stoppedAtEntry = true → w.log.completed = false) ∧
    (w.phase = .idle → w.log.stoppedAtEntry = true ∨ w.log.stoppedInside = true →
      w.log.restarted = true) ∧
    (w.phase ≠ .idle → (∃ e w', ofPass e = true ∧ pollSystem.step w e = some w') ∧
      ∀ e w', pollSystem.step w e = some w' →
        if ofPass e = true then stepsLeft w' < stepsLeft w else stepsLeft w' = stepsLeft w) ∧
    ∀ budget quota w₁ es w', pollSystem.step w (.enter budget quota) = some w₁ →
      (∀ e ∈ es, beginsPass e = false) → pollSystem.run w₁ es = some w' →
        (w.stopped = true → .complete ∉ es) ∧
        (w'.phase = .idle → w.stopped = true ∨ StopsInLoop w₁ es → .start ∈ es) := by
  refine ⟨(pollOk_run reached).not_completed, (pollOk_run reached).restarted,
    pass_returns (pollOk_run reached), ?_⟩
  intro budget quota w₁ es w' entered stays ran
  have ok' : PollOk w' := pollOk_run (System.reachable_of_run (.step reached trivial entered) ran)
  have fresh : w₁.log = { stoppedAtEntry := w.stopped } := by
    have begun : pollStep w (.enter budget quota) = some w₁ := entered
    cases pollStep_move begun
    rfl
  have logs := logsRun_run stays ran
  have atEntry := logs.atEntry
  have inside := logs.inside
  have restarted := logs.restarted
  have completed := logs.completed
  simp only [fresh, Bool.false_eq_true, false_or] at atEntry inside restarted completed
  constructor
  · intro stopped called
    exact Bool.false_ne_true ((ok'.not_completed (atEntry.trans stopped)).symm.trans
      (completed.mpr called))
  · intro idle debt
    rw [← restarted]
    exact ok'.restarted idle (debt.imp atEntry.trans inside.mpr)

/-- Polling before anything has happened, on a ring with evenly spaced buffers. -/
def pollStart : PollWorld where
  rx := rxInit evenRing
  stopped := false
  isQf := false
  phase := .idle
  budget := 0
  quota := 0
  log := {}

/-- The ring fills up, the hardware stops, and a pass with a budget of one frame runs. -/
def fullTrace : List PollEvent :=
  List.replicate starGswMaxRfdNum (.fill 100) ++
    [.stop, .enter 1 1, .count, .iterate (evenly starGswMaxRfdNum), .iterate none, .branch,
      .clear, .start]

/-- The law at the end of a pass that began while the hardware was stopped. -/
theorem poll_restarts_dma_full_ring : ∃ w, pollSystem.run pollStart fullTrace = some w ∧
    w.phase = .idle ∧ w.log.stoppedAtEntry = true ∧ w.log.restarted = true ∧
      w.log.completed = false := by
  have ran : (pollSystem.run pollStart fullTrace).any fun w =>
      decide (w.phase = .idle) && w.log.stoppedAtEntry := by decide +kernel
  simp only [Option.any_eq_true, Bool.and_eq_true, decide_eq_true_eq] at ran
  obtain ⟨w, ran, idle, stopped⟩ := ran
  have start : pollSystem.init pollStart := ⟨evenRing_init, rfl, rfl, rfl, rfl⟩
  obtain ⟨waits, restarts, _⟩ := poll_restarts_dma (System.reachable_of_run (.init start) ran)
  exact ⟨w, ran, idle, stopped, restarts idle (.inl stopped), waits stopped⟩

end Fvs318g.Verif.Poll
