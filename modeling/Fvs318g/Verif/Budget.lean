import Fvs318g.Verif.Poll
import Fvs318g.Verif.ReceiveOrder

/-!
# The budget of a polling pass

A pass counts its work before it looks at the ownership of a descriptor, and it takes the
number of rounds from the hardware's position. The two agree as long as the position and
the flags are of one time: a pass then handles as many frames as were in the ring when it
read the position, or as many as its budget allows, and counts each of them once.

The position does not tell an empty ring from a full one, so for equal positions the pass
looks at the flag of its next descriptor. A frame that is stored between the two looks at
an empty ring makes it a full one: the pass goes for a whole turn, finds the second
descriptor with the hardware and has counted it.
-/

namespace Fvs318g.Verif.Budget

open Kernel Lib Gsw Receive ReceiveOrder Poll

/-! ## The record of a pass -/

/-- The frames in the ring: the descriptors that the processor owns. -/
def framesIn (ring : RxRing) : Nat :=
  (List.range starGswMaxRfdNum).countP fun i => (slot ring.desc i).cown

/-- The descriptors that went back to the hardware from one state to the next. -/
def gaveBack (before after : RxRing) : Nat :=
  (List.range starGswMaxRfdNum).countP fun i =>
    (slot before.desc i).cown && !(slot after.desc i).cown

/-- What is observed of the pass in progress, or of the last one. -/
structure PassRecord where
  /-- The frames in the ring when the pass read the hardware's position. -/
  frames : Nat := 0
  /-- `work_to_do`. -/
  workToDo : Int := 0
  /-- The frames handed up by the loop. -/
  handedUp : Nat := 0
  /-- The descriptors given back to the hardware by the loop. -/
  givenBack : Nat := 0
  /-- `work_done` when `star_gsw_receive_packet` had returned. -/
  workDone : Option Nat := none
  /-- `star_gsw_poll` has called `enable_irq`. -/
  enabled : Bool := false
  /-- What `star_gsw_poll` has returned. -/
  result : Option Nat := none
  deriving DecidableEq, Repr

/-- The record after an event. -/
def PassRecord.follow (record : PassRecord) (w : PollWorld) (e : PollEvent) (w' : PollWorld) :
    PassRecord :=
  match e with
  | .enter budget quota => { frames := framesIn w.rx.ring, workToDo := min budget quota }
  | .iterate _ => { record with
      handedUp := record.handedUp + (w'.rx.handed.length - w.rx.handed.length)
      givenBack := record.givenBack + gaveBack w.rx.ring w'.rx.ring }
  | .branch => { record with
      workDone := match w.rx.pass with
        | .returned workDone => some workDone
        | _ => none
      -- without queue-full the function returns from here
      result := if w'.phase = .idle then some 1 else none }
  | .start => { record with result := some 1 }
  | .enable => { record with enabled := true, result := some 0 }
  | _ => record

/-- Polling with the record of its pass. -/
structure RecordedPoll where
  /-- The polling side. -/
  poll : PollWorld
  /-- The record of the pass. -/
  record : PassRecord

/-- Polling with the record of its pass as a transition system. -/
def recordedSystem : System RecordedPoll PollEvent where
  init s := pollSystem.init s.poll ∧ s.record = {}
  step s e := (pollSystem.step s.poll e).map fun w => ⟨w, s.record.follow s.poll e w⟩

variable {e : PollEvent}

/-- A recorded step is a step of polling, with its record. -/
theorem recorded_step {s s' : RecordedPoll} (stepped : recordedSystem.step s e = some s') :
    pollStep s.poll e = some s'.poll ∧ s'.record = s.record.follow s.poll e s'.poll := by
  obtain ⟨w, inner, same⟩ := Option.map_eq_some_iff.mp stepped
  rw [← same]
  exact ⟨inner, rfl⟩

variable {s : RecordedPoll}

/-- What is recorded happens to polling. -/
theorem recorded_reachable {allowed : RecordedPoll → PollEvent → Prop}
    (reached : recordedSystem.ReachableBy allowed s) : pollSystem.Reachable s.poll := by
  apply reached.project (f := RecordedPoll.poll)
  · intro s start
    exact start.1
  · intro s e s' _ stepped
    exact .inr ⟨e, trivial, (recorded_step stepped).1⟩

/-! ## What the pass owes -/

/-- Every allocation that the event asks for succeeds. -/
def AllocSucceeds (w : PollWorld) : PollEvent → Prop
  | .iterate answer => ¬ AllocFails w.rx (.iterate answer)
  | _ => True

/-- A frame is stored after a pass has read a position equal to its own, and before it looks
at the flag of its next descriptor. -/
def Overtaken (w : PollWorld) (e : PollEvent) : Prop :=
  (∃ length, e = .fill length) ∧ ∃ workToDo, w.rx.pass = .counting w.rx.ring.curIndex workToDo

/-- The accounting of a pass. -/
structure Budgeted (s : RecordedPoll) : Prop where
  /-- A round within the budget finds a descriptor of the processor. -/
  ready : ∀ left workDone workToDo, s.poll.rx.pass = .looping (left + 1) workDone workToDo →
    ¬ workToDo ≤ workDone → (slot s.poll.rx.ring.desc s.poll.rx.ring.curIndex).cown = true
  /-- The work counted is what was handed up and given back, and it is the smaller of the
  budget and the frames that were in the ring. -/
  worked : ∀ n, s.record.workDone = some n → n = s.record.handedUp ∧ n = s.record.givenBack ∧
    (n : Int) = min s.record.workToDo s.record.frames
  /-- The function returns 0, and has enabled the interrupt, exactly when that is zero. -/
  returns : ∀ r, s.record.result = some r → (r = 0 ↔ s.record.workDone = some 0) ∧
    (s.record.enabled = true ↔ s.record.workDone = some 0) ∧
    (s.record.workDone = some 0 ↔ s.record.frames = 0)
  /-- A pass that is over has counted its work and has returned. -/
  ended : s.poll.phase = .idle → 0 < s.record.workToDo →
    s.record.workDone.isSome = true ∧ s.record.result.isSome = true

/-! ## The window and the count -/

/-- The ring holds the frames that were stored and not yet handed up. -/
theorem framesIn_window {w : RxWorld} (window : Window w) :
    framesIn w.ring = w.stored - w.handed.length := window.owned.count

/-- The flag of the next descriptor says whether there is a frame to hand up. -/
theorem cown_window {w : RxWorld} (window : Window w) :
    (slot w.ring.desc w.ring.curIndex).cown = decide (w.handed.length < w.stored) := by
  rw [window.cur]
  exact window.owned.taker ring_positive

/-- For a position that was the hardware's when the ring held `frames` frames, the rounds are
that many, unless the ring was empty then and is no longer. -/
theorem rxCount_window {w : RxWorld} {frames : Nat} (window : Window w)
    (kept : w.handed.length + frames ≤ w.stored) (empty : frames = 0 → w.stored = w.handed.length) :
    rxCount w.ring ((w.handed.length + frames) % starGswMaxRfdNum) = frames := by
  have turn := window.owned.turn
  have flag := cown_window window
  have cur := window.cur
  simp only [starGswMaxRfdNum] at turn cur ⊢
  unfold rxCount
  by_cases none : frames = 0
  · -- equal positions at a descriptor of the hardware
    have hardware : (slot w.ring.desc w.ring.curIndex).cown = false := by
      rw [flag, empty none]
      exact decide_eq_false (Nat.lt_irrefl _)
    rw [none, Nat.add_zero, ← cur, if_neg (Nat.lt_irrefl _), if_neg (Nat.lt_irrefl _),
      if_pos hardware]
  · have owned : ¬ (slot w.ring.desc w.ring.curIndex).cown = false := by
      rw [flag]
      simp only [decide_eq_false_iff_not, Nat.not_lt]
      omega
    rw [if_neg owned]
    simp only [starGswMaxRfdNum]
    split
    · omega
    · split <;> omega

/-- A round that changes nothing in the ring gives nothing back. -/
theorem gaveBack_self (ring : RxRing) : gaveBack ring ring = 0 := by
  simp [gaveBack]

/-- A round that hands up a frame gives its descriptor back and no other. -/
theorem gaveBack_replace {w : RxWorld} {skb : SkBuff} (slots : Slots w)
    (ready : (slot w.ring.desc w.ring.curIndex).cown = true) :
    gaveBack w.ring (rxReplace w skb).ring = 1 := by
  obtain ⟨old, here, _⟩ := slots.held _ slots.cur
  rw [rxReplace_eq here]
  apply countP_range_single slots.cur
  intro j _
  by_cases same : j = w.ring.curIndex
  · simp [same, ready, slots.cur]
  · rw [slot_setSlot_ne _ same]
    simp [same]

/-- A round that hands up a frame hands up one, and none is stored by it. -/
theorem rxReplace_counts {w : RxWorld} (slots : Slots w) (skb : SkBuff) :
    (rxReplace w skb).handed.length = w.handed.length + 1 ∧
      (rxReplace w skb).stored = w.stored := by
  obtain ⟨old, here, _⟩ := slots.held _ slots.cur
  rw [rxReplace_eq here]
  simp

/-! ## The accounting inside `star_gsw_receive_packet` -/

/-- The work of a pass is what it handed up and gave back, the smaller of budget and frames. -/
def Done (record : PassRecord) (n : Nat) : Prop :=
  record.handedUp = n ∧ record.givenBack = n ∧ (n : Int) = min record.workToDo record.frames

/-- What the record says at each place of a pass. -/
def PassAccount (w : RxWorld) (record : PassRecord) : RxPass → Prop
  | .idle => False
  | .counting fssdIndex workToDo =>
    workToDo = record.workToDo ∧ record.handedUp = 0 ∧ record.givenBack = 0 ∧
      fssdIndex = (w.handed.length + record.frames) % starGswMaxRfdNum ∧
      w.handed.length + record.frames ≤ w.stored ∧
      (record.frames = 0 → w.stored = w.handed.length)
  | .looping left workDone workToDo =>
    workToDo = record.workToDo ∧ record.handedUp = workDone ∧ record.givenBack = workDone ∧
      left + workDone = record.frames ∧ (workDone : Int) ≤ workToDo ∧
      w.handed.length + left ≤ w.stored
  | .returned workDone => Done record workDone

section Pass

variable {w w' : RxWorld} {record : PassRecord}

/-- A frame that does not overtake the pass keeps its account. -/
theorem passAccount_fill {length : Nat} (window : Window w)
    (inTime : ∀ workToDo, w.pass ≠ .counting w.ring.curIndex workToDo)
    (account : PassAccount w record w.pass) (stepped : rxStep w (.fill length) = some w') :
    PassAccount w' record w'.pass := by
  cases rxStep_move stepped with
  | fill =>
    show PassAccount _ record w.pass
    cases pass : w.pass with
    | idle =>
      rw [pass] at account
      exact account
    | counting fssdIndex workToDo =>
      rw [pass] at account
      obtain ⟨budget, handedUp, givenBack, position, kept, _⟩ := account
      refine ⟨budget, handedUp, givenBack, position, Nat.le_succ_of_le kept, ?_⟩
      -- an empty ring at the read means equal positions
      intro none
      have same : fssdIndex = w.ring.curIndex := by rw [position, none, Nat.add_zero, window.cur]
      exact absurd (same ▸ pass) (inTime workToDo)
    | looping left workDone workToDo =>
      rw [pass] at account
      obtain ⟨budget, handedUp, givenBack, rounds, within, kept⟩ := account
      exact ⟨budget, handedUp, givenBack, rounds, within, Nat.le_succ_of_le kept⟩
    | returned workDone =>
      rw [pass] at account
      exact account

/-- The pass reads the hardware's position. -/
theorem passAccount_enter {workToDo : Int} (window : Window w)
    (stepped : rxStep w (.enter workToDo) = some w') :
    PassAccount w' { frames := framesIn w.ring, workToDo := workToDo } w'.pass := by
  have le := window.owned.le
  cases rxStep_move stepped with
  | enter =>
    have all : w.handed.length + (w.stored - w.handed.length) = w.stored := Nat.add_sub_cancel' le
    refine ⟨rfl, rfl, rfl, ?_, ?_, ?_⟩
    · show w.fssd = (w.handed.length + framesIn w.ring) % starGswMaxRfdNum
      rw [framesIn_window window, all]
      exact window.pos
    · show w.handed.length + framesIn w.ring ≤ w.stored
      rw [framesIn_window window, all]
    · show framesIn w.ring = 0 → w.stored = w.handed.length
      rw [framesIn_window window]
      omega

/-- The comparison finds the frames that were in the ring at the read. -/
theorem passAccount_count (window : Window w) (positive : 0 < record.workToDo)
    (account : PassAccount w record w.pass) (stepped : rxStep w .count = some w') :
    PassAccount w' record w'.pass := by
  cases rxStep_move stepped with
  | nothing pass zero =>
    rw [pass] at account
    obtain ⟨_, handedUp, givenBack, position, kept, empty⟩ := account
    rw [position, rxCount_window window kept empty] at zero
    refine ⟨handedUp, givenBack, ?_⟩
    rw [zero]
    omega
  | loop pass =>
    rw [pass] at account
    obtain ⟨budget, handedUp, givenBack, position, kept, empty⟩ := account
    rw [position, rxCount_window window kept empty]
    refine ⟨budget, handedUp, givenBack, Nat.add_zero _, ?_, kept⟩
    rw [budget]
    omega

/-- A round of the loop counts a frame that it hands up, or ends the loop. -/
theorem passAccount_iterate {answer : Option Nat} (slots : Slots w) (window : Window w)
    (succeeds : ¬ AllocFails w (.iterate answer)) (account : PassAccount w record w.pass)
    (stepped : rxStep w (.iterate answer) = some w') :
    PassAccount w' { record with
      handedUp := record.handedUp + (w'.handed.length - w.handed.length)
      givenBack := record.givenBack + gaveBack w.ring w'.ring } w'.pass := by
  cases rxStep_move stepped with
  | exhausted pass done =>
    rw [pass] at account
    obtain ⟨budget, handedUp, givenBack, rounds, within, _⟩ := account
    refine ⟨?_, ?_, ?_⟩
    · simp [handedUp]
    · simp [givenBack, gaveBack_self]
    · rw [budget] at done within
      show _ = min record.workToDo (record.frames : Int)
      omega
  | notReady pass budget hardware =>
    rw [pass] at account
    obtain ⟨_, _, _, _, _, kept⟩ := account
    -- the frames of the remaining rounds are in the ring
    rw [cown_window window, decide_eq_false_iff_not] at hardware
    omega
  | @replace _ _ _ _ skb pass budget ready =>
    rw [pass] at account
    obtain ⟨sameBudget, handedUp, givenBack, rounds, within, kept⟩ := account
    obtain ⟨grown, stored⟩ := rxReplace_counts slots skb
    refine ⟨sameBudget, ?_, ?_, ?_, ?_, ?_⟩
    · simp only [grown, handedUp]
      omega
    · simp only [gaveBack_replace slots ready, givenBack]
    · simp only
      omega
    · omega
    · simp only [grown, stored]
      omega
  | reuse pass budget ready => exact absurd ⟨rfl, ready, _, _, _, pass, budget⟩ succeeds

end Pass

/-! ## The accounting of `star_gsw_poll` -/

/-- No pass of `star_gsw_receive_packet` is in progress. -/
def Between : RxPass → Prop
  | .idle | .returned _ => True
  | .counting .. | .looping .. => False

/-- The work of a pass has been accounted for. -/
def Settled (record : PassRecord) (n : Nat) : Prop :=
  0 < record.workToDo ∧ record.workDone = some n ∧ Done record n

/-- The record before `star_gsw_poll` returns. -/
def Open (record : PassRecord) : Prop := record.enabled = false ∧ record.result = none

/-- What the record says in each phase of `star_gsw_poll`. -/
def PhaseAccount (s : RecordedPoll) : PollPhase → Prop
  | .receiving => 0 < s.record.workToDo ∧ s.record.workDone = none ∧ Open s.record ∧
      PassAccount s.poll.rx s.record s.poll.rx.pass
  | .full | .restarting => Between s.poll.rx.pass ∧ Open s.record ∧ ∃ n, n ≠ 0 ∧ Settled s.record n
  | .empty | .enabling => Between s.poll.rx.pass ∧ Open s.record ∧ Settled s.record 0
  | .idle => Between s.poll.rx.pass ∧ (s.record = {} ∨ ∃ n, Settled s.record n ∧
      s.record.enabled = decide (n = 0) ∧ s.record.result = some (if n = 0 then 0 else 1))

/-- What the record says in every state of polling. -/
def Account (s : RecordedPoll) : Prop := PhaseAccount s s.poll.phase

/-- What happens outside the pass does not show in the account, unless the pass is in
progress. -/
theorem account_frame {w : PollWorld} (account : Account s) (phase : w.phase = s.poll.phase)
    (pass : w.rx.pass = s.poll.rx.pass)
    (inside : PassAccount s.poll.rx s.record s.poll.rx.pass → PassAccount w.rx s.record w.rx.pass) :
    Account ⟨w, s.record⟩ := by
  rw [Account] at account ⊢
  rw [show (RecordedPoll.mk w s.record).poll.phase = s.poll.phase from phase]
  cases at_ : s.poll.phase with
  | receiving =>
    rw [at_] at account
    obtain ⟨positive, open_, unsettled, receiving⟩ := account
    exact ⟨positive, open_, unsettled, inside receiving⟩
  | idle | full | restarting | empty | enabling =>
    rw [at_] at account
    refine ⟨?_, account.2⟩
    show Between w.rx.pass
    rw [pass]
    exact account.1

/-- The window and the slots are kept while every allocation succeeds. -/
theorem window_poll {w w' : PollWorld} (slots : Slots w.rx) (window : Window w.rx)
    (succeeds : AllocSucceeds w e) (stepped : pollStep w e = some w') :
    Slots w'.rx ∧ Window w'.rx := by
  have inner : ∀ {e' : RxEvent}, rxStep w.rx e' = some w'.rx → ¬ AllocFails w.rx e' →
      Slots w'.rx ∧ Window w'.rx := fun moved allowed =>
    ⟨slots_step slots moved, window_step slots window allowed moved⟩
  cases pollStep_move stepped with
  | iterate _ moved => exact inner moved succeeds
  | fill _ moved | release moved | enter _ _ _ moved | count _ moved =>
    exact inner moved fun fails => nomatch fails.1
  | stop | branch | clear | start | complete | enable => exact ⟨slots, window⟩

/-- The work of a pass that has returned is accounted for. -/
theorem account_branch {workDone : Nat} (account : Account s)
    (receiving : s.poll.phase = .receiving) (returned : s.poll.rx.pass = .returned workDone) :
    let w : PollWorld := { s.poll with
      budget := s.poll.budget - workDone, quota := s.poll.quota - workDone
      phase := if workDone ≠ 0 then (if s.poll.isQf then .full else .idle) else .empty }
    Account ⟨w, s.record.follow s.poll .branch w⟩ := by
  rw [Account, receiving] at account
  obtain ⟨positive, _, unreturned, inside⟩ := account
  rw [returned] at inside
  have between : Between s.poll.rx.pass := by
    rw [returned]
    exact trivial
  by_cases worked : workDone ≠ 0
  · by_cases full : s.poll.isQf = true
    · simp only [Account, PassRecord.follow, returned, if_pos worked, if_pos full]
      exact ⟨between, ⟨unreturned.1, rfl⟩, workDone, worked, positive, rfl, inside⟩
    · simp only [Account, PassRecord.follow, returned, if_pos worked, if_neg full]
      refine ⟨between, .inr ⟨workDone, ⟨positive, rfl, inside⟩, ?_, ?_⟩⟩
      · show s.record.enabled = _
        rw [unreturned.1, decide_eq_false worked]
      · rw [if_neg worked]
        rfl
  · simp only [Account, PassRecord.follow, returned, if_neg worked]
    have nothing : workDone = 0 := by omega
    rw [nothing] at inside ⊢
    exact ⟨between, ⟨unreturned.1, rfl⟩, positive, rfl, inside⟩

/-- Every event keeps the account, unless a frame overtakes the pass. -/
theorem account_step {s s' : RecordedPoll} (slots : Slots s.poll.rx) (window : Window s.poll.rx)
    (account : Account s) (succeeds : AllocSucceeds s.poll e) (inTime : ¬ Overtaken s.poll e)
    (stepped : recordedSystem.step s e = some s') : Account s' := by
  obtain ⟨moved, record⟩ := recorded_step stepped
  obtain ⟨w', record'⟩ := s'
  simp only at moved record
  rw [record]
  cases pollStep_move moved with
  | fill _ inner =>
    have kept : ∀ workToDo, s.poll.rx.pass ≠ .counting s.poll.rx.ring.curIndex workToDo :=
      fun workToDo pass => inTime ⟨⟨_, rfl⟩, workToDo, pass⟩
    refine account_frame account ?_ ?_ ?_
    · rfl
    · cases rxStep_move inner
      rfl
    · intro inside
      exact passAccount_fill window kept inside inner
  | stop => exact account_frame account rfl rfl id
  | release inner =>
    cases rxStep_move inner
    apply account_frame account rfl rfl
    intro inside
    show PassAccount _ s.record s.poll.rx.pass
    cases pass : s.poll.rx.pass <;> (rw [pass] at inside; exact inside)
  | enter idle positive allowed inner =>
    refine ⟨?_, rfl, ⟨rfl, rfl⟩, passAccount_enter window inner⟩
    show 0 < min _ _
    omega
  | count receiving inner =>
    rw [Account, receiving] at account
    obtain ⟨positive, unsettled, unreturned, inside⟩ := account
    show PhaseAccount _ s.poll.phase
    rw [receiving]
    exact ⟨positive, unsettled, unreturned, passAccount_count window positive inside inner⟩
  | iterate receiving inner =>
    rw [Account, receiving] at account
    obtain ⟨positive, unsettled, unreturned, inside⟩ := account
    show PhaseAccount _ s.poll.phase
    rw [receiving]
    exact ⟨positive, unsettled, unreturned, passAccount_iterate slots window succeeds inside inner⟩
  | branch receiving returned => exact account_branch account receiving returned
  | clear full =>
    rw [Account, full] at account
    exact account
  | start restarting =>
    rw [Account, restarting] at account
    obtain ⟨between, unreturned, n, worked, settled⟩ := account
    refine ⟨between, .inr ⟨n, settled, ?_, ?_⟩⟩
    · show s.record.enabled = _
      rw [unreturned.1, decide_eq_false worked]
    · rw [if_neg worked]
      rfl
  | complete empty =>
    rw [Account, empty] at account
    exact account
  | enable enabling =>
    rw [Account, enabling] at account
    obtain ⟨between, unreturned, settled⟩ := account
    exact ⟨between, .inr ⟨0, settled, rfl, rfl⟩⟩

/-- What was counted has been settled. -/
theorem Account.settled {n : Nat} (account : Account s) (counted : s.record.workDone = some n) :
    Settled s.record n := by
  rw [Account] at account
  cases phase : s.poll.phase with
  | receiving =>
    rw [phase] at account
    rw [account.2.1] at counted
    contradiction
  | full | restarting =>
    rw [phase] at account
    obtain ⟨_, _, m, _, settled⟩ := account
    have same : m = n := Option.some.inj (settled.2.1.symm.trans counted)
    exact same ▸ settled
  | empty | enabling =>
    rw [phase] at account
    obtain ⟨_, _, settled⟩ := account
    have same : 0 = n := Option.some.inj (settled.2.1.symm.trans counted)
    exact same ▸ settled
  | idle =>
    rw [phase] at account
    rcases account.2 with fresh | ⟨m, settled, _⟩
    · rw [fresh] at counted
      contradiction
    · have same : m = n := Option.some.inj (settled.2.1.symm.trans counted)
      exact same ▸ settled

/-- What was returned tells whether there was work, and the interrupt is enabled if not. -/
theorem Account.returned {r : Nat} (account : Account s) (result : s.record.result = some r) :
    ∃ n, Settled s.record n ∧ s.record.enabled = decide (n = 0) ∧ r = if n = 0 then 0 else 1 := by
  rw [Account] at account
  cases phase : s.poll.phase with
  | receiving =>
    rw [phase] at account
    rw [account.2.2.1.2] at result
    contradiction
  | full | restarting | empty | enabling =>
    rw [phase] at account
    rw [account.2.1.2] at result
    contradiction
  | idle =>
    rw [phase] at account
    rcases account.2 with fresh | ⟨n, settled, enabled, returned⟩
    · rw [fresh] at result
      contradiction
    · exact ⟨n, settled, enabled, Option.some.inj (result.symm.trans returned)⟩

/-- The account says what the pass owes. -/
theorem Account.budgeted (window : Window s.poll.rx) (account : Account s) : Budgeted s where
  ready left workDone workToDo pass _ := by
    rw [Account] at account
    cases phase : s.poll.phase with
    | receiving =>
      rw [phase, PhaseAccount, pass] at account
      obtain ⟨_, _, _, _, _, _, _, _, kept⟩ := account
      rw [cown_window window]
      exact decide_eq_true (by omega)
    | idle | full | restarting | empty | enabling =>
      rw [phase, PhaseAccount, pass] at account
      exact absurd account.1 id
  worked n counted := by
    obtain ⟨_, _, handedUp, givenBack, least⟩ := account.settled counted
    exact ⟨handedUp.symm, givenBack.symm, least⟩
  returns r result := by
    obtain ⟨n, ⟨positive, counted, _, _, least⟩, enabled, value⟩ := account.returned result
    have zero : s.record.workDone = some 0 ↔ n = 0 := by
      rw [counted]
      exact Option.some_inj
    refine ⟨?_, ?_, ?_⟩
    · rw [zero, value]
      split <;> omega
    · rw [zero, enabled, decide_eq_true_eq]
    · rw [zero]
      omega
  ended idle positive := by
    rw [Account, idle] at account
    rcases account.2 with fresh | ⟨n, settled, _, returned⟩
    · rw [fresh] at positive
      exact absurd positive (by decide)
    · rw [settled.2.1, returned]
      exact ⟨rfl, rfl⟩

/-- In every run in which allocations succeed and no frame overtakes a pass that read an
equal position, every pass is accounted for: no round finds a descriptor of the hardware,
the work counted is what was handed up and given back, the smaller of the budget and the
frames in the ring at the read, and the function returns 0 with the interrupt enabled
exactly when there was none. A pass in progress has a next step and comes to its end. -/
theorem poll_budget {s : RecordedPoll} (reached : recordedSystem.ReachableBy
      (fun s e => AllocSucceeds s.poll e ∧ ¬ Overtaken s.poll e) s) :
    Budgeted s ∧ (s.poll.phase ≠ .idle →
      (∃ e w', ofPass e = true ∧ pollSystem.step s.poll e = some w') ∧
        ∀ e w', pollSystem.step s.poll e = some w' →
          if ofPass e = true then stepsLeft w' < stepsLeft s.poll
          else stepsLeft w' = stepsLeft s.poll) := by
  have both : (Slots s.poll.rx ∧ Window s.poll.rx) ∧ Account s := by
    refine reached.invariant (fun s start => ?_) (fun s e s' held allowed stepped => ?_)
    · obtain ⟨⟨rxStart, _, _, phase, _⟩, record⟩ := start
      obtain ⟨answer, ring, alloc, apart, same⟩ := rxStart
      rw [Account, phase, same]
      refine ⟨⟨slots_init alloc apart, window_init alloc⟩, ?_, .inl record⟩
      rw [same]
      exact trivial
    · obtain ⟨⟨slots, window⟩, account⟩ := held
      exact ⟨window_poll slots window allowed.1 (recorded_step stepped).1,
        account_step slots window account allowed.1 allowed.2 stepped⟩
  exact ⟨both.2.budgeted both.1.2, pass_returns (pollOk_run (recorded_reachable reached))⟩

/-! ## Two runs -/

/-- Polling before anything has happened, with an empty record. -/
def recordedStart : RecordedPoll := ⟨pollStart, {}⟩

/-- The start is an initial state. -/
theorem recordedStart_init : recordedSystem.init recordedStart :=
  ⟨⟨evenRing_init, rfl, rfl, rfl, rfl⟩, rfl⟩

/-- No allocation that the event asks for fails, as far as the flag tells. -/
def allocChecked (w : PollWorld) : PollEvent → Bool
  | .iterate none => !(slot w.rx.ring.desc w.rx.ring.curIndex).cown
  | _ => true

/-- The check is enough. -/
theorem allocChecked_sound {w : PollWorld} (checked : allocChecked w e = true) :
    AllocSucceeds w e := by
  cases e with
  | iterate answer =>
    rintro ⟨same, owned, _⟩
    cases answer with
    | some head => nomatch same
    | none => simp [allocChecked, owned] at checked
  | _ => exact trivial

/-- The event is no arrival during the comparison. -/
def inTimeChecked (w : PollWorld) : PollEvent → Bool
  | .fill _ => match w.rx.pass with
    | .counting .. => false
    | _ => true
  | _ => true

/-- The check is enough. -/
theorem inTimeChecked_sound {w : PollWorld} (checked : inTimeChecked w e = true) :
    ¬ Overtaken w e := by
  rintro ⟨⟨length, rfl⟩, workToDo, pass⟩
  simp [inTimeChecked, pass] at checked

/-- Two frames are stored and a pass with a budget of one frame runs, and a third frame
arrives meanwhile. -/
def shortTrace : List PollEvent :=
  [.fill 100, .fill 100, .enter 1 64, .count, .iterate (evenly starGswMaxRfdNum), .fill 100,
    .iterate (evenly (starGswMaxRfdNum + 1)), .branch]

/-- The law at the end of a pass that its budget has stopped. -/
theorem poll_budget_one_of_two : ∃ s,
    recordedSystem.ReachableBy (fun s e => AllocSucceeds s.poll e ∧ ¬ Overtaken s.poll e) s ∧
      s.record.frames = 2 ∧ s.record.workDone = some 1 ∧ s.record.result = some 1 ∧
      Budgeted s := by
  have ran : (recordedSystem.runBy
      (fun s e => allocChecked s.poll e && inTimeChecked s.poll e) recordedStart shortTrace).any
        (fun s => decide (s.record.frames = 2 ∧ s.record.workDone = some 1 ∧
          s.record.result = some 1)) = true := by decide +kernel
  obtain ⟨s, ended, facts⟩ := (Option.any_eq_true ..).mp ran
  obtain ⟨frames, workDone, result⟩ := of_decide_eq_true facts
  have sound : ∀ (s : RecordedPoll) (e : PollEvent),
      (allocChecked s.poll e && inTimeChecked s.poll e) = true →
        AllocSucceeds s.poll e ∧ ¬ Overtaken s.poll e := by
    intro s e checked
    have both := (Bool.and_eq_true _ _).mp checked
    exact ⟨allocChecked_sound both.1, inTimeChecked_sound both.2⟩
  have reached := (System.runsBy_of_runBy sound ended).reachableBy (.init recordedStart_init)
  exact ⟨s, reached, frames, workDone, result, (poll_budget reached).1⟩

/-- A pass reads the position on an empty ring, a frame is stored, and the pass hands it up. -/
def overtakenTrace : List PollEvent :=
  [.enter 64 64, .fill 100, .count, .iterate (evenly starGswMaxRfdNum)]

/-- Every allocation succeeds and still a round finds a descriptor of the hardware: the pass
read the position on an empty ring, has handed up one frame and counts two. -/
theorem poll_overcharged : ∃ s s',
    recordedSystem.ReachableBy (fun s e => AllocSucceeds s.poll e) s ∧
      s.poll.rx.pass = .looping 95 1 64 ∧
      (slot s.poll.rx.ring.desc s.poll.rx.ring.curIndex).cown = false ∧ ¬ Budgeted s ∧
    recordedSystem.ReachableBy (fun s e => AllocSucceeds s.poll e) s' ∧
      s'.record.frames = 0 ∧ s'.record.handedUp = 1 ∧ s'.record.givenBack = 1 ∧
      s'.record.workDone = some 2 ∧ s'.record.result = some 1 ∧ ¬ Budgeted s' := by
  have ran : ((recordedSystem.runBy (fun s => allocChecked s.poll) recordedStart
      overtakenTrace).any fun s => decide (s.poll.rx.pass = .looping 95 1 64 ∧
        (slot s.poll.rx.ring.desc s.poll.rx.ring.curIndex).cown = false) &&
      (recordedSystem.runBy (fun s => allocChecked s.poll) s [.iterate none, .branch]).any
        fun s' => decide (s'.record.frames = 0 ∧ s'.record.handedUp = 1 ∧
          s'.record.givenBack = 1 ∧ s'.record.workDone = some 2 ∧
          s'.record.result = some 1)) = true := by decide +kernel
  obtain ⟨s, ended, facts⟩ := (Option.any_eq_true ..).mp ran
  obtain ⟨here, after⟩ := (Bool.and_eq_true _ _).mp facts
  obtain ⟨pass, hardware⟩ := of_decide_eq_true here
  obtain ⟨s', ended', facts'⟩ := (Option.any_eq_true ..).mp after
  obtain ⟨frames, handedUp, givenBack, workDone, result⟩ := of_decide_eq_true facts'
  have sound : ∀ (s : RecordedPoll) (e : PollEvent), allocChecked s.poll e = true →
      AllocSucceeds s.poll e := fun _ _ => allocChecked_sound
  have reached := (System.runsBy_of_runBy sound ended).reachableBy (.init recordedStart_init)
  have reached' := (System.runsBy_of_runBy sound ended').reachableBy reached
  refine ⟨s, s', reached, pass, hardware, ?_, reached', frames, handedUp, givenBack, workDone,
    result, ?_⟩
  · intro law
    have owned := law.ready 94 1 64 pass (by decide)
    rw [hardware] at owned
    exact Bool.false_ne_true owned
  · intro law
    have counted := (law.worked 2 workDone).1
    rw [handedUp] at counted
    exact absurd counted (by decide)

end Fvs318g.Verif.Budget
