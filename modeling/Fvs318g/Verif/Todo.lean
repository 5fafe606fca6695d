import Mathlib.Data.Nat.Bitwise
import Fvs318g.Net.Todo

/-!
# No device is destroyed while it is referenced

The count of a device is the number of its references as long as nothing else writes it, and the
wait then ends only when no reference is left. A device that is unregistered and not referenced
stays so: it is in no list, and only a holder can pass a reference on. The one other writer of
the count is the timeout of the wait, so the law is about the runs in which every reference is
given back before the timeout sets the count.
-/

namespace Fvs318g.Verif.Todo

open Lib Net

/-! ## What a step does to a device -/

/-- The ways in which one step changes one device; the last one is the timeout. -/
inductive Change (w : TodoWorld) (e : TodoEvent) (d : Nat) : TodoDevice → Prop where
  /-- The device is not touched. -/
  | same : Change w e d (w.devs d)
  /-- A reference is taken. -/
  | hold : e = .hold d → 0 < (w.devs d).held ∨ (w.devs d).listed = true →
      Change w e d (w.devs d).devHold
  /-- A reference is given back. -/
  | put : 0 < (w.devs d).held → Change w e d (w.devs d).devPut
  /-- The device is registered. -/
  | register : (w.devs d).regState = .uninitialized →
      Change w e d { (w.devs d).devHold with regState := .registering }
  /-- The registration state moves on. -/
  | move (regState : RegState) : (w.devs d).regState ≠ .uninitialized →
      (w.devs d).regState ≠ .unregistered → regState ≠ .uninitialized →
      Change w e d { w.devs d with regState := regState }
  /-- The timeout sets the count. -/
  | timeout (list : List Nat) (rebroadcastTime : Jiffies) : e = .run →
      w.phase = .overdue d list rebroadcastTime → Change w e d { w.devs d with refcnt := 0 }

variable {e : TodoEvent} {dev : TodoDevice} {w w' : TodoWorld}

/-- A change of one device leaves every device changed as it should. -/
theorem change_setDev {c : Nat} (change : Change w e c dev) (d : Nat) :
    Change w e d ((w.setDev c dev).devs d) := by
  by_cases here : d = c
  · subst here
    rw [TodoWorld.setDev_self]
    exact change
  · rw [TodoWorld.setDev_ne w here]
    exact .same

/-- Every step changes every device in one of the ways above. -/
theorem step_change (stepped : todoStep w e = some w') (d : Nat) : Change w e d (w'.devs d) := by
  cases e with
  | hold c =>
    obtain ⟨holder, rfl⟩ := guarded_step stepped
    exact change_setDev (.hold rfl holder) d
  | put c =>
    obtain ⟨holder, rfl⟩ := guarded_step stepped
    exact change_setDev (.put holder) d
  | pass ticks =>
    cases stepped
    exact .same
  | register c =>
    obtain ⟨new, rfl⟩ := guarded_step stepped
    exact change_setDev (.register new) d
  | unregister c =>
    obtain ⟨known, rfl⟩ := guarded_step stepped
    exact change_setDev (.move _ (by simp [known]) (by simp [known]) (by simp)) d
  | run =>
    simp only [todoStep, netdevRunTodo] at stepped
    split at stepped
    · obtain ⟨_, rfl⟩ := unrefused_step stepped
      exact .same
    · cases stepped
      exact .same
    · rename_i c list _
      cases stepped
      simp only [todoNext]
      split
      · rename_i state
        exact change_setDev (.move _ (by simp [state]) (by simp [state]) (by simp)) d
      · rename_i state
        exact change_setDev (.move _ (by simp [state]) (by simp [state]) (by simp)) d
      · exact .same
    · split at stepped
      · cases stepped
        exact .same
      · split at stepped <;> (cases stepped; exact .same)
    · cases stepped
      exact .same
    · split at stepped
      · contradiction
      · split at stepped <;> (cases stepped; exact .same)
    · rename_i c list rebroadcastTime late
      cases stepped
      exact change_setDev (.timeout list rebroadcastTime rfl late) d
    · split at stepped <;> (cases stepped; exact .same)
    · cases stepped
      exact .same
    · contradiction

/-! ## The condition and what it keeps -/

/-- The timeout finds no reference outstanding, and the references of a device stay in the
range of its count. -/
def InTime (w : TodoWorld) : TodoEvent → Prop
  | .hold d => (w.devs d).held + 1 < 2 ^ 31
  | .run => ∀ d list rebroadcastTime, w.phase = .overdue d list rebroadcastTime →
      (w.devs d).held = 0
  | _ => True

/-- The count of a device is the number of its references. -/
structure Counted (dev : TodoDevice) : Prop where
  /-- The count shows the references. -/
  count : dev.refcnt = BitVec.ofNat 32 dev.held
  /-- They fit the count. -/
  small : dev.held < 2 ^ 31
  /-- A device that was never registered has none. -/
  unknown : dev.regState = .uninitialized → dev.held = 0

/-- The device is out of every list and nobody refers to it. -/
structure Gone (dev : TodoDevice) : Prop where
  /-- It is unregistered. -/
  unregistered : dev.regState = .unregistered
  /-- Every reference was given back. -/
  free : dev.held = 0

/-- Taking a reference moves the count along. -/
theorem count_succ (held : Nat) : BitVec.ofNat 32 held + 1 = BitVec.ofNat 32 (held + 1) :=
  (BitVec.ofNat_add held 1).symm

/-- Giving a reference back moves the count along. -/
theorem count_pred {held : Nat} (some : 0 < held) :
    BitVec.ofNat 32 held - 1 = BitVec.ofNat 32 (held - 1) := by
  have back := BitVec.add_sub_cancel (BitVec.ofNat 32 (held - 1)) 1
  rw [count_succ, Nat.sub_add_cancel some] at back
  exact back

/-- A count of zero says that no reference is left. -/
theorem Counted.held_eq_zero (counted : Counted dev) (zero : dev.refcnt = 0) : dev.held = 0 := by
  have count := congrArg BitVec.toNat (counted.count.symm.trans zero)
  have small := counted.small
  rw [BitVec.toNat_ofNat, show BitVec.toNat (0 : BitVec 32) = 0 from rfl] at count
  omega

/-- The count of a device is not negative. -/
theorem Counted.nonneg (counted : Counted dev) : 0 ≤ dev.refcnt.toInt := by
  have small := counted.small
  have value : dev.refcnt.toNat = dev.held := by
    rw [counted.count, BitVec.toNat_ofNat]
    exact Nat.mod_eq_of_lt (by omega)
  rw [BitVec.toInt_eq_toNat_of_lt (by omega)]
  omega

/-- A step in time keeps the counts. -/
theorem Change.counted {d : Nat} (change : Change w e d dev) (inTime : InTime w e)
    (counted : Counted (w.devs d)) : Counted dev := by
  cases change with
  | same => exact counted
  | hold taken holder =>
    subst taken
    refine ⟨?_, inTime, fun unknown => ?_⟩
    · show (w.devs d).refcnt + 1 = BitVec.ofNat 32 ((w.devs d).held + 1)
      rw [counted.count, count_succ]
    · -- a device nobody registered is neither held nor listed
      have none := counted.unknown unknown
      have state : (w.devs d).regState = .uninitialized := unknown
      simp [none, TodoDevice.listed, state] at holder
  | put holder =>
    have small := counted.small
    refine ⟨?_, ?_, fun unknown => ?_⟩
    · show (w.devs d).refcnt - 1 = BitVec.ofNat 32 ((w.devs d).held - 1)
      rw [counted.count, count_pred holder]
    · show (w.devs d).held - 1 < 2 ^ 31
      omega
    · have none := counted.unknown unknown
      omega
  | register new =>
    have none := counted.unknown new
    refine ⟨?_, ?_, fun unknown => by simp at unknown⟩
    · show (w.devs d).refcnt + 1 = BitVec.ofNat 32 ((w.devs d).held + 1)
      rw [counted.count, count_succ]
    · show (w.devs d).held + 1 < 2 ^ 31
      omega
  | move regState _ _ known => exact ⟨counted.count, counted.small, fun new => absurd new known⟩
  | timeout list rebroadcastTime running late =>
    subst running
    have none := inTime d list rebroadcastTime late
    refine ⟨?_, counted.small, counted.unknown⟩
    show (0 : BitVec 32) = BitVec.ofNat 32 (w.devs d).held
    rw [none]
    rfl

/-- Whoever is gone stays gone. -/
theorem Change.gone {d : Nat} (change : Change w e d dev) (gone : Gone (w.devs d)) : Gone dev := by
  have state := gone.unregistered
  have none := gone.free
  cases change with
  | same => exact gone
  | hold _ holder => simp [none, TodoDevice.listed, state] at holder
  | put holder => omega
  | register new => simp [state] at new
  | move regState _ notYet _ => exact absurd state notYet
  | timeout => exact ⟨state, none⟩

/-! ## Runs -/

/-- The device that `netdev_wait_allrefs` is called for, or was just called for. -/
def waitedFor : TodoPhase → Option Nat
  | .testing d .. | .rebroadcasting d .. | .sleeping d .. | .overdue d .. | .waited d _
  | .destroying d _ => some d
  | _ => none

/-- The device whose wait is over. -/
def released : TodoPhase → Option Nat
  | .waited d _ | .destroying d _ => some d
  | _ => none

/-- What every run in time keeps. -/
structure Sound (w : TodoWorld) : Prop where
  /-- Every count shows the references. -/
  counted : ∀ d, Counted (w.devs d)
  /-- The wait is for a device that is unregistered. -/
  waiting : ∀ d, waitedFor w.phase = some d → (w.devs d).regState = .unregistered
  /-- When the wait is over, the device is gone. -/
  awaited : ∀ d, released w.phase = some d → Gone (w.devs d)
  /-- A destroyed device had no reference left, and is gone. -/
  destroyed : ∀ p ∈ w.destroyed, p.2 = 0 ∧ Gone (w.devs p.1)

/-- An unregistered device stays unregistered. -/
theorem Change.unregistered {d : Nat} (change : Change w e d dev)
    (state : (w.devs d).regState = .unregistered) : dev.regState = .unregistered := by
  cases change with
  | same => exact state
  | hold => exact state
  | put => exact state
  | register new => simp [state] at new
  | move regState _ notYet _ => exact absurd state notYet
  | timeout => exact state

/-- A step that keeps the phase keeps what it says about the wait. -/
theorem Sound.keep_phase (sound : Sound w) (inTime : InTime w e) (stepped : todoStep w e = some w')
    (phase : w'.phase = w.phase) (destroyed : w'.destroyed = w.destroyed) : Sound w' where
  counted d := (step_change stepped d).counted inTime (sound.counted d)
  waiting d waits := (step_change stepped d).unregistered (sound.waiting d (phase ▸ waits))
  awaited d ended := (step_change stepped d).gone (sound.awaited d (phase ▸ ended))
  destroyed p member :=
    have old := sound.destroyed p (destroyed ▸ member)
    ⟨old.1, (step_change stepped p.1).gone old.2⟩

/-- A step of the runner that destroys nothing keeps the law if the new phase tells the truth. -/
theorem Sound.keep_run (sound : Sound w) (inTime : InTime w .run)
    (stepped : netdevRunTodo w = some w') (destroyed : w'.destroyed = w.destroyed)
    (waiting : ∀ d, waitedFor w'.phase = some d → (w'.devs d).regState = .unregistered)
    (awaited : ∀ d, released w'.phase = some d → (w'.devs d).held = 0) : Sound w' where
  counted d := (step_change (e := .run) stepped d).counted inTime (sound.counted d)
  waiting := waiting
  awaited d ended := by
    refine ⟨waiting d ?_, awaited d ended⟩
    cases phase : w'.phase with
    | waited | destroying =>
      rw [phase] at ended
      exact ended
    | _ =>
      rw [phase] at ended
      contradiction
  destroyed p member :=
    have old := sound.destroyed p (destroyed ▸ member)
    ⟨old.1, (step_change (e := .run) stepped p.1).gone old.2⟩

/-- Taking the next device from the snapshot keeps the law: the wait starts for a device that
was just unregistered. -/
theorem Sound.next (sound : Sound w) (inTime : InTime w .run) {d : Nat} {list : List Nat}
    (stepped : netdevRunTodo w = some (todoNext w d list)) : Sound (todoNext w d list) := by
  apply sound.keep_run inTime stepped
  · simp only [todoNext]
    split <;> rfl
  · intro c waits
    simp only [todoNext] at waits ⊢
    split at waits <;> rename_i state
    · contradiction
    · obtain rfl : d = c := Option.some.inj waits
      simp only [TodoWorld.setDev_self]
    · contradiction
  · intro c ended
    simp only [todoNext] at ended
    split at ended <;> contradiction

/-- Every step of the runner in time keeps the law. -/
theorem Sound.run (sound : Sound w) (inTime : InTime w .run) (stepped : netdevRunTodo w = some w') :
    Sound w' := by
  have taken := stepped
  have waiting := sound.waiting
  have awaited := sound.awaited
  simp only [netdevRunTodo] at stepped
  split at stepped <;> rename_i phase <;> rw [phase] at waiting awaited
  · obtain ⟨_, rfl⟩ := unrefused_step stepped
    exact sound.keep_run inTime taken rfl (fun _ h => nomatch h) (fun _ h => nomatch h)
  · cases stepped
    exact sound.keep_run inTime taken rfl (fun _ h => nomatch h) (fun _ h => nomatch h)
  · cases stepped
    exact sound.next inTime taken
  · rename_i d list _ _
    split at stepped
    · -- the loop ends when it reads zero, and then nobody refers to the device
      rename_i zero
      cases stepped
      apply sound.keep_run inTime taken rfl waiting
      intro c ended
      obtain rfl : d = c := Option.some.inj ended
      exact (sound.counted d).held_eq_zero zero
    · split at stepped <;>
        (cases stepped
         exact sound.keep_run inTime taken rfl waiting (fun _ h => nomatch h))
  · cases stepped
    exact sound.keep_run inTime taken rfl waiting (fun _ h => nomatch h)
  · split at stepped
    · contradiction
    · split at stepped <;>
        (cases stepped
         exact sound.keep_run inTime taken rfl waiting (fun _ h => nomatch h))
  · rename_i d list _
    cases stepped
    apply sound.keep_run inTime taken rfl _ (fun _ h => nomatch h)
    intro c waits
    exact (step_change (e := .run) taken c).unregistered (waiting c waits)
  · rename_i d list
    split at stepped
    · cases stepped
      exact sound.keep_run inTime taken rfl waiting fun c ended => (awaited c ended).free
    · cases stepped
      exact sound.keep_run inTime taken rfl (fun _ h => nomatch h) (fun _ h => nomatch h)
  · rename_i d list
    cases stepped
    have gone := awaited d rfl
    refine ⟨sound.counted, (fun _ h => nomatch h), (fun _ h => nomatch h), ?_⟩
    intro p member
    rcases List.mem_append.mp member with old | new
    · exact sound.destroyed p old
    · obtain rfl := List.mem_singleton.mp new
      exact ⟨gone.free, gone⟩
  · contradiction

/-- Every step in time keeps the law. -/
theorem Sound.step (sound : Sound w) (inTime : InTime w e) (stepped : todoStep w e = some w') :
    Sound w' := by
  cases e with
  | hold d =>
    obtain ⟨_, rfl⟩ := guarded_step stepped
    exact sound.keep_phase inTime stepped rfl rfl
  | put d =>
    obtain ⟨_, rfl⟩ := guarded_step stepped
    exact sound.keep_phase inTime stepped rfl rfl
  | pass ticks =>
    obtain rfl := Option.some.inj stepped
    exact sound.keep_phase inTime stepped rfl rfl
  | register d =>
    obtain ⟨_, rfl⟩ := guarded_step stepped
    exact sound.keep_phase inTime stepped rfl rfl
  | unregister d =>
    obtain ⟨_, rfl⟩ := guarded_step stepped
    exact sound.keep_phase inTime stepped rfl rfl
  | run => exact sound.run inTime stepped

/-- Nothing is held before the first registration. -/
theorem sound_init (jiffies : Jiffies) : Sound (todoInit jiffies) where
  counted _ := ⟨rfl, Nat.two_pow_pos 31, fun _ => rfl⟩
  waiting _ waits := nomatch waits
  awaited _ ended := nomatch ended
  destroyed _ member := nomatch member

/-- In every run in which the references of a device fit its count and the timeout of the wait
finds none outstanding, a destructor is called only after every reference was given back, and the
count of a destroyed device is never negative. -/
theorem destroyed_unreferenced {w : TodoWorld} (reached : todoSystem.ReachableBy InTime w) :
    ∀ d outstanding, (d, outstanding) ∈ w.destroyed →
      outstanding = 0 ∧ 0 ≤ (w.devs d).refcnt.toInt := by
  have sound : Sound w := reached.invariant
    (fun s start => by obtain ⟨jiffies, rfl⟩ := start; exact sound_init jiffies)
    (fun s e s' held inTime stepped => held.step inTime stepped)
  intro d outstanding member
  exact ⟨(sound.destroyed _ member).1, (sound.counted d).nonneg⟩

/-- Register device 0, take it down with every reference given back, and wait for it once. -/
def patientTrace : List TodoEvent :=
  [.register 0, .run, .run, .run, .unregister 0, .run, .run, .run, .put 0, .pass 30, .run, .run,
    .run, .run]

/-- The condition on a step, as a check. -/
def inTime (w : TodoWorld) : TodoEvent → Bool
  | .hold d => decide ((w.devs d).held + 1 < 2 ^ 31)
  | .run =>
    match w.phase with
    | .overdue d .. => (w.devs d).held == 0
    | _ => true
  | _ => true

/-- The check is sound. -/
theorem inTime_sound (w : TodoWorld) (e : TodoEvent) (checked : inTime w e = true) :
    InTime w e := by
  cases e with
  | hold d =>
    have room : (w.devs d).held + 1 < 2 ^ 31 := of_decide_eq_true checked
    exact room
  | run =>
    intro d list rebroadcastTime late
    rw [inTime, late] at checked
    exact beq_iff_eq.mp checked
  | _ => trivial

/-- Device 0 is destroyed in a run in which every reference is given back in time. -/
theorem destroyed_unreferenced_patient :
    ∃ w, todoSystem.ReachableBy InTime w ∧ w.destroyed = [(0, 0)] ∧
      0 ≤ (w.devs 0).refcnt.toInt := by
  have ran : (todoSystem.runBy inTime (todoInit 0) patientTrace).any
      (fun w => decide (w.destroyed = [(0, 0)])) = true := by decide
  obtain ⟨w, ended, once⟩ := (Option.any_eq_true ..).mp ran
  have reached : todoSystem.ReachableBy InTime w :=
    (System.runsBy_of_runBy inTime_sound ended).reachableBy (.init ⟨0, rfl⟩)
  have once := of_decide_eq_true once
  exact ⟨w, reached, once, (destroyed_unreferenced reached 0 0 (by simp [once])).2⟩

/-- The same, with a reference that its holder gives back only after the timeout. -/
def lateTrace : List TodoEvent :=
  [.register 0, .run, .run, .run, .hold 0, .unregister 0, .run, .run, .run, .put 0, .pass 1001,
    .run, .run, .run, .run, .run, .put 0]

/-- A holder that gives its reference back after the timeout: the device is destroyed while it is
referenced, and its count is negative afterwards. -/
theorem destroyed_while_held :
    ∃ w, todoSystem.Reachable w ∧ (0, 1) ∈ w.destroyed ∧ (w.devs 0).refcnt.toInt < 0 := by
  have ran : (todoSystem.run (todoInit 0) lateTrace).any
      (fun w => decide ((0, 1) ∈ w.destroyed ∧ (w.devs 0).refcnt.toInt < 0)) = true := by decide
  obtain ⟨w, ended, wrong⟩ := (Option.any_eq_true ..).mp ran
  exact ⟨w, System.reachable_of_run (.init ⟨0, rfl⟩) ended, of_decide_eq_true wrong⟩

end Fvs318g.Verif.Todo
