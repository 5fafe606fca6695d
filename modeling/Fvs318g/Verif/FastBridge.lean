import Fvs318g.Lib.System
import Fvs318g.Net.FastBridge

/-!
# Configuring the fast bridge

The bridge is consistent when both ready flags stand for two devices on which it holds one
reference each, and on no other. A write should keep it so, and change nothing when it fails. The
handler overwrites the first pointer before it has looked up both names, and takes new references
without putting the old ones back.
-/

namespace Fvs318g.Verif.FastBridge

open Lib Net

variable {Dev : Type} [DecidableEq Dev]

/-- A write to the proc file. -/
structure Write (Dev : Type) where
  /-- The length of the write. -/
  count : Nat
  /-- The string in the buffer. -/
  buffer : List UInt8
  /-- The devices at the write. -/
  env : DevEnv Dev

/-- The return value of a write. -/
def Write.result (w : Write Dev) (b : FastBridge Dev) : Int :=
  (fastBridgeWriteProc w.count w.buffer w.env b).1

/-- The bridge behind a write. -/
def step (b : FastBridge Dev) (w : Write Dev) : FastBridge Dev :=
  (fastBridgeWriteProc w.count w.buffer w.env b).2.1

/-- With both flags set the pointers are devices, with one reference on each and none on
others. -/
def Consistent (b : FastBridge Dev) : Prop :=
  b.dev1Ready = true → b.dev2Ready = true →
    ∃ d1 d2, b.dev1 = some d1 ∧ b.dev2 = some d2 ∧ ∀ d, b.held d = if d = d1 ∨ d = d2 then 1 else 0

/-- A write that returns an error changes nothing, and behind every write the bridge is
consistent. -/
def Atomic (b : FastBridge Dev) (w : Write Dev) : Prop :=
  (w.result b < 0 → step b w = b) ∧ Consistent (step b w)

/-- How far a write gets. -/
inductive Progress (Dev : Type) where
  /-- The write is empty. -/
  | empty
  /-- There is no second token. -/
  | unparsed
  /-- The first device does not exist. -/
  | noFirst
  /-- The second device does not exist. -/
  | noSecond (d1 : Dev)
  /-- Both devices exist. -/
  | both (d1 d2 : Dev)

/-- The progress of a write; it depends on the write alone. -/
def Write.progress (w : Write Dev) : Progress Dev :=
  if w.count = 0 then .empty
  else match (strsep (some w.buffer)).1, (strsep (strsep (some w.buffer)).2).1 with
    | some name1, some name2 =>
      match devGetByName w.env name1, devGetByName w.env name2 with
      | none, _ => .noFirst
      | some d1, none => .noSecond d1
      | some d1, some d2 => .both d1 d2
    | _, _ => .unparsed

/-- The bridge behind a write, by its progress. -/
def after (b : FastBridge Dev) : Progress Dev → FastBridge Dev
  | .empty | .unparsed => b
  | .noFirst => { b with dev1 := none }
  | .noSecond d1 => { b with dev1 := some d1, dev2 := none }
  | .both d1 d2 =>
    { (b.devHold d1).devHold d2 with
      dev1 := some d1, dev2 := some d2, dev1Ready := true, dev2Ready := true }

/-- The progress at which a write returns an error. -/
def Progress.fails : Progress Dev → Bool
  | .empty | .both _ _ => false
  | _ => true

variable (b : FastBridge Dev)

/-- A reference that is taken and put back is as before. -/
theorem devPut_devHold (d : Dev) : (b.devHold d).devPut d = b := by
  simp [FastBridge.devPut, FastBridge.devHold]

/-- A write by its progress. -/
theorem write_eq (w : Write Dev) :
    step b w = after b w.progress ∧ (w.result b < 0 ↔ w.progress.fails = true) := by
  unfold step Write.result fastBridgeWriteProc Write.progress
  by_cases empty : w.count = 0
  · rw [if_neg (by omega), if_pos empty, empty]
    exact ⟨rfl, by simp [Progress.fails]⟩
  · have failed : -Kernel.efault < 0 := by decide
    have counted : ¬ (w.count : Int) < 0 := by omega
    rw [if_pos (by omega), if_neg empty]
    simp only
    cases (strsep (some w.buffer)).1 with
    | none => exact ⟨rfl, iff_of_true failed rfl⟩
    | some name1 =>
      cases (strsep (strsep (some w.buffer)).2).1 with
      | none => exact ⟨rfl, iff_of_true failed rfl⟩
      | some name2 =>
        simp only
        cases devGetByName w.env name1 with
        | none => exact ⟨rfl, iff_of_true failed rfl⟩
        | some d1 =>
          simp only
          cases devGetByName w.env name2 with
          | none =>
            -- the reference is put back, but the pointers are not
            have back := devPut_devHold { b with dev1 := some d1 } d1
            exact ⟨congrArg (fun b => { b with dev2 := none }) back, iff_of_true failed rfl⟩
          | some d2 => exact ⟨rfl, iff_of_false counted Bool.false_ne_true⟩

/-- The condition for a write: it finds both devices, they differ, and no reference is held; or it
fails in a state that already has the pointers it leaves behind. -/
def Safe (b : FastBridge Dev) (w : Write Dev) : Prop :=
  match w.progress with
  | .empty | .unparsed => True
  | .noFirst => b.dev1 = none
  | .noSecond d1 => b.dev1 = some d1 ∧ b.dev2 = none
  | .both d1 d2 => d1 ≠ d2 ∧ ∀ d, b.held d = 0

/-- The references behind a `dev_hold`. -/
theorem held_devHold (d e : Dev) : (b.devHold d).held e = b.held e + if e = d then 1 else 0 := by
  change Function.update b.held d (b.held d + 1) e = _
  rw [Function.update_apply]
  by_cases same : e = d
  · rw [if_pos same, if_pos same, same]
  · rw [if_neg same, if_neg same, Nat.add_zero]

/-- Two more references are one on each of two devices exactly if these differ and nothing was
held. -/
theorem held_both_iff (d1 d2 : Dev) :
    (∀ d, ((b.devHold d1).devHold d2).held d = if d = d1 ∨ d = d2 then 1 else 0) ↔
      d1 ≠ d2 ∧ ∀ d, b.held d = 0 := by
  simp only [held_devHold]
  constructor
  · intro exact_
    have differ : d1 ≠ d2 := by
      intro same
      have twice := exact_ d1
      rw [if_pos rfl, if_pos same, if_pos (Or.inl rfl)] at twice
      omega
    apply And.intro differ
    intro d
    have one := exact_ d
    by_cases first : d = d1
    · have second : d ≠ d2 := fun same => differ (first.symm.trans same)
      rw [if_pos first, if_neg second, if_pos (Or.inl first)] at one
      omega
    · by_cases second : d = d2
      · rw [if_neg first, if_pos second, if_pos (Or.inr second)] at one
        omega
      · have neither : ¬ (d = d1 ∨ d = d2) := fun h => h.elim first second
        rw [if_neg first, if_neg second, if_neg neither] at one
        exact one
  · rintro ⟨differ, none⟩ d
    rw [none d]
    by_cases first : d = d1
    · have second : d ≠ d2 := fun same => differ (first.symm.trans same)
      rw [if_pos first, if_neg second, if_pos (Or.inl first)]
    · by_cases second : d = d2
      · rw [if_neg first, if_pos second, if_pos (Or.inr second)]
      · have neither : ¬ (d = d1 ∨ d = d2) := fun h => h.elim first second
        rw [if_neg first, if_neg second, if_neg neither]

/-- From a consistent bridge a write is atomic exactly if it meets its condition. -/
theorem atomic_iff {b : FastBridge Dev} (w : Write Dev) (consistent : Consistent b) :
    Atomic b w ↔ Safe b w := by
  have shape := write_eq b w
  unfold Atomic Safe
  rw [shape.1, shape.2]
  cases w.progress with
  | empty => exact iff_of_true ⟨fun _ => rfl, consistent⟩ trivial
  | unparsed => exact iff_of_true ⟨fun _ => rfl, consistent⟩ trivial
  | noFirst =>
    constructor
    · intro atomic
      have unchanged := congrArg FastBridge.dev1 (atomic.1 rfl)
      exact unchanged.symm
    · intro absent
      have unchanged : after b .noFirst = b := by rw [after, ← absent]
      rw [unchanged]
      exact ⟨fun _ => rfl, consistent⟩
  | noSecond d1 =>
    constructor
    · intro atomic
      have unchanged := atomic.1 rfl
      exact ⟨(congrArg FastBridge.dev1 unchanged).symm, (congrArg FastBridge.dev2 unchanged).symm⟩
    · rintro ⟨first, absent⟩
      have unchanged : after b (.noSecond d1) = b := by rw [after, ← first, ← absent]
      rw [unchanged]
      exact ⟨fun _ => rfl, consistent⟩
  | both d1 d2 =>
    apply Iff.trans _ (held_both_iff b d1 d2)
    constructor
    · intro atomic
      obtain ⟨e1, e2, first, second, counts⟩ := atomic.2 rfl rfl
      obtain rfl : d1 = e1 := Option.some.inj first
      obtain rfl : d2 = e2 := Option.some.inj second
      exact counts
    · intro counts
      exact ⟨fun failed => absurd failed Bool.false_ne_true, fun _ _ => ⟨d1, d2, rfl, rfl, counts⟩⟩

/-- The bridge is consistent when the module is loaded. -/
theorem consistent_initial : Consistent (FastBridge.initial : FastBridge Dev) := by
  intro ready
  cases ready

/-- A sequence of writes is atomic in each of its writes exactly if each meets its condition in
the state before it. -/
theorem writes_atomic_iff (ws : List (Write Dev)) :
    (Consistent (FastBridge.initial : FastBridge Dev) ∧
      ∀ done w rest, ws = done ++ w :: rest → Atomic (done.foldl step FastBridge.initial) w) ↔
      ∀ done w rest, ws = done ++ w :: rest → Safe (done.foldl step FastBridge.initial) w := by
  have exact_ : ∀ (b : FastBridge Dev) w, Consistent b → (Atomic b w ↔ Safe b w) :=
    fun b w consistent => atomic_iff w consistent
  have keep : ∀ (b : FastBridge Dev) w, Consistent b → Atomic b w → Consistent (step b w) :=
    fun b w _ atomic => atomic.2
  rw [law_along_iff exact_ keep ws consistent_initial]
  exact and_iff_right consistent_initial

/-- Two devices, called `a` and `b`. -/
def twoDevices : DevEnv Bool :=
  ⟨[([97], false), ([98], true)], fun _ => true, fun _ => true, fun _ => true⟩

/-- The bridge is configured with `a b`; a write that names a device that does not exist fails and
clears the first pointer under the ready flags. A second write of `a b` succeeds and takes a
second reference on both. -/
theorem writes_not_atomic : let good : Write Bool := ⟨3, [97, 32, 98], twoDevices⟩
    let bad : Write Bool := ⟨3, [99, 32, 98], twoDevices⟩
    let b := step FastBridge.initial good
    b.dev1Ready = true ∧ b.dev2Ready = true ∧ b.dev1 = some false ∧
      bad.result b = -14 ∧ (step b bad).dev1 = none ∧ (step b bad).dev1Ready = true ∧
      good.result b = 3 ∧ (step b good).held false = 2 := by
  decide

end Fvs318g.Verif.FastBridge
