import Fvs318g.Gsw.PushButton
import Mathlib.Data.Nat.Bitwise
import Mathlib.Tactic.Common

/-!
# One action for a press of the reset button

The first press decides: until it comes the driver does not change, and when it is over an action
has been taken and no sample is taken any more. The count is compared with the factory threshold
for equality while the button is held and strictly below it when it is let go, so that a press of
exactly that many samples falls between the two resets and restarts the machine.
-/

namespace Fvs318g.Verif.PushButton

open Kernel Lib Gsw

/-! ## The first press -/

/-- The button is not pressed in this sample. -/
def released (gpioInput : Word) : Bool := !checkPushbutton gpioInput

/-- The samples of the first press. -/
def firstPress (samples : List Word) : List Word :=
  (samples.dropWhile released).takeWhile checkPushbutton

/-- The samples from the release on. -/
def afterPress (samples : List Word) : List Word :=
  (samples.dropWhile released).dropWhile checkPushbutton

/-- The driver after a press of `n` samples that goes on. -/
def pressing (n : Nat) : PushButton :=
  { pushModuleInit with counter := n, buttonPressed := true, testLed := true, timer := some hz }

/-- What the driver has done when the first press has `n` samples, and has ended or not. -/
def outcome (n : Nat) (ended : Bool) : List ResetAction :=
  if n = 0 then []
  else if factoryResetThreshold < n then [.factoryReset]
  else if ended then
    if customFactoryThreshold ≤ n ∧ n < factoryResetThreshold then [.customReset] else [.restart]
  else []

/-! ## One sample -/

section Samples

variable {s : PushButton} {gpioInput : Word} {n : Nat}

/-- With its timer armed the driver takes the sample. -/
theorem sampleButton_armed {delay : Nat} (armed : s.timer = some delay) :
    sampleButton s gpioInput = pushButtonPolling s gpioInput := by
  rw [sampleButton, armed, Option.isSome_some, if_pos rfl]

/-- Without its timer it takes no sample. -/
theorem foldl_stopped (stopped : s.timer = none) (samples : List Word) :
    samples.foldl sampleButton s = s := by
  induction samples with
  | nil => rfl
  | cons gpioInput samples ih =>
    rw [List.foldl_cons, sampleButton, stopped, Option.isSome_none, if_neg Bool.false_ne_true]
    exact ih

/-- A released button does not change the driver before the first press. -/
theorem sampleButton_idle (open_ : checkPushbutton gpioInput = false) :
    sampleButton pushModuleInit gpioInput = pushModuleInit := by
  have armed : pushModuleInit.timer = some scanRate := rfl
  rw [sampleButton_armed armed, pushButtonPolling]
  simp only [open_]
  rfl

/-- The first sample of a press. -/
theorem sampleButton_first (held : checkPushbutton gpioInput = true) :
    sampleButton pushModuleInit gpioInput = pressing 1 := by
  have armed : pushModuleInit.timer = some scanRate := rfl
  rw [sampleButton_armed armed, pushButtonPolling]
  simp only [held]
  rfl

/-- A press is counted below the factory threshold. -/
theorem sampleButton_more (held : checkPushbutton gpioInput = true)
    (below : n < factoryResetThreshold) :
    sampleButton (pressing n) gpioInput = pressing (n + 1) := by
  have armed : (pressing n).timer = some hz := rfl
  have small : (n + 1) % 2 ^ 32 = n + 1 := by
    rw [factoryResetThreshold] at below
    omega
  rw [sampleButton_armed armed, pushButtonPolling]
  simp only [held, pressing, if_true, Nat.ne_of_lt below, if_false, small]

/-- The sample at the factory threshold is the last one. -/
theorem sampleButton_factory (held : checkPushbutton gpioInput = true) :
    (sampleButton (pressing factoryResetThreshold) gpioInput).timer = none ∧
      (sampleButton (pressing factoryResetThreshold) gpioInput).actions = [.factoryReset] := by
  have armed : (pressing factoryResetThreshold).timer = some hz := rfl
  rw [sampleButton_armed armed, pushButtonPolling]
  simp only [held]
  exact ⟨rfl, rfl⟩

/-- So is the sample that shows the release. -/
theorem sampleButton_release (open_ : checkPushbutton gpioInput = false) :
    (sampleButton (pressing n) gpioInput).timer = none ∧
      (sampleButton (pressing n) gpioInput).actions =
        if customFactoryThreshold ≤ n ∧ n < factoryResetThreshold then [.customReset]
        else [.restart] := by
  have armed : (pressing n).timer = some hz := rfl
  rw [sampleButton_armed armed, pushButtonPolling]
  simp only [open_, pressing, Bool.false_eq_true, if_false, if_true, ge_iff_le]
  split <;> exact ⟨rfl, rfl⟩

end Samples

/-! ## Sequences of samples -/

/-- From inside a press on, the rest of the press decides. -/
theorem foldl_pressing {n : Nat} (positive : 0 < n) (below : n ≤ factoryResetThreshold)
    (samples : List Word) :
    (samples.foldl sampleButton (pressing n)).actions =
      outcome (n + (samples.takeWhile checkPushbutton).length)
        (samples.dropWhile checkPushbutton != []) := by
  induction samples generalizing n with
  | nil =>
    have short : ¬ factoryResetThreshold < n := Nat.not_lt_of_le below
    have some_ : n ≠ 0 := by omega
    simp only [List.foldl_nil, List.takeWhile_nil, List.dropWhile_nil, List.length_nil, outcome,
      Nat.add_zero, some_, short, if_false, bne_self_eq_false, Bool.false_eq_true]
    rfl
  | cons gpioInput samples ih =>
    rw [List.foldl_cons]
    cases held : checkPushbutton gpioInput with
    | false =>
      have stopped := sampleButton_release (n := n) held
      have short : ¬ factoryResetThreshold < n := Nat.not_lt_of_le below
      have some_ : n ≠ 0 := by omega
      rw [foldl_stopped stopped.1, stopped.2, List.takeWhile_cons_of_neg (by simp [held]),
        List.dropWhile_cons_of_neg (by simp [held])]
      simp only [outcome, List.length_nil, Nat.add_zero, some_, short, if_false, bne_iff_ne,
        ne_eq, reduceCtorEq, not_false_eq_true, if_true]
    | true =>
      rw [List.takeWhile_cons_of_pos held, List.dropWhile_cons_of_pos held, List.length_cons,
        ← Nat.add_assoc, Nat.add_right_comm]
      by_cases more : n < factoryResetThreshold
      · rw [sampleButton_more held more]
        exact ih (Nat.succ_pos n) more
      · have last : n = factoryResetThreshold := Nat.le_antisymm below (Nat.le_of_not_lt more)
        have stopped := sampleButton_factory held
        rw [last, foldl_stopped stopped.1, stopped.2, outcome, if_neg (by omega),
          if_pos (by omega)]

/-- Before the first press nothing happens. -/
theorem sampleButtons_idle (samples : List Word) :
    sampleButtons samples = (samples.dropWhile released).foldl sampleButton pushModuleInit := by
  unfold sampleButtons
  induction samples with
  | nil => rfl
  | cons gpioInput samples ih =>
    cases held : checkPushbutton gpioInput with
    | false =>
      rw [List.dropWhile_cons_of_pos (by simp [released, held]), List.foldl_cons,
        sampleButton_idle held]
      exact ih
    | true => rw [List.dropWhile_cons_of_neg (by simp [released, held])]

/-- The first press decides what the driver does. -/
theorem actions_eq (samples : List Word) :
    (sampleButtons samples).actions =
      outcome (firstPress samples).length (afterPress samples != []) := by
  rw [sampleButtons_idle, firstPress, afterPress]
  cases pressed : samples.dropWhile released with
  | nil => rfl
  | cons gpioInput rest =>
    have held : checkPushbutton gpioInput = true := by
      have head := List.head_dropWhile_not released (l := samples) (by rw [pressed]; simp)
      simp only [pressed, List.head_cons, released, Bool.not_eq_false'] at head
      exact head
    rw [List.foldl_cons, sampleButton_first held, foldl_pressing Nat.one_pos (by decide),
      List.takeWhile_cons_of_pos held, List.dropWhile_cons_of_pos held, List.length_cons,
      Nat.add_comm 1]

/-! ## The law of the button -/

/-- A press of `n` samples triggers the factory reset. -/
def FactoryPress (n : Nat) : Prop := .factoryReset ∈ (sampleButtons (List.replicate n 0)).actions

/-- The law for a sequence of samples: at most one action; a first press that ends leads to a
restart if it has one sample, and if it has more, never to a restart, and to the custom reset up
to the factory reset; a press that triggers the factory reset leads to that, and a press that
lasts long enough does trigger it. -/
structure Lawful (samples : List Word) : Prop where
  /-- At most one action. -/
  once : (sampleButtons samples).actions.length ≤ 1
  /-- A press of one sample. -/
  short : afterPress samples ≠ [] → (firstPress samples).length = 1 →
    (sampleButtons samples).actions = [.restart]
  /-- A press of more samples that does not trigger the factory reset. -/
  custom : afterPress samples ≠ [] → 2 ≤ (firstPress samples).length →
    ¬ FactoryPress (firstPress samples).length →
    (sampleButtons samples).actions = [.customReset]
  /-- A press of more samples never restarts. -/
  noRestart : afterPress samples ≠ [] → 2 ≤ (firstPress samples).length →
    .restart ∉ (sampleButtons samples).actions
  /-- A press that triggers the factory reset. -/
  factory : FactoryPress (firstPress samples).length →
    (sampleButtons samples).actions = [.factoryReset]
  /-- A long press triggers it. -/
  long : ∃ n, ∀ m, n ≤ m → FactoryPress m

/-- One action at most. -/
theorem outcome_length_le (n : Nat) (ended : Bool) : (outcome n ended).length ≤ 1 := by
  unfold outcome
  split_ifs <;> simp only [List.length_nil, List.length_singleton, Nat.le_refl, Nat.zero_le]

/-- The factory reset is the outcome of a press beyond the threshold. -/
theorem factoryReset_mem_outcome_iff (n : Nat) (ended : Bool) :
    .factoryReset ∈ outcome n ended ↔ factoryResetThreshold < n := by
  unfold outcome
  split_ifs <;> simp <;> omega

/-- The factory reset is triggered by the sample after the threshold. -/
theorem factoryPress_iff (n : Nat) : FactoryPress n ↔ factoryResetThreshold < n := by
  have held : checkPushbutton 0 = true := by decide
  have pressed : ¬ released 0 = true := by decide
  rw [FactoryPress, actions_eq, factoryReset_mem_outcome_iff, firstPress,
    List.dropWhile_replicate, if_neg pressed, List.takeWhile_replicate, if_pos held,
    List.length_replicate]

/-- The law holds for every sequence of samples but those whose first press ends after exactly as
many samples as the factory threshold. -/
theorem pushButton_lawful_iff (samples : List Word) :
    Lawful samples ↔
      ¬ ((firstPress samples).length = factoryResetThreshold ∧ afterPress samples ≠ []) := by
  have decided := actions_eq samples
  have long : ∃ n, ∀ m, n ≤ m → FactoryPress m :=
    ⟨factoryResetThreshold + 1, fun m above => (factoryPress_iff m).mpr above⟩
  constructor
  · rintro lawful ⟨exact_, ended⟩
    have allowed := lawful.noRestart ended (by rw [exact_]; decide)
    rw [decided, exact_, bne_iff_ne.mpr ended] at allowed
    exact absurd allowed (by decide)
  · intro apart
    have once : (sampleButtons samples).actions.length ≤ 1 := by
      rw [decided]
      exact outcome_length_le _ _
    have customThreshold : customFactoryThreshold = 2 := rfl
    have threshold : factoryResetThreshold = 10 := rfl
    refine ⟨once, fun ended one => ?_, fun ended some_ below => ?_, fun ended some_ => ?_,
      fun triggered => ?_, long⟩
    · rw [decided, one, bne_iff_ne.mpr ended]
      rfl
    · rw [factoryPress_iff] at below
      have other : (firstPress samples).length ≠ factoryResetThreshold := fun same =>
        apart ⟨same, ended⟩
      rw [decided, bne_iff_ne.mpr ended, outcome, if_neg (by omega), if_neg below, if_pos rfl,
        if_pos (by omega)]
    · have other : (firstPress samples).length ≠ factoryResetThreshold := fun same =>
        apart ⟨same, ended⟩
      rw [decided, bne_iff_ne.mpr ended, outcome, if_neg (by omega)]
      by_cases above : factoryResetThreshold < (firstPress samples).length
      · rw [if_pos above]
        decide
      · rw [if_neg above, if_pos rfl, if_pos (by omega)]
        decide
    · rw [factoryPress_iff] at triggered
      rw [decided, outcome, if_neg (by omega), if_pos triggered]

/-- Ten samples and a release. -/
def tenSamples : List Word := List.replicate 10 0 ++ [0x8000]

/-- They restart the machine. -/
theorem pushButton_tenSamples :
    (sampleButtons tenSamples).actions = [.restart] ∧ ¬ Lawful tenSamples := by
  have restarted : (sampleButtons tenSamples).actions = [.restart] := by decide
  refine ⟨restarted, fun lawful => ?_⟩
  have allowed := lawful.noRestart (by decide) (by decide)
  rw [restarted] at allowed
  exact allowed (List.mem_singleton_self _)

end Fvs318g.Verif.PushButton
