import Mathlib.Data.List.Induction
import Mathlib.Order.Basic

/-!
# Labelled transition systems

A system is a set of initial states and a partial step function: `none` says that the
label is not enabled in the state. Reachability is relative to a condition on the steps
taken, so that a law of every run and a law of the runs that avoid some step are instances
of one notion. The induction over runs, the passage from an executable run to
reachability and the transfer along a stuttering refinement are proved once, here.
-/

namespace Fvs318g.Lib

/-- Initial states and a partial, labelled step function. -/
structure System (σ ε : Type) where
  /-- States a run may start in. -/
  init : σ → Prop
  /-- The successor under a label, when the label is enabled. -/
  step : σ → ε → Option σ

namespace System

variable {σ ε τ δ : Type}

/-- States reached from an initial state by enabled steps that all meet `allowed`. -/
inductive ReachableBy (sys : System σ ε) (allowed : σ → ε → Prop) : σ → Prop where
  /-- A run of no steps. -/
  | init {s : σ} : sys.init s → sys.ReachableBy allowed s
  /-- One more allowed and enabled step. -/
  | step {s s' : σ} {e : ε} : sys.ReachableBy allowed s → allowed s e →
      sys.step s e = some s' → sys.ReachableBy allowed s'

/-- States reached by any run. -/
def Reachable (sys : System σ ε) : σ → Prop := sys.ReachableBy fun _ _ => True

variable {sys : System σ ε} {allowed : σ → ε → Prop}

/-- A property of the initial states that every allowed step keeps holds throughout. -/
@[elab_as_elim]
theorem ReachableBy.invariant {motive : σ → Prop} (base : ∀ s, sys.init s → motive s)
    (keep : ∀ s e s', motive s → allowed s e → sys.step s e = some s' → motive s') {s : σ}
    (reached : sys.ReachableBy allowed s) : motive s := by
  induction reached with
  | init start => exact base _ start
  | step _ admitted stepped ih => exact keep _ _ _ ih admitted stepped

/-- The invariant rule for runs without a condition on their steps. -/
@[elab_as_elim]
theorem Reachable.invariant {motive : σ → Prop} (base : ∀ s, sys.init s → motive s)
    (keep : ∀ s e s', motive s → sys.step s e = some s' → motive s') {s : σ}
    (reached : sys.Reachable s) : motive s :=
  ReachableBy.invariant base (fun s e s' held _ stepped => keep s e s' held stepped) reached

/-- Forgetting the condition on the steps. -/
theorem ReachableBy.reachable {s : σ} (reached : sys.ReachableBy allowed s) : sys.Reachable s := by
  induction reached with
  | init start => exact .init start
  | step _ _ stepped ih => exact .step ih trivial stepped

/-- A map that sends initial states to initial states, and every step to a step or to a
stutter, sends reachable states to reachable states. -/
theorem ReachableBy.project {abstract : System τ δ} {f : σ → τ} {permitted : τ → δ → Prop}
    (base : ∀ s, sys.init s → abstract.init (f s))
    (simulate : ∀ s e s', allowed s e → sys.step s e = some s' →
      f s' = f s ∨ ∃ d, permitted (f s) d ∧ abstract.step (f s) d = some (f s'))
    {s : σ} (reached : sys.ReachableBy allowed s) : abstract.ReachableBy permitted (f s) := by
  induction reached with
  | init start => exact .init (base _ start)
  | step _ admitted stepped ih =>
    rcases simulate _ _ _ admitted stepped with same | ⟨d, admissible, taken⟩
    · rw [same]
      exact ih
    · exact .step ih admissible taken

/-- Run a list of labels, refusing at the first one that is not enabled. -/
def run (sys : System σ ε) : σ → List ε → Option σ
  | s, [] => some s
  | s, e :: es => (sys.step s e).bind fun s' => run sys s' es

variable {es : List ε}

/-- An executed run whose labels are allowed everywhere ends in a state reached by allowed
steps. -/
theorem reachableBy_of_run {s s' : σ} (start : sys.ReachableBy allowed s)
    (admitted : ∀ e ∈ es, ∀ s, allowed s e) (ran : sys.run s es = some s') :
    sys.ReachableBy allowed s' := by
  induction es generalizing s with
  | nil =>
    cases ran
    exact start
  | cons e es ih =>
    obtain ⟨middle, stepped, rest⟩ := Option.bind_eq_some_iff.mp ran
    have first := admitted e (List.mem_cons_self ..) s
    exact ih (.step start first stepped)
      (fun e member => admitted e (List.mem_cons_of_mem _ member)) rest

/-- An executed run ends in a reachable state. -/
theorem reachable_of_run {s s' : σ} (start : sys.Reachable s) (ran : sys.run s es = some s') :
    sys.Reachable s' :=
  reachableBy_of_run start (fun _ _ _ => trivial) ran

/-- Runs whose steps are all enabled and allowed, with their labels. -/
inductive RunsBy (sys : System σ ε) (allowed : σ → ε → Prop) : σ → List ε → σ → Prop where
  /-- The run without steps. -/
  | nil (s : σ) : sys.RunsBy allowed s [] s
  /-- A step and the run behind it. -/
  | cons {s s' s'' : σ} {e : ε} {es : List ε} : allowed s e → sys.step s e = some s' →
      sys.RunsBy allowed s' es s'' → sys.RunsBy allowed s (e :: es) s''

/-- Run a list of labels, refusing at the first one that is not enabled or fails a check. -/
def runBy (sys : System σ ε) (check : σ → ε → Bool) : σ → List ε → Option σ
  | s, [] => some s
  | s, e :: es => if check s e then (sys.step s e).bind fun s' => runBy sys check s' es else none

/-- A checked run is an allowed one. -/
theorem runsBy_of_runBy {check : σ → ε → Bool} (sound : ∀ s e, check s e = true → allowed s e)
    {s s' : σ} (ran : sys.runBy check s es = some s') : sys.RunsBy allowed s es s' := by
  induction es generalizing s with
  | nil =>
    obtain rfl := Option.some.inj ran
    exact .nil s
  | cons e es ih =>
    rw [runBy] at ran
    by_cases checked : check s e = true
    · rw [if_pos checked] at ran
      obtain ⟨middle, stepped, rest⟩ := Option.bind_eq_some_iff.mp ran
      exact .cons (sound s e checked) stepped (ih rest)
    · rw [if_neg checked] at ran
      cases ran

/-- A run whose steps are all allowed stays among the states reached by allowed steps. -/
theorem RunsBy.reachableBy {s s' : σ} (ran : sys.RunsBy allowed s es s')
    (start : sys.ReachableBy allowed s) : sys.ReachableBy allowed s' := by
  induction ran with
  | nil s => exact start
  | cons admitted stepped _ ih => exact ih (.step start admitted stepped)

/-- The invariant rule with a rank: when every step keeps the invariant and pays for the labels
that are counted, there are no more of them than the rank at the start. -/
theorem RunsBy.ranked {good : σ → Prop} {rank : σ → Nat} {counted : ε → Bool}
    (keep : ∀ s e s', good s → allowed s e → sys.step s e = some s' →
      good s' ∧ rank s' + (if counted e then 1 else 0) ≤ rank s)
    {s s' : σ} (ran : sys.RunsBy allowed s es s') (start : good s) :
    good s' ∧ rank s' + es.countP counted ≤ rank s := by
  induction ran with
  | nil s => exact ⟨start, Nat.le_refl _⟩
  | cons admitted stepped _ ih =>
    have first := keep _ _ _ start admitted stepped
    have rest := ih first.1
    apply And.intro rest.1
    rw [List.countP_cons]
    omega

end System

/-! ## Guards -/

section Guards

variable {σ : Type} {guard : Prop} [Decidable guard] {s s' : σ}

/-- A guarded step that was taken met its guard. -/
theorem guarded_step (stepped : (if guard then some s else none) = some s') : guard ∧ s = s' := by
  have parts := Option.ite_none_right_eq_some.mp stepped
  exact ⟨parts.1, Option.some.inj parts.2⟩

/-- A step that was taken is not one that is refused. -/
theorem unrefused_step (stepped : (if guard then none else some s) = some s') :
    ¬ guard ∧ s = s' := by
  have parts := Option.ite_none_left_eq_some.mp stepped
  exact ⟨parts.1, Option.some.inj parts.2⟩

end Guards

/-! ## Sequences of inputs to a total step function -/

section Inputs

variable {σ ε : Type}

/-- A law about each element of a list and what stands before it, for a longer list. -/
theorem forall_split_cons {P : List ε → ε → Prop} {e : ε} :
    (∀ done x rest, e :: es = done ++ x :: rest → P done x) ↔
      P [] e ∧ ∀ done x rest, es = done ++ x :: rest → P (e :: done) x := by
  constructor
  · intro law
    apply And.intro (law [] e es rfl)
    intro done x rest split
    exact law (e :: done) x rest (by rw [split]; rfl)
  · rintro ⟨first, later⟩ done x rest split
    cases done with
    | nil =>
      obtain ⟨rfl, rfl⟩ := List.cons.inj split
      exact first
    | cons d done =>
      obtain ⟨rfl, behind⟩ := List.cons.inj split
      exact later done x rest behind

/-- When an invariant makes a law for one input equivalent to a condition on it, and inputs
that keep the law keep the invariant, then the law holds along a sequence of inputs exactly
when the condition does. -/
theorem law_along_iff {step : σ → ε → σ} {invariant : σ → Prop} {law condition : σ → ε → Prop}
    (exact_ : ∀ s e, invariant s → (law s e ↔ condition s e))
    (keep : ∀ s e, invariant s → law s e → invariant (step s e)) (es : List ε) {s : σ}
    (start : invariant s) :
    (∀ done e rest, es = done ++ e :: rest → law (done.foldl step s) e) ↔
      ∀ done e rest, es = done ++ e :: rest → condition (done.foldl step s) e := by
  induction es generalizing s with
  | nil =>
    have none : ∀ (done : List ε) e rest, [] ≠ done ++ e :: rest := by simp
    exact iff_of_true (fun done e rest split => absurd split (none done e rest))
      (fun done e rest split => absurd split (none done e rest))
  | cons e es ih =>
    rw [forall_split_cons, forall_split_cons]
    constructor
    · rintro ⟨first, later⟩
      exact ⟨(exact_ s e start).mp first, (ih (keep s e start first)).mp later⟩
    · rintro ⟨first, later⟩
      have held := (exact_ s e start).mpr first
      exact ⟨held, (ih (keep s e start held)).mpr later⟩

/-- What a state stands for follows a specification through all prefixes of a sequence of inputs
exactly when each input moves it as the specification says. -/
theorem follows_along_iff {α : Type} {step : σ → ε → σ} (view : σ → α) (spec : α → ε → α)
    (es : List ε) (s : σ) :
    (∀ done rest, es = done ++ rest → view (done.foldl step s) = done.foldl spec (view s)) ↔
      ∀ done e rest, es = done ++ e :: rest →
        view (step (done.foldl step s) e) = spec (view (done.foldl step s)) e := by
  constructor
  · intro follows done e rest split
    have before := follows done (e :: rest) split
    have behind := follows (done ++ [e]) rest (by rw [split, List.append_assoc]; rfl)
    rw [List.foldl_append, List.foldl_append, ← before] at behind
    exact behind
  · intro moves done
    induction done using List.reverseRecOn with
    | nil => exact fun _ _ => rfl
    | append_singleton done e ih =>
      intro rest split
      rw [List.append_assoc] at split
      rw [List.foldl_append, List.foldl_append, ← ih (e :: rest) split]
      exact moves done e rest split

end Inputs

end Fvs318g.Lib
