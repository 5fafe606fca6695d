import Fvs318g.Char.GpioIrq

/-!
# Events of the pins and calls of their handlers

An event that comes before the raw state is read is seen by the run that reads it, and one that
comes while no run is under way stays latched until one starts. In between the handler clears the
raw state of pins that it has not seen, and the interrupt core clears the latch when the handler
has returned: an event that falls there is lost.
-/

namespace Fvs318g.Verif.GpioIrq

open Lib Fvs318g.Char

/-- When the line is quiet and no handler runs, every event on a pin with a handler has been
followed by a call of it. -/
def NoneLost (s : GpioIrqState) : Prop :=
  s.frames = [] → s.edgeLatched = false → ∀ p, s.unserved p = false

/-- What a pin event needs, if the pin has a handler: no run is under way, or the innermost one has
not read the raw state, or it has read the pin's bit and not come to the pin yet, or it is the
only one and has cleared the latch for the last time. -/
def Noticed (s : GpioIrqState) (p : Fin 21) : Prop :=
  match s.frames with
  | [] | .entered :: _ | .edgeCleared :: _ | .masked :: _ | [.lineCleared] => True
  | .loop gpioIntr i :: _ => i ≤ p.val ∧ gpioIntr.getLsbD (p.val - i) = true
  | _ => False

/-- The condition on the steps of a run. -/
def EventsNoticed (s : GpioIrqState) : GpioEvent → Prop
  | .pin p => s.gpioIsr p = true → Noticed s p
  | _ => True

/-! ## What a pin waits for -/

/-- A call of the pin's handler is still to come. -/
def Awaited (s : GpioIrqState) (p : Fin 21) : Prop :=
  match s.frames with
  | [] | [.lineCleared] => s.edgeLatched = true ∧ s.intrRawState.getLsbD p.val = true
  | .entered :: _ | .edgeCleared :: _ | .masked :: _ => s.intrRawState.getLsbD p.val = true
  | .loop gpioIntr i :: _ => i ≤ p.val ∧ gpioIntr.getLsbD (p.val - i) = true
  | _ => False

/-- The interrupt is masked from the entry of a run until the handler opens the mask. -/
def Shut : List HandlerPhase → Bool
  | .entered :: _ | .edgeCleared :: _ | .masked :: _ | .loop _ _ :: _ | .statusCleared :: _ => true
  | _ => false

/-- What holds throughout. -/
structure Tracked (s : GpioIrqState) : Prop where
  /-- Only pins with a handler are waited for. -/
  registered : ∀ p, s.unserved p = true → s.gpioIsr p = true
  /-- A pin that waits will be called. -/
  awaited : ∀ p, s.unserved p = true → Awaited s p
  /-- The mask is closed up to the end of the handler. -/
  shut : Shut s.frames = true → s.intcMasked = true
  /-- A run that is interrupted has opened the mask. -/
  below : ∀ phase ∈ s.frames.tail, phase = .unmasked

section Steps

variable {s : GpioIrqState}

/-- Writing the table of handlers drops what is owed to a line without one. -/
theorem tracked_writeGpioIsr (tracked : Tracked s) (pin : Int) (funcptr : Bool) :
    Tracked (writeGpioIsr pin funcptr s) := by
  have owed : ∀ p, (writeGpioIsr pin funcptr s).unserved p = true →
      s.unserved p = true ∧ (funcptr = true ∨ (p.val : Int) ≠ pin) := by
    intro p waiting
    simp only [writeGpioIsr, Bool.and_eq_true, Bool.or_eq_true, decide_eq_true_eq] at waiting
    exact waiting
  refine ⟨fun p waiting => ?_, fun p waiting => tracked.awaited p (owed p waiting).1,
    tracked.shut, tracked.below⟩
  obtain ⟨before, kept⟩ := owed p waiting
  have registered := tracked.registered p before
  simp only [writeGpioIsr]
  by_cases here : (p.val : Int) = pin
  · rw [if_pos here]
    exact kept.resolve_right fun other => other here
  · rw [if_neg here]
    exact registered

/-- The registers of the settings are not looked at. -/
theorem Tracked.withRegs (tracked : Tracked s) (regs : GpioRegs) :
    Tracked { s with regs := regs } :=
  ⟨tracked.registered, tracked.awaited, tracked.shut, tracked.below⟩

/-- Registering a handler. -/
theorem tracked_gpioSetIntr (tracked : Tracked s) (settings : List (GpioReg × Word))
    (funcptr : Bool) (pin : Int) : Tracked (gpioSetIntr settings funcptr pin s) := by
  unfold gpioSetIntr
  split
  · exact (tracked_writeGpioIsr (tracked.withRegs _) pin funcptr).withRegs _
  · exact tracked

/-- Clearing a handler. -/
theorem tracked_gpioClearIntr (tracked : Tracked s) (pin : Int) :
    Tracked (gpioClearIntr pin s) := by
  unfold gpioClearIntr
  split
  · exact (tracked_writeGpioIsr tracked pin false).withRegs _
  · exact tracked

/-- An event sets the bit of its pin. -/
theorem getLsbD_pinEvent_self (p : Fin 21) : (pinEvent p s).intrRawState.getLsbD p.val = true := by
  have inside : p.val < 32 := by omega
  simp [pinEvent, inside]

/-- An event clears no bit. -/
theorem getLsbD_pinEvent_of_set (p : Fin 21) {i : Nat} (set : s.intrRawState.getLsbD i = true) :
    (pinEvent p s).intrRawState.getLsbD i = true := by
  simp only [pinEvent, BitVec.getLsbD_or, set, Bool.true_or]

/-- An event does not take back a call that is to come. -/
theorem awaited_pinEvent (p : Fin 21) {q : Fin 21} (awaited : Awaited s q) :
    Awaited (pinEvent p s) q := by
  have kept := @getLsbD_pinEvent_of_set s p q.val
  have latched : (pinEvent p s).edgeLatched = true := rfl
  have same : (pinEvent p s).frames = s.frames := rfl
  unfold Awaited at awaited ⊢
  rw [same]
  generalize s.frames = frames at awaited
  rcases frames with _ | ⟨phase, outer⟩
  · exact ⟨latched, kept awaited.2⟩
  · cases phase with
    | entered => exact kept awaited
    | edgeCleared => exact kept awaited
    | masked => exact kept awaited
    | loop gpioIntr i => exact awaited
    | statusCleared => exact awaited
    | unmasked => exact awaited
    | irqsOff => exact awaited
    | lineCleared =>
      cases outer with
      | nil => exact ⟨latched, kept awaited.2⟩
      | cons below rest => exact awaited

/-- An event that is noticed has a call to come. -/
theorem awaited_of_noticed {p : Fin 21} (noticed : Noticed s p) : Awaited (pinEvent p s) p := by
  have set := @getLsbD_pinEvent_self s p
  have latched : (pinEvent p s).edgeLatched = true := rfl
  have same : (pinEvent p s).frames = s.frames := rfl
  unfold Noticed at noticed
  unfold Awaited
  rw [same]
  generalize s.frames = frames at noticed
  rcases frames with _ | ⟨phase, outer⟩
  · exact ⟨latched, set⟩
  · cases phase with
    | entered => exact set
    | edgeCleared => exact set
    | masked => exact set
    | loop gpioIntr i => exact noticed
    | statusCleared => exact noticed
    | unmasked => exact noticed
    | irqsOff => exact noticed
    | lineCleared =>
      cases outer with
      | nil => exact ⟨latched, set⟩
      | cons below rest => exact noticed

/-- A pin changes. -/
theorem tracked_pinEvent (tracked : Tracked s) {p : Fin 21}
    (noticed : s.gpioIsr p = true → Noticed s p) : Tracked (pinEvent p s) := by
  have owed : ∀ q, (pinEvent p s).unserved q = true →
      s.unserved q = true ∨ (q = p ∧ s.gpioIsr p = true) := by
    intro q waiting
    simp only [pinEvent] at waiting
    split at waiting
    · next registered =>
      by_cases here : q = p
      · exact Or.inr ⟨here, registered⟩
      · rw [Function.update_of_ne here] at waiting
        exact Or.inl waiting
    · exact Or.inl waiting
  refine ⟨fun q waiting => ?_, fun q waiting => ?_, tracked.shut, tracked.below⟩
  · rcases owed q waiting with before | ⟨here, registered⟩
    · exact tracked.registered q before
    · rw [here]
      exact registered
  · rcases owed q waiting with before | ⟨here, registered⟩
    · exact awaited_pinEvent p (tracked.awaited q before)
    · rw [here]
      exact awaited_of_noticed (noticed registered)

/-- With the mask open and interrupts on, every run under way has opened the mask. -/
theorem interruptible (tracked : Tracked s) (unmasked : s.intcMasked = false)
    (on : irqsOn s.frames = true) : ∀ phase ∈ s.frames, phase = .unmasked := by
  have open_ : Shut s.frames = false :=
    Bool.eq_false_iff.mpr fun shut => absurd (tracked.shut shut) (by rw [unmasked]; decide)
  have below := tracked.below
  rcases frames : s.frames with _ | ⟨phase, outer⟩
  · intro phase member
    exact absurd member List.not_mem_nil
  · rw [frames] at open_ on below
    intro other member
    rcases List.mem_cons.mp member with here | later
    · rw [here]
      cases phase with
      | unmasked => rfl
      | irqsOff => exact absurd on Bool.false_ne_true
      | lineCleared => exact absurd on Bool.false_ne_true
      | entered => exact absurd open_.symm Bool.false_ne_true
      | edgeCleared => exact absurd open_.symm Bool.false_ne_true
      | masked => exact absurd open_.symm Bool.false_ne_true
      | loop gpioIntr i => exact absurd open_.symm Bool.false_ne_true
      | statusCleared => exact absurd open_.symm Bool.false_ne_true
    · exact below other later

/-- The interrupt is taken. -/
theorem tracked_irqTaken (tracked : Tracked s) {s' : GpioIrqState}
    (taken : irqTaken s = some s') : Tracked s' := by
  obtain ⟨⟨_, unmasked, on⟩, rfl⟩ := guarded_step taken
  have below := interruptible tracked unmasked on
  refine ⟨tracked.registered, fun p waiting => ?_, fun _ => rfl, below⟩
  have awaited := tracked.awaited p waiting
  unfold Awaited at awaited
  change s.intrRawState.getLsbD p.val = true
  rcases frames : s.frames with _ | ⟨phase, outer⟩
  · rw [frames] at awaited
    exact awaited.2
  · -- Nothing waits for a run that has opened the mask.
    have opened := below phase (by rw [frames]; exact List.mem_cons_self)
    rw [frames, opened] at awaited
    exact absurd awaited id

/-- A line of the loop serves its own pin. -/
theorem serveLine_unserved {gpioIntr : Word} {i p : Fin 21}
    (waiting : (serveLine gpioIntr i s).unserved p = true) :
    s.unserved p = true ∧ (p = i → gpioIntr &&& 0x1 = 0x1 → s.gpioIsr i = false) := by
  unfold serveLine at waiting
  split at waiting
  · by_cases here : p = i
    · simp only [here, Function.update_self, Bool.false_eq_true] at waiting
    · simp only [Function.update_of_ne here] at waiting
      exact ⟨waiting, fun same => absurd same here⟩
  · next skipped =>
    refine ⟨waiting, fun _ set => ?_⟩
    exact Bool.eq_false_iff.mpr fun registered => skipped ⟨set, registered⟩

/-- The lowest bit of a word, as the loop tests it. -/
theorem and_one_eq_iff (x : Word) : x &&& 0x1 = 0x1 ↔ x.getLsbD 0 = true := by
  have low : x &&& 0x1 = (BitVec.ofBool (x.getLsbD 0)).setWidth 32 :=
    BitVec.and_one_eq_setWidth_ofBool_getLsbD
  rw [low]
  cases x.getLsbD 0 <;> decide

/-- A line of the loop changes nothing but what is owed to its pin. -/
theorem serveLine_frame (gpioIntr : Word) (i : Fin 21) :
    (serveLine gpioIntr i s).gpioIsr = s.gpioIsr ∧
      (serveLine gpioIntr i s).intcMasked = s.intcMasked := by
  unfold serveLine
  split <;> exact ⟨rfl, rfl⟩

/-- One round of the loop: the pins behind the line are still to come. -/
theorem tracked_loop (tracked : Tracked s) {gpioIntr : Word} {i : Nat}
    {outer : List HandlerPhase} (frames : s.frames = .loop gpioIntr i :: outer) :
    Tracked (phaseStep (.loop gpioIntr i) outer s) := by
  have awaited := tracked.awaited
  have shut := tracked.shut
  have below := tracked.below
  unfold Awaited at awaited
  rw [frames] at awaited shut below
  simp only [phaseStep]
  by_cases inside : i < 21
  · rw [dif_pos inside]
    have frame := @serveLine_frame s gpioIntr ⟨i, inside⟩
    refine ⟨fun p waiting => ?_, fun p waiting => ?_, fun _ => ?_, below⟩
    · have registered := tracked.registered p (serveLine_unserved waiting).1
      rw [← frame.1] at registered
      exact registered
    · obtain ⟨before, skipped⟩ := serveLine_unserved waiting
      have registered := tracked.registered p before
      obtain ⟨from_, set⟩ := awaited p before
      have later : p.val ≠ i := by
        intro here
        rw [here, Nat.sub_self] at set
        have same : p = ⟨i, inside⟩ := Fin.ext here
        have missing := skipped same ((and_one_eq_iff gpioIntr).mpr set)
        rw [← same, registered] at missing
        exact absurd missing (by decide)
      have next : 1 + (p.val - (i + 1)) = p.val - i := by omega
      refine ⟨by omega, ?_⟩
      rw [BitVec.getLsbD_ushiftRight, next]
      exact set
    · rw [frame.2]
      exact shut rfl
  · rw [dif_neg inside]
    refine ⟨tracked.registered, fun p waiting => ?_, shut, below⟩
    have from_ := (awaited p waiting).1
    exact absurd p.isLt (by omega)

/-- The runs of the handler go on. -/
theorem tracked_phaseStep (tracked : Tracked s) {phase : HandlerPhase}
    {outer : List HandlerPhase} (frames : s.frames = phase :: outer) :
    Tracked (phaseStep phase outer s) := by
  have awaited := tracked.awaited
  have shut := tracked.shut
  have below := tracked.below
  unfold Awaited at awaited
  rw [frames] at awaited shut below
  cases phase with
  | entered => exact ⟨tracked.registered, awaited, shut, below⟩
  | edgeCleared => exact ⟨tracked.registered, awaited, fun _ => rfl, below⟩
  | masked => exact ⟨tracked.registered, fun p waiting => ⟨Nat.zero_le _, awaited p waiting⟩,
      shut, below⟩
  | loop gpioIntr i => exact tracked_loop tracked frames
  | statusCleared =>
    exact ⟨tracked.registered, awaited, fun shut => absurd shut Bool.false_ne_true, below⟩
  | unmasked =>
    exact ⟨tracked.registered, awaited, fun shut => absurd shut Bool.false_ne_true, below⟩
  | irqsOff =>
    exact ⟨tracked.registered, fun p waiting => absurd (awaited p waiting) id,
      fun shut => absurd shut Bool.false_ne_true, below⟩
  | lineCleared =>
    have open_ : Shut outer = false := by
      rcases outer with _ | ⟨phase, rest⟩
      · rfl
      · rw [below phase List.mem_cons_self]
        rfl
    refine ⟨tracked.registered, fun p waiting => ?_, fun shut => ?_, fun phase member => ?_⟩
    · have waits := awaited p waiting
      rcases outer with _ | ⟨phase, rest⟩
      · exact waits
      · exact absurd waits id
    · exact absurd (open_.symm.trans shut) Bool.false_ne_true
    · exact below phase (List.mem_of_mem_tail member)

end Steps

/-! ## Runs -/

/-- At the start nothing is waited for. -/
theorem tracked_init {s : GpioIrqState} (start : gpioIrqSystem.init s) : Tracked s := by
  obtain ⟨_, served, frames, _⟩ := start
  refine ⟨fun p waiting => ?_, fun p waiting => ?_, fun shut => ?_, fun phase member => ?_⟩
  · exact absurd ((served p).symm.trans waiting) Bool.false_ne_true
  · exact absurd ((served p).symm.trans waiting) Bool.false_ne_true
  · rw [frames] at shut
    exact absurd shut Bool.false_ne_true
  · rw [frames] at member
    exact absurd member List.not_mem_nil

/-- Every step with noticed events keeps track of the pins. -/
theorem tracked_step {s s' : GpioIrqState} {e : GpioEvent} (tracked : Tracked s)
    (noticed : EventsNoticed s e) (stepped : gpioIrqSystem.step s e = some s') : Tracked s' := by
  cases e with
  | setEdge funcptr trigBoth trigRising pin =>
    rw [← Option.some.inj stepped]
    exact tracked_gpioSetIntr tracked _ funcptr pin
  | setLevel funcptr trigLevel pin =>
    rw [← Option.some.inj stepped]
    exact tracked_gpioSetIntr tracked _ funcptr pin
  | clear pin =>
    rw [← Option.some.inj stepped]
    exact tracked_gpioClearIntr tracked pin
  | pin p =>
    rw [← Option.some.inj stepped]
    exact tracked_pinEvent tracked noticed
  | irq => exact tracked_irqTaken tracked stepped
  | handler =>
    rcases frames : s.frames with _ | ⟨phase, outer⟩
    · simp only [gpioIrqSystem, gpioStep, gpioIrqHandler, frames, reduceCtorEq] at stepped
    · simp only [gpioIrqSystem, gpioStep, gpioIrqHandler, frames, Option.some.injEq] at stepped
      rw [← stepped]
      exact tracked_phaseStep tracked frames

/-- In every run whose pin events are noticed, no event is lost. -/
theorem gpioIrq_noneLost (s : GpioIrqState) (reached : gpioIrqSystem.ReachableBy EventsNoticed s) :
    NoneLost s := by
  have tracked : Tracked s := by
    refine reached.invariant (fun s start => tracked_init start)
      (fun s e s' held noticed stepped => ?_)
    exact tracked_step held noticed stepped
  intro quiet unlatched p
  apply Bool.eq_false_iff.mpr
  intro waiting
  have awaited := tracked.awaited p waiting
  unfold Awaited at awaited
  rw [quiet, unlatched] at awaited
  exact absurd awaited.1 Bool.false_ne_true

/-- The port behind `str9100_gpio_init`, with clear registers. -/
def gpioStart : GpioIrqState where
  regs _ := 0
  gpioIsr _ := false
  intrRawState := 0
  edgeLatched := false
  intcMasked := false
  frames := []
  unserved _ := false

/-- It is an initial state. -/
theorem gpioStart_init : gpioIrqSystem.init gpioStart := ⟨fun _ => rfl, fun _ => rfl, rfl, rfl⟩

/-- A handler for pin 0, an event and a whole run of the interrupt handler. -/
def servedTrace : List GpioEvent :=
  [.setEdge true 0 1 0, .pin 0, .irq] ++ List.replicate 29 .handler

/-- Its event comes while no handler runs, and is served. -/
theorem gpioIrq_servedTrace :
    ∃ s, gpioIrqSystem.ReachableBy EventsNoticed s ∧ s.gpioIsr 0 = true ∧ NoneLost s := by
  let check : GpioIrqState → GpioEvent → Bool := fun s e =>
    match e with
    | .pin _ => s.frames.isEmpty
    | _ => true
  have sound : ∀ s e, check s e = true → EventsNoticed s e := by
    intro s e checked
    cases e with
    | pin p =>
      intro _
      have empty : s.frames = [] := List.isEmpty_iff.mp checked
      unfold Noticed
      rw [empty]
      trivial
    | setEdge funcptr trigBoth trigRising pin => trivial
    | setLevel funcptr trigLevel pin => trivial
    | clear pin => trivial
    | irq => trivial
    | handler => trivial
  have ran : (gpioIrqSystem.runBy check gpioStart servedTrace).any
      (fun s => decide (s.frames = [] ∧ s.edgeLatched = false ∧ s.gpioIsr 0 = true)) = true := by
    decide +kernel
  obtain ⟨s, ended, facts⟩ := (Option.any_eq_true ..).mp ran
  have facts := of_decide_eq_true facts
  have reached := (System.runsBy_of_runBy sound ended).reachableBy (.init gpioStart_init)
  exact ⟨s, reached, facts.2.2, gpioIrq_noneLost s reached⟩

/-- A second event on pin 0 when the loop has gone past it. The interrupt is taken again as soon as
the mask is open, but the raw state is gone. -/
def lostTrace : List GpioEvent :=
  [.setEdge true 0 1 0, .pin 0, .irq] ++ List.replicate 4 .handler ++ [.pin 0] ++
    List.replicate 22 .handler ++ [.irq] ++ List.replicate 29 .handler ++
    List.replicate 3 .handler

/-- No call of the handler follows the second event. -/
theorem gpioIrq_lostTrace : ∃ s, gpioIrqSystem.Reachable s ∧ ¬ NoneLost s := by
  have ran : (gpioIrqSystem.run gpioStart lostTrace).any
      (fun s => decide (s.frames = [] ∧ s.edgeLatched = false ∧ s.unserved 0 = true)) = true := by
    decide +kernel
  obtain ⟨s, ended, facts⟩ := (Option.any_eq_true ..).mp ran
  have facts := of_decide_eq_true facts
  refine ⟨s, System.reachable_of_run (.init gpioStart_init) ended, fun none_ => ?_⟩
  exact absurd ((none_ facts.1 facts.2.1 0).symm.trans facts.2.2) Bool.false_ne_true

end Fvs318g.Verif.GpioIrq
