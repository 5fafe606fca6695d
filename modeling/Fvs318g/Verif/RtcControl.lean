import Fvs318g.Char.Rtc
import Fvs318g.Lib.System

/-!
# The control register of the clock

After the initialisation only the enable bit is set. Switching the alarm interrupt on and off
and a read of the device change the match alarm bit alone; setting an alarm writes the whole
register and stops the clock.
-/

namespace Fvs318g.Verif.RtcControl

open Lib Fvs318g.Char

/-- What the users of the device and its interrupt do. -/
inductive RtcEvent where
  /-- `rtc_ioctl`. -/
  | ioctl (cmd : RtcCmd) (arg : IoctlArg)
  /-- A pass of `rtc_read`. -/
  | read (arg : ReadArg)
  /-- `rtc_fire`, with the interrupt status. -/
  | fire (status : Word)

/-- The state behind an event. -/
def step (s : RtcState) : RtcEvent → RtcState
  | .ioctl cmd arg => (rtcIoctl cmd arg s).2.2
  | .read arg => (rtcRead arg s).2
  | .fire status => rtcFire status s

/-- The enable bit is set behind the event, and no other bit but that of the match alarm has
changed. -/
def ControlKept (s : RtcState) (e : RtcEvent) : Prop :=
  (step s e).control.getLsbD 0 = true ∧
    ∀ i, i ≠ 5 → (step s e).control.getLsbD i = s.control.getLsbD i

/-- The event sets an alarm: `RTC_ALM_SET` with an argument that can be copied. -/
def setsAlarm : RtcEvent → Bool
  | .ioctl cmd arg => cmd == .almSet && arg.fromUser.isSome
  | _ => false

/-- The clock runs, with the alarm interrupt on or off. -/
def Running (s : RtcState) : Prop := s.control = 0x1 ∨ s.control = 0x21

/-- The control register behind an event that sets no alarm: unchanged, or with the alarm bit
cleared or set in its low byte. -/
theorem control_step (s : RtcState) {e : RtcEvent} (quiet : setsAlarm e = false) :
    (step s e).control = s.control ∨
      (step s e).control = (s.control.setWidth 8 &&& ~~~rtcIntrAlarm).setWidth 32 ∨
      (step s e).control = (s.control.setWidth 8 ||| rtcIntrAlarm).setWidth 32 := by
  cases e with
  | fire status => exact Or.inl rfl
  | read arg =>
    simp only [step, rtcRead]
    split
    · exact Or.inl rfl
    · split
      · exact Or.inr (Or.inl rfl)
      · split
        · exact Or.inr (Or.inl rfl)
        · split
          · exact Or.inr (Or.inl rfl)
          · exact Or.inl rfl
  | ioctl cmd arg =>
    cases cmd with
    | rdTime =>
      simp only [step, rtcIoctl]
      split <;> exact Or.inl rfl
    | setTime =>
      simp only [step, rtcIoctl]
      split
      · exact Or.inl rfl
      · split
        · exact Or.inl rfl
        · simp only [setRtcTime]
          split <;> exact Or.inl rfl
    | almSet =>
      have fault : arg.fromUser = none := by simpa [setsAlarm] using quiet
      apply Or.inl
      rw [step, rtcIoctl, fault]
    | almRead =>
      simp only [step, rtcIoctl]
      split <;> exact Or.inl rfl
    | aieOff => exact Or.inr (Or.inl rfl)
    | aieOn => exact Or.inr (Or.inr rfl)
    | other => exact Or.inl rfl

/-- Without an alarm the clock keeps running. -/
theorem running_step {s : RtcState} {e : RtcEvent} (running : Running s)
    (quiet : setsAlarm e = false) : Running (step s e) := by
  have cases := control_step s quiet
  unfold Running at running ⊢
  rcases running with off | on
  · rw [off] at cases
    rcases cases with same | masked | set
    · exact Or.inl same
    · exact Or.inl masked
    · exact Or.inr set
  · rw [on] at cases
    rcases cases with same | masked | set
    · exact Or.inr same
    · exact Or.inl masked
    · exact Or.inr set

/-- Setting an alarm leaves the match alarm bit alone in the register. -/
theorem control_setsAlarm (s : RtcState) {e : RtcEvent} (alarm : setsAlarm e = true) :
    (step s e).control = 0x20 := by
  cases e with
  | fire status => cases alarm
  | read arg => cases alarm
  | ioctl cmd arg =>
    simp only [setsAlarm, Bool.and_eq_true, beq_iff_eq] at alarm
    rw [alarm.1]
    obtain ⟨tm, copied⟩ := Option.isSome_iff_exists.mp alarm.2
    rw [step, rtcIoctl, copied]
    rfl

/-- The bits of a running clock apart from that of the match alarm. -/
theorem getLsbD_running {s : RtcState} (running : Running s) {i : Nat} (other : i ≠ 5) :
    s.control.getLsbD i = decide (i = 0) := by
  by_cases inside : i < 32
  · have low : ∀ i < 32, i ≠ 5 → (0x1 : Word).getLsbD i = decide (i = 0) := by decide
    have high : ∀ i < 32, i ≠ 5 → (0x21 : Word).getLsbD i = decide (i = 0) := by decide
    rcases running with off | on
    · rw [off]
      exact low i inside other
    · rw [on]
      exact high i inside other
  · rw [BitVec.getLsbD_of_ge _ _ (by omega)]
    exact (decide_eq_false (by omega)).symm

/-- A running clock keeps its control bits exactly if no alarm is set. -/
theorem controlKept_iff {s : RtcState} (running : Running s) (e : RtcEvent) :
    ControlKept s e ↔ setsAlarm e = false := by
  constructor
  · intro kept
    by_contra alarm
    rw [Bool.not_eq_false] at alarm
    have stopped := kept.1
    rw [control_setsAlarm s alarm] at stopped
    exact absurd stopped (by decide)
  · intro quiet
    have runs := running_step running quiet
    apply And.intro (getLsbD_running runs (by decide))
    intro i other
    rw [getLsbD_running runs other, getLsbD_running running other]

/-- The initialisation starts the clock. -/
theorem running_init (s : RtcState) : Running (str9100RtcInit 0 s).2 := by
  apply Or.inl
  change (0 : Word) ||| rtcEnableBit = 1
  decide

/-- After the initialisation a sequence of events keeps the clock enabled and its other control
bits as they are exactly if no event of it sets an alarm. -/
theorem clock_kept_iff (s : RtcState) (es : List RtcEvent) :
    ((str9100RtcInit 0 s).2.control.getLsbD 0 = true ∧
      ∀ done e rest, es = done ++ e :: rest →
        ControlKept (done.foldl step (str9100RtcInit 0 s).2) e) ↔
      ∀ e ∈ es, setsAlarm e = false := by
  have exact_ : ∀ s e, Running s → (ControlKept s e ↔ (fun _ e => setsAlarm e = false) s e) :=
    fun s e running => controlKept_iff running e
  have keep : ∀ s e, Running s → ControlKept s e → Running (step s e) :=
    fun s e running kept => running_step running ((controlKept_iff running e).mp kept)
  rw [law_along_iff exact_ keep es (running_init s)]
  constructor
  · intro along e member
    obtain ⟨done, rest, split⟩ := List.append_of_mem member
    exact along.2 done e rest split
  · intro quiet
    apply And.intro (getLsbD_running (running_init s) (by decide))
    intro done e rest split
    exact quiet e (by simp [split])

/-- An alarm at midnight, set behind the initialisation, clears the enable bit. -/
theorem clock_stopped_by_alarm : let s := (str9100RtcInit 0 ⟨0, 0, 0, 0, 0, 0, 0, 0, true, false⟩).2
    let e := RtcEvent.ioctl .almSet
      ⟨false, some ⟨0, 0, 0, 0, 0, 0, 0, 0⟩, false, ⟨0, 0, 0, 0⟩⟩
    s.control.getLsbD 0 = true ∧ (step s e).control.getLsbD 0 = false := by
  decide

end Fvs318g.Verif.RtcControl
