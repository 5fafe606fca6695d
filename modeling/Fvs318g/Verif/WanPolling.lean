import Fvs318g.Gsw.WanPolling
import Fvs318g.Lib.System

/-!
# The WAN link as the polling shows it

After each run the carrier flag should be the link bit of the value that the run read first,
and with link and negotiation complete the port should have the speed of that value. The
first can fail only while the flag has never followed the link: the remembered status starts
at zero, as if the link were down, and the flag starts on. The second can fail because the
speed is taken from a second read, and stays wrong as long as the first value is read again.
-/

namespace Fvs318g.Verif.WanPolling

open Lib Gsw

/-! ## Status values -/

variable (data : BitVec 16)

/-- The link bit is among the compared bits. -/
@[simp]
theorem linkUp_statusBits : linkUp (statusBits data) = linkUp data := by
  simp [linkUp, statusBits]

/-- So is the negotiation bit. -/
@[simp]
theorem negotiated_statusBits : negotiated (statusBits data) = negotiated data := by
  simp [negotiated, statusBits]

/-- So is the speed code. -/
@[simp]
theorem speedCode_statusBits : speedCode (statusBits data) = speedCode data := by
  rw [speedCode, speedCode, statusBits, BitVec.ushiftRight_and_distrib, BitVec.and_assoc]
  congr 1

/-- The link bits of two values differ. -/
theorem linkUp_xor (a b : BitVec 16) : linkUp (a ^^^ b) = (linkUp a != linkUp b) := by
  simp [linkUp]

/-! ## Speed -/

/-- The speed and duplex bits of a port configuration. -/
def speedBits (portConfig : Word) : Word := field portConfig 8 3

/-- The speed and duplex bits that `get_set_speed` assigns to the code of a value. -/
def assigned (data : BitVec 16) : Word := speedBits (getSetSpeed data 0)

/-- The four bits that `get_set_speed` writes for a code. -/
def speedValue : Nat → Word
  | 7 => 0xc
  | 6 => 0x4
  | 5 => 0xa
  | 4 => 0xa
  | 3 => 0x2
  | 2 => 0x8
  | _ => 0x0

/-- A speed code has three bits. -/
theorem speedCode_lt : (speedCode data).toNat < 8 := by
  have bound : (speedCode data).toNat ≤ (0x7 : BitVec 16).toNat := by
    rw [speedCode, BitVec.toNat_and]
    exact Nat.and_le_right
  exact Nat.lt_succ_of_le bound

/-- `get_set_speed` is one masked write, but for code zero. -/
theorem getSetSpeed_eq (portConfig : Word) (coded : (speedCode data).toNat ≠ 0) :
    getSetSpeed data portConfig =
      setBits portConfig (ones 32 4) 7 (speedValue (speedCode data).toNat) := by
  have bound := speedCode_lt data
  unfold getSetSpeed
  generalize (speedCode data).toNat = code at coded bound ⊢
  match code, coded, bound with
  | 7, _, _ => exact BitVec.or_assoc ..
  | 6, _, _ => rfl
  | 5, _, _ => exact BitVec.or_assoc ..
  | 4, _, _ => exact BitVec.or_assoc ..
  | 3, _, _ => rfl
  | 2, _, _ => rfl
  | 1, _, _ => exact (BitVec.or_zero ..).symm

/-- The speed bits after `get_set_speed` do not depend on the old ones, but for code zero. -/
theorem speedBits_getSetSpeed (portConfig : Word) : speedBits (getSetSpeed data portConfig) =
      if (speedCode data).toNat = 0 then speedBits portConfig else assigned data := by
  by_cases coded : (speedCode data).toNat = 0
  · rw [if_pos coded, getSetSpeed, coded]
    rfl
  · have written : ∀ old : Word, speedBits (getSetSpeed data old) =
        field (speedValue (speedCode data).toNat) 1 3 := by
      intro old
      rw [getSetSpeed_eq data old coded, speedBits]
      exact field_setBits_inside old _ (by decide) (by decide) (by decide)
    rw [if_neg coded, assigned, written, written]

/-! ## One run -/

/-- The law after a run that read `data` first. -/
structure Follows (data : BitVec 16) (s : WanState) : Prop where
  /-- The carrier flag is the link bit. -/
  carrier : s.carrier = linkUp data
  /-- With link up, negotiation complete and a code, the port has the speed of the code. -/
  speed : linkUp data = true → negotiated data = true → (speedCode data).toNat ≠ 0 →
    speedBits s.port1Cfg = assigned data

/-- The port has the speed of the remembered status. -/
def Remembered (s : WanState) : Prop :=
  linkUp s.pollingStatus = true → negotiated s.pollingStatus = true →
    (speedCode s.pollingStatus).toNat ≠ 0 → speedBits s.port1Cfg = assigned s.pollingStatus

/-- What a run needs: the flag shows the link unless the link bit changes, and when the status
changes to one with a speed, the second read has a code with the same speed, or none while
the port has that speed already. -/
structure Steady (s : WanState) (reads : BitVec 16 × BitVec 16) : Prop where
  /-- The flag, unless the link bit changes. -/
  carrier : linkUp s.pollingStatus = linkUp reads.1 → s.carrier = linkUp reads.1
  /-- The second read. -/
  speed : s.pollingStatus ≠ statusBits reads.1 → linkUp reads.1 = true →
    negotiated reads.1 = true → (speedCode reads.1).toNat ≠ 0 →
    (if (speedCode reads.2).toNat = 0 then speedBits s.port1Cfg else assigned reads.2) =
      assigned reads.1

variable {reads : BitVec 16 × BitVec 16}

/-- A run that reads the remembered status changes nothing. -/
theorem wanPolling_same {s : WanState} (same : s.pollingStatus = statusBits reads.1) :
    wanPolling s reads = s :=
  if_neg fun changed => changed same

/-- A run that reads another status. -/
theorem wanPolling_changed {s : WanState} (changed : s.pollingStatus ≠ statusBits reads.1) :
    wanPolling s reads =
      { pollingStatus := statusBits reads.1
        carrier := if linkUp s.pollingStatus = linkUp reads.1 then s.carrier else linkUp reads.1
        port1Cfg := if linkUp reads.1 = true ∧ negotiated reads.1 = true then
            getSetSpeed reads.2 s.port1Cfg
          else s.port1Cfg } := by
  rw [wanPolling, if_pos changed]
  simp only [linkUp_xor, linkUp_statusBits, negotiated_statusBits]
  cases before : linkUp s.pollingStatus <;> cases now : linkUp reads.1 <;> simp

/-- The remembered status after a run. -/
theorem wanPolling_status (s : WanState) (reads : BitVec 16 × BitVec 16) :
    (wanPolling s reads).pollingStatus = statusBits reads.1 := by
  by_cases same : s.pollingStatus = statusBits reads.1
  · rw [wanPolling_same same, same]
  · rw [wanPolling_changed same]

/-- A run keeps the law exactly when it is steady. -/
theorem follows_iff {s : WanState} (remembered : Remembered s) (reads : BitVec 16 × BitVec 16) :
    Follows reads.1 (wanPolling s reads) ↔ Steady s reads := by
  by_cases same : s.pollingStatus = statusBits reads.1
  · -- nothing changes: the speed is the remembered one
    have links : linkUp s.pollingStatus = linkUp reads.1 := by rw [same, linkUp_statusBits]
    rw [wanPolling_same same]
    constructor
    · intro follows
      exact ⟨fun _ => follows.carrier, fun changed => absurd same changed⟩
    · intro steady
      apply Follows.mk (steady.carrier links)
      rw [Remembered, same] at remembered
      simpa [assigned, getSetSpeed] using remembered
  · rw [wanPolling_changed same]
    constructor
    · intro follows
      apply Steady.mk
      · intro links
        have carrier := follows.carrier
        simp only [if_pos links] at carrier
        exact carrier
      · intro _ up complete coded
        have speed := follows.speed up complete coded
        simp only [if_pos (And.intro up complete), speedBits_getSetSpeed] at speed
        exact speed
    · intro steady
      apply Follows.mk
      · by_cases links : linkUp s.pollingStatus = linkUp reads.1
        · simp only [if_pos links]
          exact steady.carrier links
        · simp only [if_neg links]
      · intro up complete coded
        simp only [if_pos (And.intro up complete), speedBits_getSetSpeed]
        exact steady.speed same up complete coded

/-- After a run that keeps the law the port has the speed of the remembered status. -/
theorem remembered_of_follows {s : WanState} (follows : Follows reads.1 (wanPolling s reads)) :
    Remembered (wanPolling s reads) := by
  rw [Remembered, wanPolling_status]
  simpa [assigned, getSetSpeed] using follows.speed

/-! ## Sequences of runs -/

/-- For every sequence of reads, all runs keep the law exactly when all of them are steady. -/
theorem wan_followed_iff (port1Cfg : Word) (reads : List (BitVec 16 × BitVec 16)) :
    (∀ done run rest, reads = done ++ run :: rest →
        Follows run.1 ((done ++ [run]).foldl wanPolling (wanLoaded port1Cfg))) ↔
      ∀ done run rest, reads = done ++ run :: rest →
        Steady (done.foldl wanPolling (wanLoaded port1Cfg)) run := by
  have start : Remembered (wanLoaded port1Cfg) := by
    intro up
    have off : linkUp 0 = true := up
    exact absurd off (by decide)
  have exact_ : ∀ s run, Remembered s → (Follows run.1 (wanPolling s run) ↔ Steady s run) :=
    fun s run remembered => follows_iff remembered run
  have keep : ∀ s run, Remembered s → Follows run.1 (wanPolling s run) →
      Remembered (wanPolling s run) := fun s run _ follows => remembered_of_follows follows
  simp only [List.foldl_append, List.foldl_cons, List.foldl_nil]
  exact law_along_iff exact_ keep reads start

/-- The link is down when the module is loaded and stays down: the flag stays on. -/
theorem wan_not_followed :
    ((wanPolling (wanLoaded 0) (0, 0)).carrier = true ∧ linkUp 0 = false) ∧
      ¬ Follows 0 (wanPolling (wanLoaded 0) (0, 0)) ∧
      -- full duplex at 1000 on the first read, half duplex at 10 on the second
      ¬ Follows 0x8704 (wanPolling (wanLoaded 0) (0x8704, 0x8104)) := by
  refine ⟨by decide, fun follows => ?_, fun follows => ?_⟩
  · exact absurd follows.carrier (by decide)
  · exact absurd (follows.speed (by decide) (by decide) (by decide)) (by decide)

end Fvs318g.Verif.WanPolling
