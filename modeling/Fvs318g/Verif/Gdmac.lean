import Fvs318g.Star.Gdmac

/-!
# Copies that count down

`gdmac_channel_control_init` lets both addresses of channel 0 count down, while `memcpy2` and
`memcpy3` program the start of each buffer and mask the length to 12 bits. A copy of one byte is
right, and one of none; a longer copy leaves the second byte of its destination as it was.
-/

namespace Fvs318g.Verif.Gdmac

open Lib Kernel Fvs318g.Star

variable {g : Gdmac}

/-! ## The channel -/

/-- The controller when the transfer of channel 0 is over. -/
def finished (g : Gdmac) : Gdmac :=
  let moved := g.transfer.units g.srcAddrCtl g.dstAddrCtl 1 g.xfrSize.toNat
  { g with
    memory := moved.memory
    srcAddr := moved.src
    dstAddr := moved.dst
    xfrSize := 0
    tcStatus := true }

/-- The step after the last byte. -/
theorem step_last (running : g.running = true) (last : g.xfrSize = 0) : g.step = finished g := by
  rw [Gdmac.step, if_pos running, if_pos last, finished, last]
  cases g
  cases last
  rfl

/-- A size that is not zero, counted down. -/
theorem size_succ {size : Word} (more : size ≠ 0) : size.toNat = (size - 1).toNat + 1 := by
  have positive : 0 < size.toNat := by
    rw [Nat.pos_iff_ne_zero]
    exact fun none => more (BitVec.eq_of_toNat_eq none)
  have one : (1 : Word) ≤ size := by
    rw [BitVec.le_def]
    exact positive
  rw [BitVec.toNat_sub_of_le one]
  show _ = size.toNat - 1 + 1
  omega

/-- The step of a byte leads to the same end. -/
theorem finished_step (running : g.running = true) (more : g.xfrSize ≠ 0) :
    finished g.step = finished g := by
  rw [Gdmac.step, if_pos running, if_neg more]
  unfold finished Transfer.units
  rw [size_succ more, Function.iterate_succ_apply]
  rfl

/-- A step keeps the channel enabled. -/
theorem running_step (running : g.running = true) : g.step.running = true := by
  rw [Gdmac.step, if_pos running]
  split <;> exact running

/-- A step does not add to the size. -/
theorem step_size_le (g : Gdmac) : g.step.xfrSize.toNat ≤ g.xfrSize.toNat := by
  unfold Gdmac.step
  split
  · split
    · exact Nat.le_refl _
    next more =>
      have less := size_succ more
      show (g.xfrSize - 1).toNat ≤ _
      omega
  · exact Nat.le_refl _

/-- The controller is on the way to the end of a transfer, or there. -/
structure OnTheWay (g : Gdmac) (over_ : Gdmac) : Prop where
  /-- The channel is enabled. -/
  running : g.running = true
  /-- Where the transfer leads to. -/
  leads : finished g = over_
  /-- The terminal count is given at the end only. -/
  counted : g.tcStatus = true → g = over_

/-- A step goes on the way. -/
theorem OnTheWay.step {over_ : Gdmac} (way : OnTheWay g over_) : OnTheWay g.step over_ := by
  by_cases last : g.xfrSize = 0
  · have there := step_last way.running last
    have again : finished (finished g) = finished g := rfl
    apply OnTheWay.mk (running_step way.running)
    · rw [there, again, way.leads]
    · exact fun _ => there.trans way.leads
  · apply OnTheWay.mk (running_step way.running)
    · rw [finished_step way.running last, way.leads]
    · intro counted
      have before : g.tcStatus = true := by
        rw [Gdmac.step, if_pos way.running, if_neg last] at counted
        exact counted
      have empty : g.xfrSize = 0 := by
        rw [way.counted before, ← way.leads]
        rfl
      exact absurd empty last

/-- A wait for the terminal count comes to the end of the transfer. -/
theorem wait_counted {over_ : Gdmac} {polls : Nat} (way : OnTheWay g over_)
    (enough : g.xfrSize.toNat + 2 ≤ polls) : g.wait (fun g => !g.tcStatus) polls = some over_ := by
  have ended : over_.tcStatus = true := by rw [← way.leads]; rfl
  induction polls generalizing g with
  | zero => omega
  | succ polls ih =>
    rw [Gdmac.wait]
    cases counted : g.tcStatus with
    | true =>
      rw [way.counted counted]
      rfl
    | false =>
      rw [if_pos Bool.not_false]
      by_cases last : g.xfrSize = 0
      · obtain ⟨polls, rfl⟩ : ∃ k, polls = k + 1 := ⟨polls - 1, by omega⟩
        rw [step_last way.running last, way.leads, Gdmac.wait, ended]
        rfl
      · apply ih way.step
        have less : g.step.xfrSize.toNat + 1 = g.xfrSize.toNat := by
          rw [Gdmac.step, if_pos way.running, if_neg last]
          exact (size_succ last).symm
        omega

/-! ## A copy -/

/-- The controller between two copies. -/
structure Ready (g : Gdmac) : Prop where
  /-- The controller is enabled. -/
  enabled : g.csr.getLsbD 0 = true
  /-- Channel 0 is set up and disabled. -/
  control : g.channelCsr 0 = gdmacChannelControl
  /-- No terminal count is left. -/
  clear : g.tcStatus = false

/-- `gdmac_init` makes a controller ready. -/
theorem gdmacInit_ready (clear : g.tcStatus = false) : Ready (gdmacInit g) := by
  apply Ready.mk
  · simp [gdmacInit, gdmacChannelControlInit, gdmacChannelInit, gdmacChannelDisable,
      gdmacChannelWriteCsr, gdmacEnable, gdmacWriteCsr]
  · have kept : gdmacChannelControl &&& 0x00ffffff#32 = gdmacChannelControl := by decide
    simp only [gdmacInit, gdmacChannelControlInit, gdmacChannelWriteCsr, Function.update_self, kept]
  · exact clear

/-- `gdmac_init` does not touch the memory. -/
theorem gdmacInit_memory : (gdmacInit g).memory = g.memory := rfl

/-- The controller when a copy is under way. -/
def started (dst src len : Word) (g : Gdmac) : Gdmac :=
  { g with
    srcAddr := busAddress src
    dstAddr := busAddress dst
    xfrSize := len &&& 0xfff#32
    channelCsr := Function.update g.channelCsr 0 (gdmacChannelControl ||| 1#32) }

/-- Enabling the channel that was set up. -/
theorem gdmacChannelEnable_control (control : g.channelCsr 0 = gdmacChannelControl) :
    gdmacChannelEnable 0 g = { g with
      channelCsr := Function.update g.channelCsr 0 (gdmacChannelControl ||| 1#32) } := by
  have csr : (gdmacChannelControl &&& 0x00ffffff#32 ||| 1#32 <<< 0) &&& 0x00ffffff#32 =
      gdmacChannelControl ||| 1#32 := by decide
  rw [gdmacChannelEnable, gdmacChannelWriteCsr, gdmacChannelReadCsr, control, csr]

variable {dst src len : Word}

/-- A ready controller is not busy and starts at once. -/
theorem memcpy3_ready {polls : Nat} (ready : Ready g) (positive : 0 < polls) :
    memcpy3 polls dst src len g = some (started dst src len g) := by
  obtain ⟨polls, rfl⟩ : ∃ k, polls = k + 1 := ⟨polls - 1, by omega⟩
  have disabled : gdmacChannelControl.getLsbD 0 = false := by decide
  have idle : g.busy = false := by
    rw [Gdmac.busy, Gdmac.running, ready.control, disabled, Bool.and_false, Bool.false_and]
  rw [memcpy3, Gdmac.wait, idle, if_neg Bool.false_ne_true]
  have enabled := @gdmacChannelEnable_control
    (gdmacChannelWriteXfrSize len { g with
      srcAddr := busAddress src, dstAddr := busAddress dst, xfrSize := len &&& 0xFFF#32 })
    ready.control
  show some _ = some _
  rw [enabled]
  rw [gdmacChannelWriteXfrSize, started]

/-- `memcpy2` is `memcpy3` and `memcpy3_check`. -/
theorem memcpy2_eq (polls : Nat) (dst src len : Word) (g : Gdmac) :
    memcpy2 polls dst src len g = (memcpy3 polls dst src len g).bind (memcpy3Check polls) := by
  unfold memcpy2 memcpy3 memcpy3Check
  simp only [Option.bind_eq_bind, Option.pure_def, Option.bind_assoc, Option.bind_some,
    gdmacChannelWriteXfrSize]

/-- The channel that was started counts down and is not at its end. -/
theorem started_onTheWay (dst src len : Word) (ready : Ready g) :
    OnTheWay (started dst src len g) (finished (started dst src len g)) where
  running := by
    have enabled : (gdmacChannelControl ||| 1#32).getLsbD 0 = true := by decide
    rw [Gdmac.running, started]
    simp only [ready.enabled, Function.update_self, enabled, Bool.and_self]
  leads := rfl
  counted := fun counted => absurd (ready.clear.symm.trans counted) Bool.false_ne_true

/-- The memory after a copy. -/
theorem finished_memory (dst src len : Word) (g : Gdmac) :
    (finished (started dst src len g)).memory =
      ((⟨g.memory, busAddress src, busAddress dst⟩ : Transfer 32).units .dec .dec 1
        (len &&& 0xfff#32).toNat).memory := by
  have modes : AddrCtl.ofField (field (gdmacChannelControl ||| 1#32) 5 2) = .dec ∧
      AddrCtl.ofField (field (gdmacChannelControl ||| 1#32) 3 2) = .dec := by decide
  simp only [finished, started, Gdmac.srcAddrCtl, Gdmac.dstAddrCtl, Function.update_self, modes]
  rfl

/-- The steps on the way stay on it. -/
theorem OnTheWay.steps {over_ : Gdmac} (way : OnTheWay g over_) (idle : Nat) :
    OnTheWay (Gdmac.step^[idle] g) over_ := by
  induction idle with
  | zero => exact way
  | succ idle ih =>
    rw [Function.iterate_succ_apply']
    exact ih.step

/-- The controller after a copy. -/
def copied (dst src len : Word) (g : Gdmac) : Gdmac :=
  { gdmacChannelDisable 0 (finished (started dst src len g)) with tcStatus := false }

/-- Enough polls for any size that the register holds. -/
def enoughPolls : Nat := 4097

/-- The size register holds less than 4096. -/
theorem size_lt (len : Word) : (len &&& 0xfff#32).toNat < 4096 := by
  rw [BitVec.toNat_and]
  exact Nat.lt_of_le_of_lt Nat.and_le_right (by decide)

/-- `memcpy3_check` after any time ends the copy. -/
theorem memcpy3Check_started {polls : Nat} (ready : Ready g) (enough : enoughPolls ≤ polls)
    (idle : Nat) : memcpy3Check polls (Gdmac.step^[idle] (started dst src len g)) =
      some (copied dst src len g) := by
  have way := (started_onTheWay dst src len ready).steps idle
  have small : (Gdmac.step^[idle] (started dst src len g)).xfrSize.toNat ≤
      (started dst src len g).xfrSize.toNat := by
    induction idle with
    | zero => exact Nat.le_refl _
    | succ idle ih =>
      rw [Function.iterate_succ_apply']
      exact (step_size_le _).trans (ih ((started_onTheWay dst src len ready).steps idle))
  have size : (started dst src len g).xfrSize.toNat < 4096 := size_lt len
  unfold enoughPolls at enough
  rw [memcpy3Check, wait_counted way (by omega)]
  rfl

/-- `memcpy2` ends the copy. -/
theorem memcpy2_ready {polls : Nat} (ready : Ready g) (enough : enoughPolls ≤ polls) :
    memcpy2 polls dst src len g = some (copied dst src len g) := by
  have positive : 0 < polls := Nat.lt_of_lt_of_le (by decide) enough
  rw [memcpy2_eq, memcpy3_ready ready positive]
  exact memcpy3Check_started ready enough 0

/-! ## Against `memcpy` -/

/-- A copy with the controller is `memcpy`, by `memcpy2` and by `memcpy3` with `memcpy3_check`
some time later. -/
def CopiesAsMemcpy (dst src len : Word) : Prop :=
  ∀ g : Gdmac, g.tcStatus = false → ∀ polls, enoughPolls ≤ polls → ∀ idle,
    (∃ after, memcpy2 polls dst src len (gdmacInit g) = some after ∧
      Copied (cpuView g.memory) (cpuView after.memory) dst src len.toNat) ∧
    ∃ busy after, memcpy3 polls dst src len (gdmacInit g) = some busy ∧
      memcpy3Check polls (Gdmac.step^[idle] busy) = some after ∧
      Copied (cpuView g.memory) (cpuView after.memory) dst src len.toNat

/-- Both ways to copy leave the same memory. -/
theorem copiesAsMemcpy_iff (dst src len : Word) :
    CopiesAsMemcpy dst src len ↔ ∀ g : Gdmac, g.tcStatus = false →
      Copied g.memory (finished (started dst src len (gdmacInit g))).memory (busAddress dst)
        (busAddress src) len.toNat := by
  constructor
  · intro copies g clear
    obtain ⟨⟨after, ran, same⟩, _⟩ := copies g clear enoughPolls (Nat.le_refl _) 0
    rw [memcpy2_ready (gdmacInit_ready clear) (Nat.le_refl _)] at ran
    cases ran
    exact copied_cpuView_iff.mp same
  · intro same g clear polls enough idle
    have ready := gdmacInit_ready clear
    have positive : 0 < polls := Nat.lt_of_lt_of_le (by decide) enough
    have copied := copied_cpuView_iff.mpr (same g clear)
    exact ⟨⟨_, memcpy2_ready ready enough, copied⟩,
      ⟨_, _, memcpy3_ready ready positive, memcpy3Check_started ready enough idle, copied⟩⟩

/-- The second byte of the destination is not written. -/
theorem finished_second (dst src len : Word) (g : Gdmac) :
    (finished (started dst src len g)).memory (busAddress dst + 1) =
      g.memory (busAddress dst + 1) := by
  rw [finished_memory]
  apply Transfer.units_outside
  intro k before
  have size := size_lt len
  have small : (1 + BitVec.ofNat 32 k).toNat = 1 + k := by
    rw [BitVec.toNat_add, BitVec.toNat_ofNat]
    show (1 + k % 2 ^ 32) % 2 ^ 32 = 1 + k
    omega
  have offset : busAddress dst + 1 - (busAddress dst - BitVec.ofNat 32 k) =
      1 + BitVec.ofNat 32 k := add_sub_sub_cancel ..
  rw [iterate_next_dec, Nat.mul_one, InRange, offset, small]
  omega

/-- A copy of two bytes or more can be told from `memcpy`. -/
theorem not_copied_second (apart : RangesApart src dst len.toNat) (more : 1 < len.toNat) :
    ∃ g : Gdmac, g.tcStatus = false ∧
      ¬ Copied g.memory (finished (started dst src len (gdmacInit g))).memory (busAddress dst)
        (busAddress src) len.toNat := by
  -- only the second byte of the source is set
  let m : BusMemory 32 := fun a => if a = busAddress src + 1 then 1 else 0
  refine ⟨⟨m, 0, fun _ => 0, 0, 0, 0, false⟩, rfl, ?_⟩
  intro copied
  have moved := copied.inside 1 more
  rw [finished_second, gdmacInit_memory] at moved
  have distinct : busAddress dst + 1 ≠ busAddress src + 1 := by
    intro same
    have inSrc := (inRange_add (busAddress src) 1 len.toNat).mpr more
    have inDst := (inRange_add (busAddress dst) 1 len.toNat).mpr more
    rw [same] at inDst
    exact rangesApart_busAddress apart _ inSrc inDst
  simp only [m, if_neg distinct, if_true] at moved
  exact absurd moved (by decide)

/-- A copy with the controller is `memcpy` exactly for lengths of at most one byte. -/
theorem gdmac_memcpy_iff (dst src len : Word) (apart : RangesApart src dst len.toNat) :
    CopiesAsMemcpy dst src len ↔ len.toNat ≤ 1 := by
  rw [copiesAsMemcpy_iff]
  constructor
  · intro copies
    by_contra more
    obtain ⟨g, clear, wrong⟩ := not_copied_second apart (Nat.lt_of_not_le more)
    exact wrong (copies g clear)
  · intro short g clear
    rw [copied_iff, finished_memory, gdmacInit_memory]
    have masked : (len &&& 0xfff#32).toNat = len.toNat := by
      rw [BitVec.toNat_and]
      show len.toNat &&& (2 ^ 12 - 1) = _
      rw [Nat.and_two_pow_sub_one_eq_mod]
      exact Nat.mod_eq_of_lt (by omega)
    rw [masked]
    rcases Nat.eq_zero_or_pos len.toNat with none | positive
    · rw [none]
      funext a
      exact (if_neg (Nat.not_lt_zero _)).symm
    · have one : len.toNat = 1 := by omega
      rw [one]
      rfl

/-- One byte, from one page to the next. -/
theorem gdmac_memcpy_one : CopiesAsMemcpy 0xC0002000 0xC0001000 1 := by
  have apart : RangesApart (0xC0001000 : Word) 0xC0002000 (1 : Word).toNat :=
    rangesApart_of_le (by decide) (by decide)
  exact (gdmac_memcpy_iff _ _ _ apart).mpr (by decide)

/-- The controller over a memory with one byte set, the second of a source. -/
def secondByteSet : Gdmac where
  memory := fun a => if a = busAddress 0xC0001001 then 0xA9 else 0
  csr := 0
  channelCsr := fun _ => 0
  srcAddr := 0
  dstAddr := 0
  xfrSize := 0
  tcStatus := false

/-- Two bytes: the second one does not arrive. -/
theorem gdmac_memcpy_two :
    (memcpy2 enoughPolls 0xC0002000 0xC0001000 2 (gdmacInit secondByteSet)).map
        (fun after => cpuView after.memory 0xC0002001) = some 0 ∧
      cpuView secondByteSet.memory 0xC0001001 = 0xA9 := by
  decide +kernel

end Fvs318g.Verif.Gdmac
