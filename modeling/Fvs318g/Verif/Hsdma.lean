import Fvs318g.Arch.Hsdma
import Fvs318g.Lib.JobAccounting

/-!
# The high-speed DMA driver runs one job at a time in orderly runs

A run of the transfer work is owed while the work is pending, while the worker is in front of its
lock, or while a call is about to schedule it. The work takes a job without looking, so it is
right exactly as long as at most one run is owed, a job is queued for it and none runs. A
completion owes a run only when it frees the engine, so it keeps that. A call does not: it looks
at `hsdma_busy` some time after it has queued its job, when the job may already be gone, or when
a run that was owed is past the point where a second one would be merged with it.

The orderly runs are those in which a call that finds the engine free finds a queued job and the
worker not in the transfer work, and in which the worker enters the transfer work while no call
is between its look and its `schedule_work`.
-/

namespace Fvs318g.Verif.Hsdma

open Lib Lib.JobPool Arch

/-- A run of the transfer work is owed. -/
def HsdmaOwed (pool : JobPool HsdmaXfer) : Prop :=
  pool.transferPending = true ∨ pool.worker = .entered ∨ ∃ xfer, .waking xfer ∈ pool.calls

/-- What every state of an orderly run has. -/
structure HsdmaSound (w : HsdmaWorld) : Prop where
  /-- The records and requests are accounted for. -/
  pool : Accounted hsdmaXferMaxQLen w.hsdmaRunningJob.toList w.pool
  /-- `hsdma_busy` says that a job runs. -/
  busy : w.hsdmaBusy = w.hsdmaRunningJob.isSome
  /-- One completion is to come for a running job. -/
  started : w.started = w.hsdmaRunningJob.toList.length
  /-- A run that is owed has a job to start, and the engine to itself. -/
  owed : HsdmaOwed w.pool → w.hsdmaRunningJob = none ∧ w.pool.transfer ≠ []
  /-- No second run is owed in front of the lock. -/
  single : w.pool.worker = .entered →
    w.pool.transferPending = false ∧ ∀ xfer, .waking xfer ∉ w.pool.calls

/-- The order of steps that the driver relies on. -/
def HsdmaOrderly : Option HsdmaWorld → HsdmaEvent → Prop
  | some w, .testBusy _ =>
    w.hsdmaBusy = false → w.pool.transfer ≠ [] ∧ w.pool.worker ≠ .entered
  | some w, .runXfer => ∀ xfer, .waking xfer ∉ w.pool.calls
  | _, _ => True

/-! ## Calls of `hsdma_copy` -/

variable {xfer : HsdmaXfer}

/-- A call that moves on is not about to schedule unless it was, or now is. -/
theorem waking_moveCall {pool : JobPool HsdmaXfer} {c : Submit HsdmaXfer}
    {new : List (Submit HsdmaXfer)} (waking : .waking xfer ∈ (pool.moveCall c new).calls)
    (fresh : .waking xfer ∉ new) : .waking xfer ∈ pool.calls := by
  rcases List.mem_append.mp waking with added | kept
  · exact absurd added fresh
  · exact List.mem_of_mem_erase kept

/-- A step of a call that neither looks at the engine nor schedules. -/
theorem HsdmaSound.call {w w' : HsdmaWorld} (held : HsdmaSound w)
    (kept : Accounted hsdmaXferMaxQLen w.hsdmaRunningJob.toList w'.pool)
    (busy : w'.hsdmaBusy = w.hsdmaBusy) (running : w'.hsdmaRunningJob = w.hsdmaRunningJob)
    (started : w'.started = w.started) (pending : w'.pool.transferPending = w.pool.transferPending)
    (worker : w'.pool.worker = w.pool.worker)
    (waking : ∀ xfer, .waking xfer ∈ w'.pool.calls → .waking xfer ∈ w.pool.calls)
    (transfer : w.pool.transfer ≠ [] → w'.pool.transfer ≠ []) : HsdmaSound w' := by
  constructor
  · rw [running]
    exact kept
  · rw [busy, running]
    exact held.busy
  · rw [started, running]
    exact held.started
  · intro owed
    have before : HsdmaOwed w.pool := by
      rw [HsdmaOwed, pending, worker] at owed
      exact owed.imp_right (.imp_right fun ⟨xfer, present⟩ => ⟨xfer, waking xfer present⟩)
    have free := held.owed before
    rw [running]
    exact ⟨free.1, transfer free.2⟩
  · intro entered
    have alone := held.single (worker ▸ entered)
    rw [pending]
    exact ⟨alone.1, fun xfer present => alone.2 xfer (waking xfer present)⟩

variable {w : HsdmaWorld}

section

variable (held : HsdmaSound w)
include held

/-- A call moves on without touching the transfer queue, and not to schedule. -/
theorem HsdmaSound.moveCall {pool : JobPool HsdmaXfer} {c : Submit HsdmaXfer}
    {new : List (Submit HsdmaXfer)}
    (kept : Accounted hsdmaXferMaxQLen w.hsdmaRunningJob.toList pool)
    (calls : pool.calls = (w.pool.moveCall c new).calls) (silent : ∀ xfer, .waking xfer ∉ new)
    (pending : pool.transferPending = w.pool.transferPending) (worker : pool.worker = w.pool.worker)
    (transfer : pool.transfer = w.pool.transfer) : HsdmaSound { w with pool := pool } := by
  refine held.call kept rfl rfl rfl pending worker ?_ ?_
  · intro xfer waking
    rw [calls] at waking
    exact waking_moveCall waking (silent xfer)
  · rw [transfer]
    exact id

/-- A new call. -/
theorem hsdmaCopy_sound (fresh : xfer ∉ w.pool.issued) : HsdmaSound (hsdmaCopy w xfer) := by
  have submitted := held.pool.submit fresh
  unfold hsdmaCopy
  split
  · refine held.call (submitted.refuse List.mem_cons_self _) rfl rfl rfl rfl rfl ?_ ?_
    · intro other waking
      have before := waking_moveCall waking List.not_mem_nil
      simpa [submit] using before
    · exact id
  · refine held.call submitted rfl rfl rfl rfl rfl ?_ ?_
    · intro other waking
      simpa [HsdmaWorld.onPool, submit] using waking
    · exact id

/-- A call takes a record or is refused. -/
theorem hsdmaJobAlloc_sound (present : .started xfer ∈ w.pool.calls) :
    HsdmaSound (hsdmaJobAlloc w xfer) := by
  unfold hsdmaJobAlloc
  split
  · exact held.moveCall (held.pool.refuse present _) rfl (by simp) rfl rfl rfl
  · rename_i job first
    exact held.moveCall (held.pool.alloc present first) rfl (by simp) rfl rfl rfl

/-- A call queues its job or gives it up. -/
theorem hsdmaEnqueue_sound {job : Nat} (present : .holding job xfer ∈ w.pool.calls) :
    HsdmaSound (hsdmaEnqueue w job xfer) := by
  unfold hsdmaEnqueue
  split
  · refine held.call (held.pool.enqueue present) rfl rfl rfl rfl rfl ?_ ?_
    · intro other waking
      exact waking_moveCall waking (by simp)
    · intro _
      simp [HsdmaWorld.onPool, hsdmaFill, enqueue]
  · -- the descriptors written so far stay written
    refine held.call (held.pool.giveUp present _) rfl rfl rfl rfl rfl ?_ ?_
    · intro other waking
      exact waking_moveCall waking (by simp)
    · exact id

/-- A call frees the record of a request that it gave up. -/
theorem hsdmaJobFree_sound {job : Nat} (present : .releasing job ∈ w.pool.calls) :
    HsdmaSound (hsdmaJobFree w job) :=
  held.moveCall (held.pool.giveBack present) rfl (by simp) rfl rfl rfl

/-- A call looks at `hsdma_busy`. -/
theorem hsdmaTestBusy_sound (present : .queued xfer ∈ w.pool.calls)
    (orderly : w.hsdmaBusy = false → w.pool.transfer ≠ [] ∧ w.pool.worker ≠ .entered) :
    HsdmaSound (hsdmaTestBusy w xfer) := by
  unfold hsdmaTestBusy
  split
  · exact held.moveCall (held.pool.accept present rfl rfl rfl) rfl (by simp) rfl rfl rfl
  · rename_i free
    have idle : w.hsdmaBusy = false := Bool.eq_false_iff.mpr free
    have none : w.hsdmaRunningJob = none := by
      have busy := held.busy
      rw [idle] at busy
      exact Option.not_isSome_iff_eq_none.mp (by simp [← busy])
    exact {
      pool := held.pool.wakeUp present
      busy := held.busy
      started := held.started
      owed := fun _ => ⟨none, (orderly idle).1⟩
      single := fun entered => absurd entered (orderly idle).2 }

/-- A call schedules the transfer work, which it already owed. -/
theorem hsdmaScheduleXfer_sound (present : .waking xfer ∈ w.pool.calls) :
    HsdmaSound (hsdmaScheduleXfer w xfer) where
  pool := (held.pool.accept present rfl rfl rfl).scheduleTransfer
  busy := held.busy
  started := held.started
  owed := fun _ => held.owed (.inr (.inr ⟨xfer, present⟩))
  single := fun entered => absurd present ((held.single entered).2 xfer)

/-! ## The worker -/

/-- The worker takes up the transfer work. -/
theorem hsdmaRunXfer_sound (idle : w.pool.worker = .idle) (pending : w.pool.transferPending = true)
    (orderly : ∀ xfer, .waking xfer ∉ w.pool.calls) : HsdmaSound (w.onPool beginTransfer) where
  pool := held.pool.beginTransfer idle
  busy := held.busy
  started := held.started
  owed := fun _ => held.owed (.inl pending)
  single := fun _ => ⟨rfl, orderly⟩

/-- The worker takes up the done work. -/
theorem hsdmaRunDone_sound (idle : w.pool.worker = .idle) : HsdmaSound (w.onPool beginDone) where
  pool := held.pool.beginDone idle
  busy := held.busy
  started := held.started
  owed := fun owed => by
    have before : HsdmaOwed w.pool := by
      simpa [HsdmaOwed, HsdmaWorld.onPool, beginDone, idle] using owed
    exact held.owed before
  single := nofun

end

/-- The transfer work on a queue that has a first entry. -/
theorem hsdmaProcessXferJob_head {job : Nat} (first : w.pool.transfer.head? = some job) :
    hsdmaProcessXferJob w = some { w with
      pool := { w.pool.start job with worker := .idle }
      hsdmaRunningJob := some job
      hsdmaBusy := true
      regs := hsdmaProgram ((w.llpDescr job).headD hsdmaNoDescr) w.regs
      started := w.started + 1 } := by
  simp only [hsdmaProcessXferJob, first]

/-- The transfer work finds a job and no running one. -/
theorem hsdmaProcessXferJob_sound (held : HsdmaSound w) (entered : w.pool.worker = .entered) :
    ∃ w', hsdmaProcessXferJob w = some w' ∧ HsdmaSound w' := by
  obtain ⟨none, queued⟩ := held.owed (.inr (.inl entered))
  obtain ⟨unpending, unwoken⟩ := held.single entered
  obtain ⟨job, first⟩ := Option.isSome_iff_exists.mp (List.isSome_head?.mpr queued)
  have inside : job ∈ w.pool.transfer := List.mem_of_mem_head? first
  have taken : (some job).toList.Perm (job :: w.hsdmaRunningJob.toList) := by
    rw [none]
    exact List.Perm.refl _
  have running := held.pool.start inside taken
  have woken := running.wake
  simp only [start, entered, Worker.next, reduceCtorEq, ne_eq, not_true_eq_false, or_false] at woken
  have rested : Accounted hsdmaXferMaxQLen (some job).toList
      { w.pool.start job with worker := .idle } := by
    apply running.phase
    · simp only [start, entered]
      rfl
    · rfl
    · rfl
    · exact fun filled => .inl (woken filled)
  refine ⟨_, hsdmaProcessXferJob_head first, rested, rfl, ?_, ?_, by simp⟩
  · have before := held.started
    rw [none] at before
    simp only [before]
    rfl
  · intro owed
    rcases owed with pending | phase | ⟨xfer, waking⟩
    · exact absurd pending (by simp [start, unpending])
    · exact absurd phase (by simp)
    · exact absurd waking (unwoken xfer)

/-- A step of the done work stays defined. -/
theorem hsdmaProcessDoneJob_sound {after : Option HsdmaWorld} (held : HsdmaSound w)
    (stepped : hsdmaProcessDoneJob w = some after) : ∃ w', after = some w' ∧ HsdmaSound w' := by
  simp only [hsdmaProcessDoneJob, Option.map_eq_some_iff] at stepped
  obtain ⟨pool, walked, result⟩ := stepped
  obtain ⟨pool', defined, kept, frame⟩ := held.pool.finishStep walked
  rw [defined, Option.map_some] at result
  refine ⟨{ w with pool := pool' }, result.symm, kept, held.busy, held.started, ?_, ?_⟩
  · intro owed
    simp only [HsdmaOwed, frame.transferPending, frame.outside, frame.calls, false_or] at owed
    rw [frame.transfer]
    exact held.owed (owed.imp_right .inr)
  · intro entered
    exact absurd entered frame.outside.1

/-! ## The interrupt -/

/-- The interrupt of a running job. -/
theorem hsdmaIsr_running {job : Nat} (running : w.hsdmaRunningJob = some job) :
    hsdmaIsr w = some { w with
      hsdmaRunningJob := none
      hsdmaBusy := false
      regs := { w.regs with controlStatus := w.regs.controlStatus &&& ~~~0x1 }
      pool := w.pool.complete job (hsdmaResult w.regs) } := by
  simp only [hsdmaIsr, running]

/-- A completion frees the engine and owes a run when a job is queued. -/
theorem hsdmaIsr_sound (held : HsdmaSound w) (completes : 0 < w.started) (failed : Bool) :
    ∃ w', hsdmaIsr (hsdmaComplete w failed) = some w' ∧ HsdmaSound w' := by
  have counted := held.started
  cases running : w.hsdmaRunningJob with
  | none =>
    simp only [running, Option.toList_none, List.length_nil] at counted
    omega
  | some job =>
    have unowed : ¬HsdmaOwed w.pool := by
      intro owed
      have free := (held.owed owed).1
      simp only [running, reduceCtorEq] at free
    have taken : w.hsdmaRunningJob.toList.Perm [job] := by
      rw [running]
      exact List.Perm.refl _
    have pending := held.pool.complete_pending job (hsdmaResult (hsdmaComplete w failed).regs)
    obtain ⟨transfer, worker, calls, _⟩ :=
      complete_frame w.pool job (hsdmaResult (hsdmaComplete w failed).regs)
    have current : (hsdmaComplete w failed).hsdmaRunningJob = some job := running
    refine ⟨_, hsdmaIsr_running current, held.pool.complete taken _, rfl, ?_, ?_, ?_⟩
    · simp only [running, Option.toList_some, List.length_singleton] at counted
      simp only [hsdmaComplete, counted, Option.toList_none, List.length_nil]
    · intro owed
      refine ⟨rfl, ?_⟩
      intro empty
      -- nothing was owed before, and the handler owes a run only for a queued job
      apply unowed
      have same : w.pool.transfer = [] := transfer.symm.trans empty
      rcases owed with scheduled | entered | ⟨xfer, waking⟩
      · exact .inl ((pending.mp scheduled).resolve_right (not_not.mpr same))
      · exact .inr (.inl (worker.symm.trans entered))
      · exact .inr (.inr ⟨xfer, calls ▸ waking⟩)
    · intro entered
      exact absurd (.inr (.inl (worker.symm.trans entered))) unowed

/-! ## Whole runs -/

/-- The initial state. -/
theorem hsdmaInit_sound (start : hsdmaInit w) : HsdmaSound w := by
  obtain ⟨pool, busy, none, _, _, started⟩ := start
  constructor
  · rw [pool, none]
    exact initial_accounted hsdmaXferMaxQLen
  · rw [busy, none]
    rfl
  · rw [started, none]
    rfl
  · intro owed
    simp [HsdmaOwed, pool, initial] at owed
  · intro entered
    simp [pool, initial] at entered

/-- Every orderly step from a sound state leads to a sound state. -/
theorem hsdmaStep_sound {e : HsdmaEvent} {s' : Option HsdmaWorld} (held : HsdmaSound w)
    (orderly : HsdmaOrderly (some w) e) (stepped : hsdmaStep (some w) e = some s') :
    ∃ w', s' = some w' ∧ HsdmaSound w' := by
  cases e with
  | copy xfer =>
    obtain ⟨allowed, result⟩ := guarded_step stepped
    exact ⟨_, result.symm, hsdmaCopy_sound held allowed.2⟩
  | alloc xfer =>
    obtain ⟨present, result⟩ := guarded_step stepped
    exact ⟨_, result.symm, hsdmaJobAlloc_sound held present⟩
  | enqueue job xfer =>
    obtain ⟨present, result⟩ := guarded_step stepped
    exact ⟨_, result.symm, hsdmaEnqueue_sound held present⟩
  | release job =>
    obtain ⟨present, result⟩ := guarded_step stepped
    exact ⟨_, result.symm, hsdmaJobFree_sound held present⟩
  | testBusy xfer =>
    obtain ⟨present, result⟩ := guarded_step stepped
    exact ⟨_, result.symm, hsdmaTestBusy_sound held present orderly⟩
  | scheduleXfer xfer =>
    obtain ⟨present, result⟩ := guarded_step stepped
    exact ⟨_, result.symm, hsdmaScheduleXfer_sound held present⟩
  | runXfer =>
    obtain ⟨allowed, result⟩ := guarded_step stepped
    exact ⟨_, result.symm, hsdmaRunXfer_sound held allowed.1 allowed.2 orderly⟩
  | runDone =>
    obtain ⟨allowed, result⟩ := guarded_step stepped
    exact ⟨_, result.symm, hsdmaRunDone_sound held allowed.1⟩
  | work =>
    simp only [hsdmaStep] at stepped
    split at stepped
    · rename_i entered
      obtain ⟨w', taken, sound⟩ := hsdmaProcessXferJob_sound held entered
      exact ⟨w', (Option.some.inj stepped).symm.trans taken, sound⟩
    · exact hsdmaProcessDoneJob_sound held stepped
  | isr failed =>
    obtain ⟨completes, result⟩ := guarded_step stepped
    obtain ⟨w', served, sound⟩ := hsdmaIsr_sound held completes failed
    exact ⟨w', result.symm.trans served, sound⟩

/-- What one job at a time and no lost request mean in one state. -/
structure HsdmaOneAtATime (w : HsdmaWorld) : Prop where
  /-- The transfer work is about to take a job: none runs, and the queue has one. -/
  starts : w.pool.worker = .entered → w.hsdmaRunningJob = none ∧ w.pool.transfer ≠ []
  /-- No request is called back twice. -/
  once : ∀ xfer, (w.pool.called.map Prod.fst).count xfer ≤ 1
  /-- With nothing queued, running, pending or at work, every request that was rejected or
  queued was called back. -/
  all : w.pool.transfer = [] → w.hsdmaRunningJob = none → w.pool.transferPending = false →
    w.pool.donePending = false → w.pool.worker = .idle →
    ∀ xfer ∈ w.pool.answered ++ w.pool.calls.filterMap Submit.queuedRequest,
      (w.pool.called.map Prod.fst).count xfer = 1

/-- A sound state has one job at a time. -/
theorem HsdmaSound.one_at_a_time (held : HsdmaSound w) : HsdmaOneAtATime w := by
  refine ⟨fun entered => held.owed (.inr (.inl entered)), held.pool.called_once, ?_⟩
  intro queue none _ done idle xfer accepted
  have empty : w.pool.waiting w.hsdmaRunningJob.toList = [] := by
    simp [waiting, queue, none, held.pool.done_empty idle done, idle, Worker.uncalled]
  exact held.pool.called_queued empty accepted

/-- In every orderly run the driver starts jobs one at a time from a queue that has them, and
loses no request. -/
theorem hsdma_one_at_a_time {s : Option HsdmaWorld}
    (reached : hsdmaSystem.ReachableBy HsdmaOrderly s) : ∃ w, s = some w ∧ HsdmaOneAtATime w := by
  have sound : ∃ w, s = some w ∧ HsdmaSound w := by
    refine reached.invariant (fun s start => ?_) (fun s e s' held orderly stepped => ?_)
    · obtain ⟨w, same, fresh⟩ := start
      exact ⟨w, same, hsdmaInit_sound fresh⟩
    · obtain ⟨w, same, held⟩ := held
      rw [same] at orderly stepped
      exact hsdmaStep_sound held orderly stepped
  obtain ⟨w, same, held⟩ := sound
  exact ⟨w, same, held.one_at_a_time⟩

/-- A copy of sixteen bytes. -/
def hsdmaSmallCopy (id : Nat) : HsdmaXfer := ⟨id, [⟨0, 0xC0001000, 0xC0002000, 16⟩]⟩

/-- The driver after `hsdma_init`. -/
def hsdmaFresh : HsdmaWorld where
  hsdmaMemPoolDma := 0x200000
  pool := initial hsdmaXferMaxQLen
  llpDescr _ := []
  hsdmaBusy := false
  hsdmaRunningJob := none
  regs := ⟨0, 0, 0, 0, 0x10000000⟩
  started := 0

/-- The initial state is one. -/
theorem hsdmaFresh_init : hsdmaSystem.init (some hsdmaFresh) :=
  ⟨hsdmaFresh, rfl, rfl, rfl, rfl, rfl, rfl, rfl⟩

/-- A call up to its look at `hsdma_busy`. -/
def hsdmaQueue (job id : Nat) : List HsdmaEvent :=
  [.copy (hsdmaSmallCopy id), .alloc (hsdmaSmallCopy id), .enqueue job (hsdmaSmallCopy id)]

/-- A call looks and schedules the transfer work. -/
def hsdmaWake (id : Nat) : List HsdmaEvent :=
  [.testBusy (hsdmaSmallCopy id), .scheduleXfer (hsdmaSmallCopy id)]

/-- The order, as a test. -/
def hsdmaOrderlyCheck : Option HsdmaWorld → HsdmaEvent → Bool
  | some w, .testBusy _ => w.hsdmaBusy || (!w.pool.transfer.isEmpty && w.pool.worker != .entered)
  | some w, .runXfer => w.pool.calls.all fun c => match c with
    | .waking _ => false
    | _ => true
  | _, _ => true

/-- The test accepts orderly steps only. -/
theorem hsdmaOrderlyCheck_sound (s : Option HsdmaWorld) (e : HsdmaEvent)
    (checked : hsdmaOrderlyCheck s e = true) : HsdmaOrderly s e := by
  cases s with
  | none => trivial
  | some w =>
    cases e with
    | testBusy xfer =>
      intro idle
      simpa [hsdmaOrderlyCheck, idle] using checked
    | runXfer =>
      intro xfer waking
      have fails := List.all_eq_true.mp checked _ waking
      simp at fails
    | _ => trivial

/-- The second call finds the first job running, and its own copy fails. -/
def hsdmaTwoCopies : List HsdmaEvent :=
  hsdmaQueue 0 0 ++ hsdmaWake 0 ++ [.runXfer, .work] ++ hsdmaQueue 1 1 ++
    [.testBusy (hsdmaSmallCopy 1), .isr false, .runXfer, .work, .runDone, .work, .isr true,
      .work, .work, .work, .runDone, .work, .work, .work, .work]

/-- Both copies are called back. -/
theorem hsdma_one_at_a_time_two : ∃ s, hsdmaSystem.ReachableBy HsdmaOrderly s ∧
    ∃ w, s = some w ∧ HsdmaOneAtATime w ∧
      w.pool.called =
        [(hsdmaSmallCopy 0, hsdmacResponseOk), (hsdmaSmallCopy 1, hsdmacResponseErr)] := by
  have ran : (hsdmaSystem.runBy hsdmaOrderlyCheck (some hsdmaFresh) hsdmaTwoCopies).any
      (fun s => s.any fun w => decide (w.pool.called =
        [(hsdmaSmallCopy 0, hsdmacResponseOk), (hsdmaSmallCopy 1, hsdmacResponseErr)])) = true := by
    decide
  obtain ⟨s, ended, fact⟩ := (Option.any_eq_true ..).mp ran
  have reached : hsdmaSystem.ReachableBy HsdmaOrderly s :=
    (System.runsBy_of_runBy hsdmaOrderlyCheck_sound ended).reachableBy (.init hsdmaFresh_init)
  obtain ⟨w, same, holds⟩ := hsdma_one_at_a_time reached
  refine ⟨s, reached, w, same, holds, ?_⟩
  rw [same, Option.any_some] at fact
  exact of_decide_eq_true fact

/-- The second call comes between the entry of the transfer work and its lock. -/
def hsdmaSecondRun : List HsdmaEvent :=
  hsdmaQueue 0 0 ++ hsdmaWake 0 ++ [.runXfer] ++ hsdmaQueue 1 1 ++ hsdmaWake 1 ++ [.work, .runXfer]

/-- The transfer work, entered a second time, is about to start a job while one runs. -/
theorem hsdma_starts_while_running :
    ¬∀ s, hsdmaSystem.Reachable s → ∃ w, s = some w ∧ HsdmaOneAtATime w := by
  intro always
  have ran : (hsdmaSystem.run (some hsdmaFresh) hsdmaSecondRun).any (fun s => s.any fun w =>
      decide (w.pool.worker = .entered ∧ w.hsdmaRunningJob = some 0)) = true := by
    decide
  obtain ⟨s, ended, fact⟩ := (Option.any_eq_true ..).mp ran
  have reached : hsdmaSystem.Reachable s := System.reachable_of_run (.init hsdmaFresh_init) ended
  obtain ⟨w, same, holds⟩ := always s reached
  rw [same, Option.any_some] at fact
  have found : w.pool.worker = .entered ∧ w.hsdmaRunningJob = some 0 := of_decide_eq_true fact
  have free := (holds.starts found.1).1
  rw [found.2] at free
  exact nomatch free

end Fvs318g.Verif.Hsdma
