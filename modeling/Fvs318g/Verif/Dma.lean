import Fvs318g.Arch.Dma
import Fvs318g.Lib.JobAccounting

/-!
# The general DMA driver loses no job

The job pool accounts for the records and the requests; what is added here is the engine. The
jobs that run are those in `dma_running_job`, the busy counter counts them and `dma_busy` says
that the channels are used up. A queued job has the transfer work ahead of it: the work is
pending or running, a channel is about to be freed by an interrupt, or the call that queued it
has not yet looked at `dma_busy`.
-/

namespace Fvs318g.Verif.Dma

open Lib Lib.JobPool Arch

/-- The jobs on the channels. -/
def dmaRunning (w : DmaWorld) : List Nat := w.dmaRunningJob.filterMap id

/-- The records, the requests and the channels are accounted for. -/
structure DmaAccounted (w : DmaWorld) : Prop where
  /-- The records and requests. -/
  pool : Accounted dmaXferMaxQLen (dmaRunning w) w.pool
  /-- There are seven channels. -/
  channels : w.dmaRunningJob.length = dmaChannels
  /-- The busy counter counts the running jobs. -/
  busyLen : w.dmaBusyQLen = (dmaRunning w).length
  /-- `dma_busy` says that all channels run. -/
  busy : w.dmaBusy = true ↔ (dmaRunning w).length = dmaChannels

/-- A queued job has the transfer work ahead of it. -/
def DmaWoken (w : DmaWorld) : Prop :=
  w.pool.transferPending = true ∨ w.pool.worker = .entered ∨ w.pool.worker = .checked ∨
    w.dmaBusy = true ∨
    ∀ job ∈ w.pool.transfer, ∃ xfer, w.pool.owner job = some xfer ∧
      xfer ∈ w.pool.calls.filterMap Submit.queuedRequest

/-- What every reachable state has. -/
structure DmaSound (w : DmaWorld) : Prop extends DmaAccounted w where
  /-- No queued job is forgotten. -/
  woken : DmaWoken w

/-! ## Channels -/

/-- The jobs on the channels after one is started on a free channel. -/
theorem running_set_some {l : List (Option Nat)} {i : Nat} (job : Nat) (free : l[i]? = some none) :
    ((l.set i (some job)).filterMap id).Perm (job :: l.filterMap id) := by
  obtain ⟨inside, empty⟩ := List.getElem?_eq_some_iff.mp free
  have before : (l.filterMap id).Perm ((l.eraseIdx i).filterMap id) := by
    have split := (List.getElem_cons_eraseIdx_perm inside).filterMap id
    rw [empty] at split
    exact split.symm
  exact ((List.set_perm_cons_eraseIdx inside (some job)).filterMap id).trans (before.symm.cons job)

/-- The jobs on the channels before the job of one is taken away. -/
theorem running_set_none {l : List (Option Nat)} {i job : Nat} (used : l[i]? = some (some job)) :
    (l.filterMap id).Perm (job :: (l.set i none).filterMap id) := by
  obtain ⟨inside, running⟩ := List.getElem?_eq_some_iff.mp used
  have before := (List.getElem_cons_eraseIdx_perm inside).filterMap id
  have after := (List.set_perm_cons_eraseIdx inside none).filterMap id
  rw [running] at before
  exact before.symm.trans (after.symm.cons job)

/-- Without a free channel, all channels run. -/
theorem running_full {l : List (Option Nat)} (full : l.findIdx? Option.isNone = none) :
    (l.filterMap id).length = l.length := by
  rw [List.findIdx?_eq_none_iff] at full
  apply List.filterMap_length_eq_length.mpr
  intro slot inside
  have used := full slot inside
  cases slot with
  | none => simp at used
  | some job => rfl

/-! ## Calls of `dma_copy` -/

variable {w : DmaWorld}

/-- A step that only changes the pool keeps the channels accounted for. -/
theorem DmaAccounted.onPool {pool : JobPool DmaXfer} (held : DmaAccounted w)
    (kept : Accounted dmaXferMaxQLen (dmaRunning w) pool) : DmaAccounted { w with pool := pool } :=
  { held with pool := kept }

/-- A step of a call keeps queued jobs from being forgotten. -/
theorem DmaWoken.moveCall {c : Submit DmaXfer} {new : List (Submit DmaXfer)}
    {pool : JobPool DmaXfer} (held : DmaWoken w)
    (calls : pool.calls = (w.pool.moveCall c new).calls)
    (kept : ∀ xfer, c.queuedRequest = some xfer → xfer ∈ new.filterMap Submit.queuedRequest)
    (pending : pool.transferPending = w.pool.transferPending) (worker : pool.worker = w.pool.worker)
    (transfer : pool.transfer = w.pool.transfer) (owner : pool.owner = w.pool.owner) :
    DmaWoken { w with pool := pool } := by
  simp only [DmaWoken, calls, pending, worker, transfer, owner] at held ⊢
  refine held.imp_right (.imp_right (.imp_right (.imp_right ?_)))
  intro queued job inside
  obtain ⟨xfer, asks, present⟩ := queued job inside
  exact ⟨xfer, asks, queued_moveCall present (kept xfer)⟩

variable {xfer : DmaXfer}

/-- A new call. -/
theorem dmaCopy_sound (held : DmaSound w) (fresh : xfer ∉ w.pool.issued) :
    DmaSound (dmaCopy w xfer) := by
  have submitted := held.pool.submit fresh
  unfold dmaCopy
  split
  · refine ⟨held.onPool (submitted.refuse List.mem_cons_self _), ?_⟩
    have erased : (w.pool.submit xfer).calls.erase (.started xfer) = w.pool.calls :=
      List.erase_cons_head ..
    have woken := held.woken
    simp only [DmaWoken, DmaWorld.onPool, refuse, JobPool.moveCall, erased] at woken ⊢
    exact woken
  · exact ⟨held.onPool submitted, held.woken⟩

/-- A call takes a record or is refused. -/
theorem dmaJobAlloc_sound (held : DmaSound w) (present : .started xfer ∈ w.pool.calls) :
    DmaSound (dmaJobAlloc w xfer) := by
  unfold dmaJobAlloc
  split
  · refine ⟨held.onPool (held.pool.refuse present _), ?_⟩
    exact held.woken.moveCall rfl (fun _ asks => nomatch asks) rfl rfl rfl rfl
  · rename_i job first
    refine ⟨held.onPool (held.pool.alloc present first), ?_⟩
    exact held.woken.moveCall rfl (fun _ asks => nomatch asks) rfl rfl rfl rfl

/-- A call queues its job, and will look at `dma_busy`. -/
theorem dmaEnqueue_sound {job : Nat} (held : DmaSound w)
    (present : .holding job xfer ∈ w.pool.calls) : DmaSound (dmaEnqueue w job xfer) := by
  have accounted := held.onPool (held.pool.enqueue present)
  refine ⟨{ accounted with }, ?_⟩
  have outside := held.pool.handed present rfl
  simp only [waiting, List.mem_append, not_or] at outside
  have woken := held.woken
  simp only [DmaWoken] at woken ⊢
  refine woken.imp_right (.imp_right (.imp_right (.imp_right ?_)))
  intro queued other inside
  rcases List.mem_append.mp inside with earlier | last
  · obtain ⟨request, asks, waits⟩ := queued other earlier
    have differs : other ≠ job := fun same => outside.1.1.1 (same ▸ earlier)
    refine ⟨request, ?_, queued_moveCall waits ?_⟩
    · simp only [dmaEnqueue, enqueue, Function.update_of_ne differs, asks]
    · simp [Submit.queuedRequest]
  · rw [List.mem_singleton] at last
    refine ⟨xfer, ?_, ?_⟩
    · simp only [dmaEnqueue, enqueue, last, Function.update_self]
    · simp [dmaEnqueue, enqueue, JobPool.moveCall, Submit.queuedRequest]

/-- A call that finds all channels running leaves its job to the interrupts. -/
theorem dmaTestBusy_sound (held : DmaSound w) (present : .queued xfer ∈ w.pool.calls) :
    DmaSound (dmaTestBusy w xfer) := by
  unfold dmaTestBusy
  split
  · rename_i busy
    have accepted := held.pool.accept present rfl rfl rfl
    exact ⟨held.onPool accepted, .inr (.inr (.inr (.inl busy)))⟩
  · refine ⟨held.onPool (held.pool.wakeUp present), ?_⟩
    have kept (request : DmaXfer) (asks : (Submit.queued xfer).queuedRequest = some request) :
        request ∈ [Submit.waking xfer].filterMap Submit.queuedRequest := by
      simpa [Submit.queuedRequest] using asks.symm
    exact held.woken.moveCall rfl kept rfl rfl rfl rfl

/-- A call schedules the transfer work. -/
theorem dmaScheduleXfer_sound (held : DmaSound w) (present : .waking xfer ∈ w.pool.calls) :
    DmaSound (dmaScheduleXfer w xfer) := by
  have accepted := held.pool.accept present rfl rfl rfl
  exact ⟨held.onPool accepted.scheduleTransfer, .inl rfl⟩

/-! ## The transfer work -/

/-- No more jobs run than there are channels. -/
theorem DmaAccounted.running_le (held : DmaAccounted w) : (dmaRunning w).length ≤ dmaChannels := by
  rw [← held.channels]
  exact List.length_filterMap_le id w.dmaRunningJob

/-- One more job runs once it is started on a free channel. -/
theorem dmaStartJob_running {i : Nat} (job : Nat)
    (free : w.dmaRunningJob.findIdx? Option.isNone = some i) :
    (dmaRunning (dmaStartJob w i job)).Perm (job :: dmaRunning w) := by
  obtain ⟨inside, empty, _⟩ := List.findIdx?_eq_some_iff_getElem.mp free
  apply running_set_some job
  rw [List.getElem?_eq_getElem inside, Option.isNone_iff_eq_none.mp empty]

/-- Starting the first job of the queue on a free channel, with `dma_busy` as it becomes. -/
theorem DmaAccounted.startJob {i job : Nat} {rest : List Nat} {busy : Bool} (held : DmaAccounted w)
    (queue : w.pool.transfer = job :: rest) (free : w.dmaRunningJob.findIdx? Option.isNone = some i)
    (tells : busy = true ↔ (dmaRunning w).length + 1 = dmaChannels) :
    DmaAccounted { dmaStartJob w i job with dmaBusy := busy } := by
  have taken := dmaStartJob_running job free
  have length : (dmaRunning (dmaStartJob w i job)).length = (dmaRunning w).length + 1 :=
    taken.length_eq
  have counted : w.dmaBusyQLen + 1 = (dmaRunning (dmaStartJob w i job)).length := by
    rw [length, held.busyLen]
    rfl
  have channels : (w.dmaRunningJob.set i (some job)).length = dmaChannels :=
    List.length_set.trans held.channels
  rw [← length] at tells
  exact ⟨held.pool.start (queue ▸ List.mem_cons_self) taken, channels, counted, tells⟩

/-- The loop over the transfer queue ends with the queue empty or the channels used up. -/
theorem dmaXferLoop_accounted (queue : List Nat) : ∀ {w : DmaWorld}, DmaAccounted w →
    w.pool.transfer = queue →
    DmaAccounted (dmaXferLoop w queue) ∧
      ((dmaXferLoop w queue).pool.transfer = [] ∨ (dmaXferLoop w queue).dmaBusy = true) ∧
      (dmaXferLoop w queue).pool.worker = w.pool.worker := by
  -- induction on the queue; each iteration takes its first job or ends the loop
  induction queue with
  | nil =>
    intro w held empty
    exact ⟨held, .inl empty, rfl⟩
  | cons job rest later =>
    intro w held queue
    have counted := held.busyLen
    cases free : w.dmaRunningJob.findIdx? Option.isNone with
    | none =>
      have full : (dmaRunning w).length = dmaChannels := (running_full free).trans held.channels
      have filled : w.dmaBusyQLen = dmaBusyMaxQLen := by
        rw [counted, full]
        rfl
      simp only [dmaXferLoop, free, if_pos filled]
      exact ⟨{ held with busy := iff_of_true rfl full }, .inr trivial, trivial⟩
    | some i =>
      by_cases filled : (dmaStartJob w i job).dmaBusyQLen = dmaBusyMaxQLen
      · have full : (dmaRunning w).length + 1 = dmaChannels := by
          have sum : w.dmaBusyQLen + 1 = 7 := filled
          simp only [dmaChannels]
          omega
        simp only [dmaXferLoop, free, if_pos filled]
        exact ⟨held.startJob queue free (iff_of_true rfl full), .inr trivial, rfl⟩
      · have left : (dmaRunning w).length + 1 ≠ dmaChannels := by
          have sum : w.dmaBusyQLen + 1 ≠ 7 := filled
          simp only [dmaChannels]
          omega
        have spare : (dmaRunning w).length < dmaChannels := by
          have more := (dmaStartJob_running job free).length_eq
          have fits : (dmaRunning (dmaStartJob w i job)).length ≤ dmaChannels := by
            rw [← held.channels]
            exact (List.length_filterMap_le id _).trans_eq List.length_set
          rw [List.length_cons] at more
          omega
        have idle : ¬w.dmaBusy = true := fun set => spare.ne (held.busy.mp set)
        have started := held.startJob queue free (iff_of_false idle left)
        have shorter : (dmaStartJob w i job).pool.transfer = rest := by
          simp only [dmaStartJob, DmaWorld.setChannel, start, queue, List.erase_cons_head]
        simp only [dmaXferLoop, free, if_neg filled]
        exact later started shorter

/-- The worker goes from one phase of the transfer work to another, or ends it. -/
theorem DmaAccounted.toPhase {worker : Worker} (held : DmaAccounted w)
    (phase : w.pool.worker = .entered ∨ w.pool.worker = .checked) (empty : worker.record = none)
    (ended : worker.next = none) :
    DmaAccounted (w.onPool fun pool => { pool with worker := worker }) := by
  apply held.onPool
  apply held.pool.phase
  · rcases phase with entered | checked
    · rw [entered]
      rfl
    · rw [checked]
      rfl
  · exact empty
  · exact ended
  · intro filled
    rcases held.pool.wake filled with pending | finishing | walking
    · exact .inl pending
    · simp [finishing] at phase
    · rcases phase with entered | checked
      · simp [entered, Worker.next] at walking
      · simp [checked, Worker.next] at walking

/-- A step of the transfer work. -/
theorem dmaProcessXferJob_sound {w w' : DmaWorld} (held : DmaSound w)
    (stepped : dmaProcessXferJob w = some w') : DmaSound w' := by
  cases phase : w.pool.worker with
  | entered =>
    simp only [dmaProcessXferJob, phase, Option.some.injEq] at stepped
    rw [← stepped]
    cases busy : w.dmaBusy with
    | true => exact ⟨held.toPhase (.inl phase) rfl rfl, .inr (.inr (.inr (.inl busy)))⟩
    | false => exact ⟨held.toPhase (.inl phase) rfl rfl, .inr (.inr (.inl rfl))⟩
  | checked =>
    simp only [dmaProcessXferJob, phase, Option.some.injEq] at stepped
    rw [← stepped]
    obtain ⟨looped, ended, same⟩ := dmaXferLoop_accounted w.pool.transfer held.toDmaAccounted rfl
    refine ⟨looped.toPhase (.inr (same.trans phase)) rfl rfl, ?_⟩
    rcases ended with empty | busy
    · refine .inr (.inr (.inr (.inr ?_)))
      intro job inside
      simp only [DmaWorld.onPool, empty, List.not_mem_nil] at inside
    · exact .inr (.inr (.inr (.inl busy)))
  | idle | finishing | calling | freeing | walking =>
    simp [dmaProcessXferJob, phase] at stepped

/-! ## The done work -/

/-- A step of the done work stays defined. -/
theorem dmaProcessDoneJob_sound {after : Option DmaWorld} (held : DmaSound w)
    (outside : dmaProcessXferJob w = none) (stepped : dmaProcessDoneJob w = some after) :
    ∃ w', after = some w' ∧ DmaSound w' := by
  simp only [dmaProcessDoneJob, Option.map_eq_some_iff] at stepped
  obtain ⟨pool, walked, result⟩ := stepped
  obtain ⟨pool', defined, kept, frame⟩ := held.pool.finishStep walked
  rw [defined, Option.map_some] at result
  refine ⟨{ w with pool := pool' }, result.symm, held.onPool kept, ?_⟩
  have woken := held.woken
  have entered : w.pool.worker ≠ .entered := by
    intro phase
    simp [dmaProcessXferJob, phase] at outside
  have checked : w.pool.worker ≠ .checked := by
    intro phase
    simp [dmaProcessXferJob, phase] at outside
  simp only [DmaWoken, entered, checked, false_or, frame.transfer, frame.transferPending,
    frame.calls, frame.owner, frame.outside] at woken ⊢
  exact woken

/-! ## Interrupts -/

/-- The channel registers are not part of the bookkeeping. -/
theorem DmaSound.setChannel (held : DmaSound w) (i : Nat) (change : DmacChannel → DmacChannel) :
    DmaSound (w.setChannel i change) :=
  { held with }

/-- An interrupt moves the job of its channel to the done queue and schedules what follows. -/
theorem dmaFinishJob_sound {i job : Nat} (held : DmaSound w)
    (running : w.dmaRunningJob.getD i none = some job) (result : Int) :
    DmaSound (dmaFinishJob w i job result) := by
  have slot : w.dmaRunningJob[i]? = some (some job) := by
    rw [List.getD_eq_getElem?_getD] at running
    cases found : w.dmaRunningJob[i]? with
    | none => simp [found] at running
    | some value =>
      rw [found, Option.getD_some] at running
      rw [running]
  have taken : (dmaRunning w).Perm (job :: dmaRunning (dmaFinishJob w i job result)) :=
    running_set_none slot
  have length : (dmaRunning w).length = (dmaRunning (dmaFinishJob w i job result)).length + 1 :=
    taken.length_eq
  have fits := held.running_le
  have counted := held.busyLen
  constructor
  · refine ⟨held.pool.complete taken result, List.length_set.trans held.channels, ?_, ?_⟩
    · simp only [dmaFinishJob] at length ⊢
      omega
    · simp only [dmaFinishJob, Bool.false_eq_true, false_iff] at length ⊢
      omega
  · -- the transfer work is pending unless its queue is empty
    have pending := held.pool.complete_pending job result
    have transfer := (complete_frame w.pool job result).1
    by_cases empty : w.pool.transfer = []
    · refine .inr (.inr (.inr (.inr ?_)))
      intro other inside
      simp only [dmaFinishJob, transfer, empty, List.not_mem_nil] at inside
    · exact .inl (pending.mpr (.inr empty))

/-- An interrupt handler. -/
theorem dmaIsr_sound (held : DmaSound w) (status : DmacChannel → Bool)
    (clear : DmacChannel → DmacChannel) (result : Int) :
    DmaSound (dmaIsr status clear result w) := by
  unfold dmaIsr
  split
  · exact held
  · rename_i i _
    have disabled := held.setChannel i halDmacDisableChannel
    simp only
    split
    · exact disabled.setChannel i clear
    · rename_i job running
      exact (dmaFinishJob_sound disabled running result).setChannel i clear

/-! ## Whole runs -/

/-- The worker takes up one of the two work functions. -/
theorem dmaRun_sound (held : DmaSound w) (idle : w.pool.worker = .idle) :
    DmaSound (w.onPool beginTransfer) ∧ DmaSound (w.onPool beginDone) := by
  constructor
  · exact ⟨held.onPool (held.pool.beginTransfer idle), .inr (.inl rfl)⟩
  · refine ⟨held.onPool (held.pool.beginDone idle), ?_⟩
    have woken := held.woken
    simp only [DmaWoken, idle, reduceCtorEq, false_or] at woken
    exact woken.imp_right fun rest => .inr (.inr rest)

/-- The initial state. -/
theorem dmaInit_sound (start : dmaInit w) : DmaSound w := by
  obtain ⟨pool, busy, busyLen, running, _⟩ := start
  have none : dmaRunning w = [] := by
    rw [dmaRunning, running]
    rfl
  refine ⟨⟨?_, ?_, ?_, ?_⟩, ?_⟩
  · rw [pool, none]
    exact initial_accounted dmaXferMaxQLen
  · rw [running]
    rfl
  · rw [busyLen, none]
    rfl
  · simp [busy, none, dmaChannels]
  · refine .inr (.inr (.inr (.inr ?_)))
    intro job inside
    simp [pool, initial] at inside

/-- Every step from a sound state leads to a sound state. -/
theorem dmaStep_sound {e : DmaEvent} {s' : Option DmaWorld} (held : DmaSound w)
    (stepped : dmaStep (some w) e = some s') : ∃ w', s' = some w' ∧ DmaSound w' := by
  cases e with
  | copy xfer =>
    obtain ⟨allowed, result⟩ := guarded_step stepped
    exact ⟨_, result.symm, dmaCopy_sound held allowed.2.2⟩
  | alloc xfer =>
    obtain ⟨present, result⟩ := guarded_step stepped
    exact ⟨_, result.symm, dmaJobAlloc_sound held present⟩
  | enqueue job xfer =>
    obtain ⟨present, result⟩ := guarded_step stepped
    exact ⟨_, result.symm, dmaEnqueue_sound held present⟩
  | testBusy xfer =>
    obtain ⟨present, result⟩ := guarded_step stepped
    exact ⟨_, result.symm, dmaTestBusy_sound held present⟩
  | scheduleXfer xfer =>
    obtain ⟨present, result⟩ := guarded_step stepped
    exact ⟨_, result.symm, dmaScheduleXfer_sound held present⟩
  | runXfer =>
    obtain ⟨allowed, result⟩ := guarded_step stepped
    exact ⟨_, result.symm, (dmaRun_sound held allowed.1).1⟩
  | runDone =>
    obtain ⟨allowed, result⟩ := guarded_step stepped
    exact ⟨_, result.symm, (dmaRun_sound held allowed.1).2⟩
  | work =>
    cases worked : dmaProcessXferJob w with
    | some after =>
      simp only [dmaStep, worked, Option.some.injEq] at stepped
      exact ⟨after, stepped.symm, dmaProcessXferJob_sound held worked⟩
    | none =>
      simp only [dmaStep, worked] at stepped
      exact dmaProcessDoneJob_sound held worked stepped
  | raise i ok =>
    obtain ⟨_, result⟩ := guarded_step stepped
    exact ⟨_, result.symm, held.setChannel i _⟩
  | tcIsr =>
    have result := Option.some.inj stepped
    exact ⟨_, result.symm, dmaIsr_sound held _ _ _⟩
  | errIsr =>
    have result := Option.some.inj stepped
    exact ⟨_, result.symm, dmaIsr_sound held _ _ _⟩

/-- Every reachable state is defined and sound. -/
theorem dma_sound {s : Option DmaWorld} (reached : dmaSystem.Reachable s) :
    ∃ w, s = some w ∧ DmaSound w := by
  refine reached.invariant (fun s start => ?_) (fun s e s' held stepped => ?_)
  · obtain ⟨w, same, fresh⟩ := start
    exact ⟨w, same, dmaInit_sound fresh⟩
  · obtain ⟨w, same, sound⟩ := held
    rw [same] at stepped
    exact dmaStep_sound sound stepped

/-- What conservation of jobs means in one state. -/
structure DmaConserved (w : DmaWorld) : Prop where
  /-- Each record is in one of the free list, the transfer queue, a channel, the done queue, a
  call and the worker, and in it once. -/
  placed : (w.pool.free ++ w.pool.transfer ++ w.dmaRunningJob.filterMap id ++ w.pool.done ++
    w.pool.calls.filterMap Submit.record ++ w.pool.worker.record.toList).Perm (List.range 32)
  /-- `dma_xfer_q_len`. -/
  xferQLen : w.pool.transferLen = w.pool.transfer.length
  /-- `dma_done_q_len`. -/
  doneQLen : w.pool.doneLen = w.pool.done.length
  /-- `dma_busy_q_len`. -/
  busyQLen : w.dmaBusyQLen = (w.dmaRunningJob.filterMap id).length
  /-- `dma_busy`. -/
  busy : w.dmaBusy = true ↔ ∀ i < 7, ∃ job, w.dmaRunningJob[i]? = some (some job)
  /-- No request is called back twice. -/
  once : ∀ xfer, (w.pool.called.map Prod.fst).count xfer ≤ 1
  /-- At rest every accepted or rejected request was called back. -/
  all : w.dmaRunningJob.filterMap id = [] → w.pool.transferPending = false →
    w.pool.donePending = false → w.pool.worker = .idle →
    ∀ xfer ∈ w.pool.answered, (w.pool.called.map Prod.fst).count xfer = 1

/-- `dma_busy` in terms of the channels one by one. -/
theorem DmaAccounted.busy_iff (held : DmaAccounted w) :
    w.dmaBusy = true ↔ ∀ i < 7, ∃ job, w.dmaRunningJob[i]? = some (some job) := by
  have channels : w.dmaRunningJob.length = 7 := held.channels
  rw [held.busy, ← held.channels, dmaRunning, List.filterMap_length_eq_length]
  constructor
  · intro full i inside
    have used := full _ (List.getElem_mem (channels ▸ inside))
    obtain ⟨job, slot⟩ := Option.isSome_iff_exists.mp used
    exact ⟨job, List.getElem?_eq_some_iff.mpr ⟨channels ▸ inside, slot⟩⟩
  · intro full slot inside
    obtain ⟨i, bound, same⟩ := List.getElem_of_mem inside
    obtain ⟨job, used⟩ := full i (channels ▸ bound)
    rw [List.getElem?_eq_getElem bound, same, Option.some.injEq] at used
    rw [used]
    rfl

/-- At rest, only jobs wait whose calls have not yet looked at `dma_busy` or scheduled. -/
theorem DmaSound.at_rest (held : DmaSound w) (none : dmaRunning w = [])
    (transfer : w.pool.transferPending = false) (done : w.pool.donePending = false)
    (idle : w.pool.worker = .idle) :
    ∀ job ∈ w.pool.waiting (dmaRunning w), ∃ xfer, w.pool.owner job = some xfer ∧
      xfer ∈ w.pool.calls.filterMap Submit.queuedRequest := by
  have free : w.dmaBusy = false := by
    have busy := held.busy
    simpa [none, dmaChannels] using busy
  have woken := held.woken
  simp only [DmaWoken, transfer, idle, free, reduceCtorEq, Bool.false_eq_true, false_or] at woken
  have waits : w.pool.waiting (dmaRunning w) = w.pool.transfer := by
    simp [waiting, none, held.pool.done_empty idle done, idle, Worker.uncalled]
  rw [waits]
  exact woken

/-- In every reachable state of the driver, every record is in one place, the counters are the
sizes they stand for, and every request is called back once. -/
theorem dma_conserves_jobs {s : Option DmaWorld} (reached : dmaSystem.Reachable s) :
    ∃ w, s = some w ∧ DmaConserved w := by
  obtain ⟨w, same, sound⟩ := dma_sound reached
  refine ⟨w, same, sound.pool.placed, sound.pool.transferLen, sound.pool.doneLen,
    sound.busyLen, sound.busy_iff, sound.pool.called_once, ?_⟩
  intro none transfer done idle xfer answered
  exact sound.pool.called_all (sound.at_rest none transfer done idle) answered

/-- A copy of sixteen bytes. -/
def dmaSmallCopy (id : Nat) : DmaXfer := ⟨id, [⟨0xC0001000, 0xC0002000, 16, 0, 1, 0, 0, 2, 2⟩]⟩

/-- The driver after `dma_init`. -/
def dmaFresh : DmaWorld where
  dmaMemPoolDma := 0x100000
  pool := initial dmaXferMaxQLen
  llpDescr _ := []
  dmaBusy := false
  dmaBusyQLen := 0
  dmaRunningJob := List.replicate dmaChannels none
  channel _ := ⟨0, 0, 0, 0, 0, false, false⟩

/-- Two calls, the second between the steps of the transfer work for the first; the second
fails. -/
def dmaTwoCopies : List DmaEvent :=
  [.copy (dmaSmallCopy 0), .alloc (dmaSmallCopy 0), .enqueue 0 (dmaSmallCopy 0),
    .testBusy (dmaSmallCopy 0), .scheduleXfer (dmaSmallCopy 0), .runXfer,
    .copy (dmaSmallCopy 1), .work, .alloc (dmaSmallCopy 1), .enqueue 1 (dmaSmallCopy 1), .work,
    .testBusy (dmaSmallCopy 1), .scheduleXfer (dmaSmallCopy 1), .raise 1 false, .errIsr, .runDone,
    .work, .raise 0 true, .tcIsr, .work, .work, .work, .runXfer, .work, .work, .runDone, .work,
    .work, .work, .work]

/-- Both copies are called back, the failed one first. -/
theorem dma_conserves_jobs_two : ∃ s, dmaSystem.Reachable s ∧ ∃ w, s = some w ∧
    DmaConserved w ∧
    w.pool.called = [(dmaSmallCopy 1, dmacResponseErr), (dmaSmallCopy 0, dmacResponseOk)] := by
  have ran : (dmaSystem.run (some dmaFresh) dmaTwoCopies).any (fun s => s.any fun w =>
      decide (w.pool.called =
        [(dmaSmallCopy 1, dmacResponseErr), (dmaSmallCopy 0, dmacResponseOk)])) = true := by
    decide
  obtain ⟨s, ended, fact⟩ := (Option.any_eq_true ..).mp ran
  have fresh : dmaInit dmaFresh := ⟨rfl, rfl, rfl, rfl, fun _ => ⟨by simp [dmaFresh], rfl, rfl⟩⟩
  have reached : dmaSystem.Reachable s :=
    System.reachable_of_run (.init ⟨dmaFresh, rfl, fresh⟩) ended
  obtain ⟨w, same, conserved⟩ := dma_conserves_jobs reached
  refine ⟨s, reached, w, same, conserved, ?_⟩
  rw [same, Option.any_some] at fact
  exact of_decide_eq_true fact

end Fvs318g.Verif.Dma
