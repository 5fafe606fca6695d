import Mathlib.Data.List.Nodup
import Fvs318g.Lib.JobPool

/-!
# The accounting of a job pool

Each operation of a job pool keeps the bookkeeping of `JobPool.Accounted`, whatever engine runs
the jobs. A list of places is compared with another by counting one entry in both, so that
every step comes down to a sum in which one summand moved.
-/

namespace Fvs318g.Lib.JobPool

variable {ξ : Type} {n : Nat} {running : List Nat} {s : JobPool ξ} {x : ξ} {job : Nat}

/-- The empty pool is accounted for. -/
theorem initial_accounted (n : Nat) : Accounted n [] (initial n : JobPool ξ) where
  placed := by simp [places, initial, Worker.record]
  transferLen := rfl
  doneLen := rfl
  walk _ ahead := by simp [initial, Worker.next] at ahead
  wake filled := by simp [initial] at filled
  owned _ waits := by simp [waiting, initial, Worker.uncalled] at waits
  calledBack := by simp [waiting, initial, Worker.uncalled]
  asked := by simp [initial]
  distinct := List.nodup_nil

/-- A new request is in progress. -/
theorem Accounted.submit (held : Accounted n running s) (fresh : x ∉ s.issued) :
    Accounted n running (s.submit x) :=
  { held with
    asked := List.perm_middle.trans (held.asked.cons x)
    distinct := List.nodup_cons.mpr ⟨fresh, held.distinct⟩ }

/-! ## The engine keeps the bookkeeping -/

/-- What an entry contributes to a list that has it. -/
theorem count_erased {l : List Nat} (inside : job ∈ l) (z : Nat) :
    l.count z = (l.erase job).count z + [job].count z := by
  rw [(List.perm_cons_erase inside).count_eq z, List.count_cons, List.count_singleton]

section

variable (held : Accounted n running s)
include held

variable {running' : List Nat}

/-- Jobs that only change their place keep their requests waiting. -/
theorem Accounted.moved {s' : JobPool ξ} (waits : (s'.waiting running').Perm (s.waiting running))
    (owner : s'.owner = s.owner) :
    (s.called.map Prod.fst ++ (s'.waiting running').filterMap s'.owner).Perm
        (s.answered ++ s.calls.filterMap Submit.queuedRequest) ∧
      ∀ job ∈ s'.waiting running', (s'.owner job).isSome := by
  rw [owner]
  constructor
  · exact ((waits.filterMap s.owner).append_left _).trans held.calledBack
  · intro other inside
    exact held.owned other (waits.mem_iff.mp inside)

/-- A job starts. -/
theorem Accounted.start (inside : job ∈ s.transfer) (taken : running'.Perm (job :: running)) :
    Accounted n running' (s.start job) := by
  have transfer := count_erased inside
  have counted (z : Nat) : running'.count z = running.count z + [job].count z := by
    rw [taken.count_eq z, List.count_cons, List.count_singleton]
  have waits : ((s.start job).waiting running').Perm (s.waiting running) := by
    refine List.perm_iff_count.mpr fun z => ?_
    have left := transfer z
    have added := counted z
    simp only [waiting, JobPool.start, List.count_append]
    omega
  have moved := held.moved waits rfl
  exact { held with
    placed := by
      refine (List.perm_iff_count.mpr fun z => ?_).trans held.placed
      have left := transfer z
      have added := counted z
      simp only [places, JobPool.start, List.count_append]
      omega
    transferLen := by
      have shorter := List.length_erase_add_one inside
      have before := held.transferLen
      simp only [JobPool.start]
      omega
    owned := moved.2
    calledBack := moved.1 }

/-- A job comes back, and the done function is scheduled. -/
theorem Accounted.finish (taken : running.Perm (job :: running')) (result : Int) :
    Accounted n running' (s.finish job result).scheduleDone := by
  have counted (z : Nat) : running.count z = running'.count z + [job].count z := by
    rw [taken.count_eq z, List.count_cons, List.count_singleton]
  have waits : ((s.finish job result).scheduleDone.waiting running').Perm (s.waiting running) := by
    refine List.perm_iff_count.mpr fun z => ?_
    have left := counted z
    simp only [waiting, JobPool.finish, scheduleDone, List.count_append]
    omega
  have moved := held.moved waits rfl
  exact { held with
    placed := by
      refine (List.perm_iff_count.mpr fun z => ?_).trans held.placed
      have left := counted z
      simp only [places, JobPool.finish, scheduleDone, List.count_append]
      omega
    doneLen := by
      simp only [JobPool.finish, scheduleDone, held.doneLen, List.length_append,
        List.length_singleton]
      rfl
    walk := by
      intro next ahead
      have first := held.walk next ahead
      simp only [JobPool.finish, scheduleDone, List.head?_append, first, Option.some_or]
    wake := fun _ => .inl rfl
    owned := moved.2
    calledBack := moved.1 }

/-- Scheduling the transfer function changes no place. -/
theorem Accounted.scheduleTransfer : Accounted n running s.scheduleTransfer := { held with }

/-- The interrupt keeps the bookkeeping. -/
theorem Accounted.complete (taken : running.Perm (job :: running')) (result : Int) :
    Accounted n running' (s.complete job result) := by
  have finished := held.finish taken result
  simp only [JobPool.complete]
  split
  · exact finished.scheduleTransfer
  · exact finished

end

/-- The interrupt changes neither the transfer queue nor the worker, the calls or the requests
of the records. -/
theorem complete_frame (s : JobPool ξ) (job : Nat) (result : Int) :
    (s.complete job result).transfer = s.transfer ∧ (s.complete job result).worker = s.worker ∧
      (s.complete job result).calls = s.calls ∧ (s.complete job result).owner = s.owner := by
  simp only [JobPool.complete]
  split
  · exact ⟨rfl, rfl, rfl, rfl⟩
  · exact ⟨rfl, rfl, rfl, rfl⟩

section

variable (held : Accounted n running s)
include held

/-- After the interrupt the transfer work is pending if it was or if a job is queued. -/
theorem Accounted.complete_pending (job : Nat) (result : Int) :
    (s.complete job result).transferPending = true ↔
      s.transferPending = true ∨ s.transfer ≠ [] := by
  have empty : s.transferLen = 0 ↔ s.transfer = [] := by
    rw [held.transferLen, ← List.length_eq_zero_iff]
    omega
  have same : (s.finish job result).scheduleDone.transferLen = s.transferLen := rfl
  simp only [JobPool.complete, same, ne_eq, empty]
  by_cases filled : s.transfer = []
  · simp only [filled, not_true_eq_false, ↓reduceIte, or_false]
    exact Iff.rfl
  · simp only [filled, not_false_eq_true, ↓reduceIte, or_true, iff_true]
    rfl

/-- A change between phases of the worker that hold no record. -/
theorem Accounted.phase {worker : Worker} {transferPending donePending : Bool}
    (before : s.worker.record = none) (after : worker.record = none) (next : worker.next = none)
    (woken : s.done ≠ [] → donePending = true ∨ worker = .finishing) :
    Accounted n running { s with worker, transferPending, donePending } := by
  have same : ({ s with worker, transferPending, donePending } : JobPool ξ).waiting running =
      s.waiting running := by
    simp only [waiting, Worker.uncalled_eq_none before, Worker.uncalled_eq_none after]
  have moved := held.moved (List.Perm.of_eq same) rfl
  exact { held with
    placed := by
      have placed := held.placed
      simp only [places, before, after] at placed ⊢
      exact placed
    walk := by
      intro job reached
      simp only [next, reduceCtorEq] at reached
    wake := fun filled => (woken filled).imp_right .inl
    owned := moved.2
    calledBack := moved.1 }

/-- The idle worker takes up the transfer function. -/
theorem Accounted.beginTransfer (idle : s.worker = .idle) :
    Accounted n running s.beginTransfer := by
  apply held.phase (by rw [idle]; rfl) rfl rfl
  intro filled
  have woken := held.wake filled
  simp only [idle, Worker.next, reduceCtorEq, ne_eq, not_true_eq_false, or_false] at woken
  exact .inl woken

/-- The idle worker takes up the done function. -/
theorem Accounted.beginDone (idle : s.worker = .idle) : Accounted n running s.beginDone :=
  held.phase (by rw [idle]; rfl) rfl rfl (fun _ => .inr rfl)

/-! ## The walk keeps the bookkeeping -/

/-- The done function changes neither the transfer queue, nor what is scheduled, nor the
calls, nor the requests of the records. -/
structure DoneFrame (s s' : JobPool ξ) : Prop where
  /-- The transfer queue. -/
  transfer : s'.transfer = s.transfer
  /-- The pending transfer work. -/
  transferPending : s'.transferPending = s.transferPending
  /-- The calls. -/
  calls : s'.calls = s.calls
  /-- The requests of the records. -/
  owner : s'.owner = s.owner
  /-- The worker stays out of the transfer function. -/
  outside : s'.worker ≠ .entered ∧ s'.worker ≠ .checked

/-- The first entry of the done queue goes to the worker. -/
theorem Accounted.take {rest : List Nat} (empty : s.worker.record = none)
    (split : s.done = job :: rest) : Accounted n running
      { s with
        done := rest
        doneLen := s.doneLen - 1
        worker := .calling job rest.head? } := by
  have waits : (s.transfer ++ running ++ rest ++ [job]).Perm (s.waiting running) := by
    refine List.perm_iff_count.mpr fun z => ?_
    simp only [waiting, Worker.uncalled_eq_none empty, split, Option.toList_none,
      List.count_append, List.count_cons, List.count_nil]
    omega
  exact { held with
    placed := by
      refine (List.perm_iff_count.mpr fun z => ?_).trans held.placed
      simp only [places, empty, split, Worker.record_calling, Option.toList_some,
        Option.toList_none, List.count_append, List.count_cons, List.count_nil]
      omega
    doneLen := by
      have before := held.doneLen
      rw [split, List.length_cons] at before
      simp only
      omega
    walk := fun next ahead => ahead
    wake := by
      intro filled
      refine .inr (.inr ?_)
      cases rest with
      | nil => exact absurd rfl filled
      | cons _ _ => simp [Worker.next]
    owned := fun other inside => held.owned other (waits.mem_iff.mp inside)
    calledBack := ((waits.filterMap s.owner).append_left _).trans held.calledBack }

/-- A visit of the walk, at the first entry of the done queue or behind its end. -/
theorem Accounted.visit {next : Option Nat} (empty : s.worker.record = none)
    (first : ∀ job, next = some job → s.done.head? = some job)
    (woken : next = none → s.done ≠ [] → s.donePending = true) :
    ∃ s', s.visit next = some s' ∧ Accounted n running s' ∧ DoneFrame s s' := by
  cases next with
  | none =>
    have rested : Accounted n running { s with worker := .idle } :=
      held.phase empty rfl rfl (fun filled => .inl (woken rfl filled))
    exact ⟨_, rfl, rested, rfl, rfl, rfl, rfl, Worker.noConfusion, Worker.noConfusion⟩
  | some job =>
    have split : s.done = job :: s.done.tail := List.eq_cons_of_mem_head? (first job rfl)
    have inside : job ∈ s.done := List.mem_of_mem_head? (first job rfl)
    have erased : s.done.erase job = s.done.tail := by
      rw [split, List.erase_cons_head, List.tail_cons]
    have following : nextOf job s.done = s.done.tail.head? := by
      rw [split, List.tail_cons]
      exact if_pos rfl
    refine ⟨_, if_pos inside, ?_, rfl, rfl, rfl, rfl, Worker.noConfusion, Worker.noConfusion⟩
    rw [erased, following]
    exact held.take empty split

/-- A worker past the start of the done function comes to the done jobs by its walk. -/
theorem Accounted.ahead (walking : s.worker ≠ .finishing) (filled : s.done ≠ []) :
    s.donePending = true ∨ s.worker.next ≠ none := by
  rcases held.wake filled with pending | finishing | ahead
  · exact .inl pending
  · exact absurd finishing walking
  · exact .inr ahead

end

section Phase

variable {worker : Worker} (held : Accounted n running s) (same : worker.next = s.worker.next)

include held same

/-- A worker with the same entry ahead goes on with its walk. -/
theorem Accounted.walk_congr (job : Nat) (ahead : worker.next = some job) :
    s.done.head? = some job :=
  held.walk job (same ▸ ahead)

/-- A worker with the same entry ahead comes to the done jobs by its walk. -/
theorem Accounted.wake_congr (walking : s.worker ≠ .finishing) (filled : s.done ≠ []) :
    s.donePending = true ∨ worker = .finishing ∨ worker.next ≠ none := by
  apply (held.ahead walking filled).imp_right
  intro ahead
  rw [← same] at ahead
  exact .inr ahead

end Phase

/-- The worker calls a request back. -/
theorem Accounted.callBack {next : Option Nat} (held : Accounted n running s)
    (phase : s.worker = .calling job next) (owner : s.owner job = some x) (result : Int) :
    Accounted n running
      { s with called := s.called ++ [(x, result)], worker := .freeing job next } := by
  have waits : s.waiting running = s.transfer ++ running ++ s.done ++ [job] := by
    simp only [waiting, phase]
    rfl
  have walking : s.worker ≠ .finishing := by
    rw [phase]
    exact Worker.noConfusion
  have same : (Worker.freeing job next).next = s.worker.next := by
    rw [phase]
    rfl
  have left : ({ s with called := s.called ++ [(x, result)], worker := .freeing job next } :
      JobPool ξ).waiting running = s.transfer ++ running ++ s.done := List.append_nil _
  exact { held with
    placed := by
      have placed := held.placed
      simp only [places, phase, Worker.record_calling] at placed
      exact placed
    walk := held.walk_congr same
    wake := held.wake_congr same walking
    owned := by
      intro other inside
      rw [left] at inside
      apply held.owned other
      rw [waits]
      exact List.mem_append_left _ inside
    calledBack := by
      have before := held.calledBack
      have mine : [job].filterMap s.owner = [x] := by simp [owner]
      rw [waits, List.filterMap_append, mine] at before
      rw [left]
      refine .trans ?_ before
      simp only [List.map_append, List.map_cons, List.map_nil, List.append_assoc]
      exact List.Perm.append_left _ List.perm_append_comm }

/-- The worker frees a record. -/
theorem Accounted.freeJob {next : Option Nat} (held : Accounted n running s)
    (phase : s.worker = .freeing job next) :
    Accounted n running { s.release job with worker := .walking next } := by
  have waits : s.waiting running = s.transfer ++ running ++ s.done ++ [] := by
    simp only [waiting, phase]
    rfl
  have walking : s.worker ≠ .finishing := by
    rw [phase]
    exact Worker.noConfusion
  have same : (Worker.walking next).next = s.worker.next := by
    rw [phase]
    rfl
  exact { held with
    placed := by
      refine (List.perm_iff_count.mpr fun z => ?_).trans held.placed
      have mine : s.worker.record.toList = [job] := by rw [phase]; rfl
      have none : (Worker.walking next).record.toList = [] := rfl
      simp only [places, release, mine, none, List.count_append, List.count_cons, List.count_nil]
      omega
    walk := held.walk_congr same
    wake := held.wake_congr same walking
    owned := by
      intro other inside
      apply held.owned other
      rw [waits]
      exact inside
    calledBack := by
      have before := held.calledBack
      rw [waits] at before
      exact before }

/-- A step of the done function keeps the bookkeeping and never leaves the queue. -/
theorem Accounted.finishStep {after : Option (JobPool ξ)} (held : Accounted n running s)
    (stepped : s.finishStep = some after) :
    ∃ s', after = some s' ∧ Accounted n running s' ∧ DoneFrame s s' := by
  cases phase : s.worker with
  | idle | entered | checked => simp [JobPool.finishStep, phase] at stepped
  | finishing =>
    simp only [JobPool.finishStep, phase, Option.some.injEq] at stepped
    rw [← stepped]
    apply held.visit (by rw [phase]; rfl)
    · intro job first
      exact first
    · intro ended filled
      exact absurd (List.head?_eq_none_iff.mp ended) filled
  | walking next =>
    simp only [JobPool.finishStep, phase, Option.some.injEq] at stepped
    rw [← stepped]
    apply held.visit (by rw [phase]; rfl)
    · intro job ahead
      apply held.walk
      rw [phase]
      exact ahead
    · intro ended filled
      have woken := held.wake filled
      simpa [phase, Worker.next, ended] using woken
  | calling job next =>
    have waits : job ∈ s.waiting running := by
      simp [waiting, phase, Worker.uncalled]
    obtain ⟨x, owner⟩ := Option.isSome_iff_exists.mp (held.owned job waits)
    simp only [JobPool.finishStep, phase, owner, Option.some.injEq] at stepped
    exact ⟨_, stepped.symm, held.callBack phase owner _, rfl, rfl, rfl, rfl,
      Worker.noConfusion, Worker.noConfusion⟩
  | freeing job next =>
    simp only [JobPool.finishStep, phase, Option.some.injEq] at stepped
    exact ⟨_, stepped.symm, held.freeJob phase, rfl, rfl, rfl, rfl,
      Worker.noConfusion, Worker.noConfusion⟩

/-- The done queue of an idle worker without pending work is empty. -/
theorem Accounted.done_empty (held : Accounted n running s) (idle : s.worker = .idle)
    (resting : s.donePending = false) : s.done = [] := by
  by_contra filled
  have woken := held.wake filled
  simp [idle, resting, Worker.next] at woken

/-! ## Calls keep the bookkeeping -/

variable [DecidableEq ξ]

/-- What a call contributes to a list made from the calls. -/
theorem count_calls {β : Type} [DecidableEq β] {c : Submit ξ} (f : Submit ξ → Option β)
    (present : c ∈ s.calls) (z : β) :
    (s.calls.filterMap f).count z =
      (f c).toList.count z + ((s.calls.erase c).filterMap f).count z := by
  rw [((List.perm_cons_erase present).filterMap f).count_eq z, List.filterMap_cons]
  cases f c with
  | none => simp
  | some b => simp [List.count_cons, Nat.add_comm]

/-- A step of a call is accounted for when its record, its request and its callback are. -/
theorem Accounted.call {c : Submit ξ} {new : List (Submit ξ)} {free : List Nat}
    {answered : List ξ} {called : List (ξ × Int)} (held : Accounted n running s)
    (present : c ∈ s.calls) (records : ∀ z, free.count z + (new.filterMap Submit.record).count z =
      s.free.count z + c.record.toList.count z)
    (answers : ∀ z, (called.map Prod.fst).count z + s.answered.count z +
        c.queuedRequest.toList.count z =
      (s.called.map Prod.fst).count z + answered.count z +
        (new.filterMap Submit.queuedRequest).count z)
    (asks : ∀ z, answered.count z + (new.filterMap Submit.request).count z =
      s.answered.count z + c.request.toList.count z) :
    Accounted n running
      { s.moveCall c new with free := free, answered := answered, called := called } :=
  { held with
    placed := by
      refine (List.perm_iff_count.mpr fun z => ?_).trans held.placed
      have calls := count_calls Submit.record present z
      have moved := records z
      simp only [places, moveCall, List.filterMap_append, List.count_append]
      omega
    calledBack := by
      refine List.perm_iff_count.mpr fun z => ?_
      have before := held.calledBack.count_eq z
      have calls := count_calls Submit.queuedRequest present z
      have moved := answers z
      simp only [moveCall, waiting, List.filterMap_append, List.count_append] at before ⊢
      omega
    asked := by
      refine (List.perm_iff_count.mpr fun z => ?_).trans held.asked
      have calls := count_calls Submit.request present z
      have moved := asks z
      simp only [moveCall, List.filterMap_append, List.count_append]
      omega }

/-- The queued request of a call stays when another call, or a call without one, moves on. -/
theorem queued_moveCall {c : Submit ξ} {new : List (Submit ξ)}
    (queued : x ∈ s.calls.filterMap Submit.queuedRequest)
    (kept : c.queuedRequest = some x → x ∈ new.filterMap Submit.queuedRequest) :
    x ∈ (s.moveCall c new).calls.filterMap Submit.queuedRequest := by
  obtain ⟨a, present, asks⟩ := List.mem_filterMap.mp queued
  simp only [moveCall, List.filterMap_append, List.mem_append]
  by_cases same : a = c
  · rw [same] at asks
    exact .inl (kept asks)
  · exact .inr (List.mem_filterMap.mpr ⟨a, (List.mem_erase_of_ne same).mpr present, asks⟩)

section

variable (held : Accounted n running s)
include held

/-- A refused request is called back at once. -/
theorem Accounted.refuse (present : .started x ∈ s.calls) (result : Int) :
    Accounted n running (s.refuse x result) := by
  apply held.call present
  · intro z
    rfl
  · intro z
    simp [Submit.queuedRequest, List.count_cons]
    omega
  · intro z
    simp [Submit.request, List.count_cons]

/-- A request that is given up is called back at once, its record still with the call. -/
theorem Accounted.giveUp (present : .holding job x ∈ s.calls) (result : Int) :
    Accounted n running (s.giveUp job x result) := by
  apply held.call present
  · intro z
    rfl
  · intro z
    simp [List.filterMap_cons, Submit.queuedRequest, List.count_cons]
    omega
  · intro z
    simp [List.filterMap_cons, Submit.request, List.count_cons]

/-- A call takes a record. -/
theorem Accounted.alloc (present : .started x ∈ s.calls) (first : s.free.head? = some job) :
    Accounted n running (s.alloc x job) := by
  have split : s.free = job :: s.free.tail := List.eq_cons_of_mem_head? first
  apply held.call present
  · intro z
    have free := congrArg (List.count z) split
    simp [Submit.record, List.count_cons] at free ⊢
    omega
  · intro z
    rfl
  · intro z
    rfl

/-- A call gives its record back. -/
theorem Accounted.giveBack (present : .releasing job ∈ s.calls) :
    Accounted n running ((s.moveCall (.releasing job) []).release job) := by
  apply held.call present
  · intro z
    simp [Submit.record, moveCall, List.count_cons]
  · intro z
    rfl
  · intro z
    rfl

/-- A call that queued its record finds the engine free. -/
theorem Accounted.wakeUp (present : .queued x ∈ s.calls) :
    Accounted n running (s.moveCall (.queued x) [.waking x]) := by
  apply held.call present
  · intro z
    rfl
  · intro z
    rfl
  · intro z
    rfl

/-- A call that queued its record returns. -/
theorem Accounted.accept {c : Submit ξ} (present : c ∈ s.calls) (empty : c.record = none)
    (asks : c.request = some x) (queued : c.queuedRequest = some x) :
    Accounted n running (s.accept c x) := by
  apply held.call present
  · intro z
    simp [empty, moveCall]
  · intro z
    simp [queued, moveCall, List.count_cons]
    omega
  · intro z
    simp [asks, List.count_cons]

/-- A record that is waiting is in no one's hands but the worker's. -/
theorem Accounted.handed {c : Submit ξ} (present : c ∈ s.calls) (hand : c.record = some job) :
    job ∉ s.waiting running := by
  have once : (s.places running).count job ≤ 1 := by
    rw [held.placed.count_eq]
    exact List.nodup_iff_count_le_one.mp List.nodup_range job
  have calls := count_calls Submit.record present job
  have uncalled : s.worker.uncalled.toList.count job ≤ s.worker.record.toList.count job := by
    cases s.worker <;> simp [Worker.uncalled, Worker.record]
  rw [hand, Option.toList_some, List.count_singleton_self] at calls
  apply List.count_eq_zero.mp
  simp only [places, waiting, List.count_append] at once ⊢
  omega

end

/-- Replacing the request of a record that is not in a list does not change the list's
requests. -/
theorem filterMap_update {α : Type} (owner : Nat → Option α) (value : Option α) {l : List Nat}
    (outside : job ∉ l) : l.filterMap (Function.update owner job value) = l.filterMap owner := by
  apply List.filterMap_congr
  intro other inside
  apply Function.update_of_ne
  intro same
  rw [same] at inside
  exact outside inside

/-- A call queues its record. -/
theorem Accounted.enqueue (held : Accounted n running s)
    (present : .holding job x ∈ s.calls) : Accounted n running (s.enqueue job x) :=
  { held with
    placed := by
      refine (List.perm_iff_count.mpr fun z => ?_).trans held.placed
      have calls := count_calls Submit.record present z
      simp only [Submit.record, Option.toList_some] at calls
      simp only [places, JobPool.enqueue, moveCall, List.filterMap_append, List.filterMap_cons,
        Submit.record, List.filterMap_nil, List.nil_append, List.count_append]
      omega
    transferLen := by
      simp only [JobPool.enqueue, held.transferLen, List.length_append, List.length_singleton]
      rfl
    owned := by
      intro other waits
      by_cases same : other = job
      · simp [JobPool.enqueue, same]
      · have before : other ∈ s.waiting running := by
          simp only [waiting, JobPool.enqueue, moveCall, List.mem_append, List.mem_singleton,
            same, or_false] at waits ⊢
          exact waits
        simp only [JobPool.enqueue, Function.update_of_ne same]
        exact held.owned other before
    calledBack := by
      refine List.perm_iff_count.mpr fun z => ?_
      have before := held.calledBack.count_eq z
      have calls := count_calls Submit.queuedRequest present z
      have outside := held.handed present rfl
      simp only [waiting, List.mem_append, not_or] at outside
      have queued : [job].filterMap (Function.update s.owner job (some x)) = [x] := by simp
      simp only [Submit.queuedRequest, Option.toList_none, List.count_nil] at calls
      simp only [JobPool.enqueue, moveCall, waiting, List.filterMap_append, queued,
        filterMap_update s.owner (some x) outside.1.1.1,
        filterMap_update s.owner (some x) outside.1.1.2,
        filterMap_update s.owner (some x) outside.1.2,
        filterMap_update s.owner (some x) outside.2, List.filterMap_cons, Submit.queuedRequest,
        List.filterMap_nil, List.count_append] at before ⊢
      omega
    asked := by
      refine (List.perm_iff_count.mpr fun z => ?_).trans held.asked
      have calls := count_calls Submit.request present z
      simp only [Submit.request, Option.toList_some] at calls
      simp only [JobPool.enqueue, moveCall, List.filterMap_append, List.filterMap_cons,
        Submit.request, List.filterMap_nil, List.count_append]
      omega }

/-! ## What the bookkeeping gives -/

/-- A queued request is a request of its call. -/
theorem count_queued_le (calls : List (Submit ξ)) (x : ξ) :
    (calls.filterMap Submit.queuedRequest).count x ≤ (calls.filterMap Submit.request).count x := by
  induction calls with
  | nil => exact Nat.le_refl 0
  | cons c calls shorter =>
    cases c <;> simp [Submit.queuedRequest, Submit.request, List.filterMap_cons,
      List.count_cons] <;> omega

/-- No request is called back twice. -/
theorem Accounted.called_once (held : Accounted n running s) (x : ξ) :
    (s.called.map Prod.fst).count x ≤ 1 := by
  have once := List.nodup_iff_count_le_one.mp held.distinct x
  have asked := held.asked.count_eq x
  have called := held.calledBack.count_eq x
  have queued := count_queued_le s.calls x
  simp only [List.count_append] at asked called
  omega

/-- When only jobs wait whose calls have not returned, every request that was answered was
called back once. -/
theorem Accounted.called_all (held : Accounted n running s)
    (unreturned : ∀ job ∈ s.waiting running, ∃ y, s.owner job = some y ∧
      y ∈ s.calls.filterMap Submit.queuedRequest) (answered : x ∈ s.answered) :
    (s.called.map Prod.fst).count x = 1 := by
  have once := List.nodup_iff_count_le_one.mp held.distinct x
  have asked := held.asked.count_eq x
  have called := held.calledBack.count_eq x
  have queued := count_queued_le s.calls x
  have present : 0 < s.answered.count x := List.count_pos_iff.mpr answered
  simp only [List.count_append] at asked called
  have none : ((s.waiting running).filterMap s.owner).count x = 0 := by
    apply List.count_eq_zero.mpr
    intro waits
    obtain ⟨job, inside, owner⟩ := List.mem_filterMap.mp waits
    obtain ⟨y, owner', unanswered⟩ := unreturned job inside
    rw [owner', Option.some.injEq] at owner
    rw [owner] at unanswered
    have pending := List.count_pos_iff.mpr unanswered
    omega
  omega

/-- When no job waits, every request that was queued or answered was called back once. -/
theorem Accounted.called_queued (held : Accounted n running s) (empty : s.waiting running = [])
    (accepted : x ∈ s.answered ++ s.calls.filterMap Submit.queuedRequest) :
    (s.called.map Prod.fst).count x = 1 := by
  have once := held.called_once x
  have called := held.calledBack.count_eq x
  have present := List.count_pos_iff.mpr accepted
  rw [empty, List.filterMap_nil, List.append_nil] at called
  omega

end Fvs318g.Lib.JobPool
