import Mathlib.Data.List.Perm.Basic
import Mathlib.Logic.Function.Basic

/-!
# Job pools with deferred completion

A driver has a fixed pool of job records. A call that submits a request takes a record from the
free list, queues it for transfer and returns; a work function starts queued jobs, an interrupt
moves finished ones to the done queue, and a second work function walks the done queue, calls the
requests back and frees the records. The two work functions run on one thread; everything else
may run between any two of their steps.

The engine that runs the jobs is left open: here it is the list of the jobs that it runs. What is
proved is the bookkeeping around it. Every record is in one place, every request is answered
once, and the walk over the done queue survives the lock being dropped in its middle.
-/

namespace Fvs318g.Lib

/-- Where a call that submits a request of type `ξ` is. -/
inductive Submit (ξ : Type) where
  /-- Before it takes a record. -/
  | started (x : ξ)
  /-- It has a record for the request. -/
  | holding (job : Nat) (x : ξ)
  /-- It has called the request back and gives the record up. -/
  | releasing (job : Nat)
  /-- The record is queued, before the engine is looked at. -/
  | queued (x : ξ)
  /-- The engine was found free, before the work is scheduled. -/
  | waking (x : ξ)
  deriving DecidableEq, Repr

/-- Where the thread of the work functions is. -/
inductive Worker where
  /-- No work function runs. -/
  | idle
  /-- The transfer function has begun. -/
  | entered
  /-- The transfer function found the engine free, before it takes the lock. -/
  | checked
  /-- The done function has begun. -/
  | finishing
  /-- A job was taken from the done queue, before its callback. -/
  | calling (job : Nat) (next : Option Nat)
  /-- The callback has returned, before the record is freed. -/
  | freeing (job : Nat) (next : Option Nat)
  /-- Before the lock is taken again to go on with the walk. -/
  | walking (next : Option Nat)
  deriving DecidableEq, Repr

/-- The pool, its queues, the calls and the worker. -/
structure JobPool (ξ : Type) where
  /-- The request of each record. -/
  owner : Nat → Option ξ
  /-- The result of each record. -/
  status : Nat → Int
  /-- The free list. -/
  free : List Nat
  /-- The transfer queue. -/
  transfer : List Nat
  /-- The done queue. -/
  done : List Nat
  /-- The length kept for the transfer queue. -/
  transferLen : Int
  /-- The length kept for the done queue. -/
  doneLen : Int
  /-- The transfer work is pending. -/
  transferPending : Bool
  /-- The done work is pending. -/
  donePending : Bool
  /-- The calls in progress. -/
  calls : List (Submit ξ)
  /-- The worker. -/
  worker : Worker
  /-- The requests made so far. -/
  issued : List ξ
  /-- The requests that were rejected, or accepted by a call that has returned. -/
  answered : List ξ
  /-- The callbacks, with their results. -/
  called : List (ξ × Int)

namespace JobPool

variable {ξ : Type}

/-- A pool of `n` free records. -/
def initial (n : Nat) : JobPool ξ where
  owner _ := none
  status _ := 0
  free := List.range n
  transfer := []
  done := []
  transferLen := 0
  doneLen := 0
  transferPending := false
  donePending := false
  calls := []
  worker := .idle
  issued := []
  answered := []
  called := []

/-- A new call. -/
def submit (s : JobPool ξ) (x : ξ) : JobPool ξ :=
  { s with calls := .started x :: s.calls, issued := x :: s.issued }

/-- Put a record back in front of the free list. -/
def release (s : JobPool ξ) (job : Nat) : JobPool ξ := { s with free := job :: s.free }

/-- `schedule_work` for the transfer function. -/
def scheduleTransfer (s : JobPool ξ) : JobPool ξ := { s with transferPending := true }

/-- `schedule_work` for the done function. -/
def scheduleDone (s : JobPool ξ) : JobPool ξ := { s with donePending := true }

/-- The worker takes up the transfer function. -/
def beginTransfer (s : JobPool ξ) : JobPool ξ :=
  { s with transferPending := false, worker := .entered }

/-- The worker takes up the done function. -/
def beginDone (s : JobPool ξ) : JobPool ξ :=
  { s with donePending := false, worker := .finishing }

/-! ## The engine -/

/-- A job leaves the transfer queue for the engine. -/
def start (s : JobPool ξ) (job : Nat) : JobPool ξ :=
  { s with transfer := s.transfer.erase job, transferLen := s.transferLen - 1 }

/-- A job comes back from the engine. -/
def finish (s : JobPool ξ) (job : Nat) (result : Int) : JobPool ξ :=
  { s with
    status := Function.update s.status job result
    done := s.done ++ [job]
    doneLen := s.doneLen + 1 }

/-- What the interrupt does with a job: it finishes, the done function is scheduled, and the
transfer function too when its queue is not empty. -/
def complete (s : JobPool ξ) (job : Nat) (result : Int) : JobPool ξ :=
  let s := (s.finish job result).scheduleDone
  if s.transferLen ≠ 0 then s.scheduleTransfer else s

/-! ## The walk over the done queue -/

/-- The entry behind a job, `none` at the end of the queue. -/
def nextOf (job : Nat) : List Nat → Option Nat
  | [] => none
  | j :: rest => if j = job then rest.head? else nextOf job rest

/-- One entry of a walk that may delete the entry it is at: with the lock held, take the entry
and drop the lock. An entry that is no longer in the queue has no defined successor. -/
def visit (s : JobPool ξ) : Option Nat → Option (JobPool ξ)
  | none => some { s with worker := .idle }
  | some job =>
    if job ∈ s.done then
      some { s with
        done := s.done.erase job, doneLen := s.doneLen - 1
        worker := .calling job (nextOf job s.done) }
    else none

/-- The next step of the done function; an inner `none` is the state after undefined
behaviour. -/
def finishStep (s : JobPool ξ) : Option (Option (JobPool ξ)) :=
  match s.worker with
  | .finishing => some (s.visit s.done.head?)
  | .calling job next =>
    match s.owner job with
    | some x =>
      some (some { s with
        called := s.called ++ [(x, s.status job)], worker := .freeing job next })
    | none => some none
  | .freeing job next => some (some { s.release job with worker := .walking next })
  | .walking next => some (s.visit next)
  | _ => none

/-! ## Calls -/

variable [DecidableEq ξ]

/-- Replace a call in progress. -/
def moveCall (s : JobPool ξ) (old : Submit ξ) (new : List (Submit ξ)) : JobPool ξ :=
  { s with calls := new ++ s.calls.erase old }

/-- A call refuses its request and ends. -/
def refuse (s : JobPool ξ) (x : ξ) (result : Int) : JobPool ξ :=
  { s.moveCall (.started x) [] with
    answered := x :: s.answered, called := s.called ++ [(x, result)] }

/-- A call takes the first record of the free list. -/
def alloc (s : JobPool ξ) (x : ξ) (job : Nat) : JobPool ξ :=
  { s.moveCall (.started x) [.holding job x] with free := s.free.tail }

/-- A call that has a record refuses its request. -/
def giveUp (s : JobPool ξ) (job : Nat) (x : ξ) (result : Int) : JobPool ξ :=
  { s.moveCall (.holding job x) [.releasing job] with
    answered := x :: s.answered, called := s.called ++ [(x, result)] }

/-- A call queues its record for transfer. -/
def enqueue (s : JobPool ξ) (job : Nat) (x : ξ) : JobPool ξ :=
  { s.moveCall (.holding job x) [.queued x] with
    owner := Function.update s.owner job (some x)
    status := Function.update s.status job 0
    transfer := s.transfer ++ [job]
    transferLen := s.transferLen + 1 }

/-- A call that queued its record returns. -/
def accept (s : JobPool ξ) (c : Submit ξ) (x : ξ) : JobPool ξ :=
  { s.moveCall c [] with answered := x :: s.answered }

/-! ## Where the records and the requests are -/

end JobPool

/-- The record in the hands of a call. -/
def Submit.record {ξ : Type} : Submit ξ → Option Nat
  | .holding job _ => some job
  | .releasing job => some job
  | _ => none

/-- The request of a call that is not yet answered. -/
def Submit.request {ξ : Type} : Submit ξ → Option ξ
  | .started x => some x
  | .holding _ x => some x
  | .queued x => some x
  | .waking x => some x
  | .releasing _ => none

/-- The request of a call that has queued its record. -/
def Submit.queuedRequest {ξ : Type} : Submit ξ → Option ξ
  | .queued x => some x
  | .waking x => some x
  | _ => none

/-- The record in the hands of the worker. -/
def Worker.record : Worker → Option Nat
  | .calling job _ => some job
  | .freeing job _ => some job
  | _ => none

/-- The record whose callback the worker is about to call. -/
def Worker.uncalled : Worker → Option Nat
  | .calling job _ => some job
  | _ => none

/-- The record of a worker that is about to call. -/
@[simp]
theorem Worker.record_calling (job : Nat) (next : Option Nat) :
    (Worker.calling job next).record = some job := rfl

/-- A worker without a record has no callback to call. -/
theorem Worker.uncalled_eq_none {w : Worker} (empty : w.record = none) : w.uncalled = none := by
  cases w with
  | calling job next => simp [Worker.record] at empty
  | _ => rfl

/-- The entry at which the worker goes on with its walk. -/
def Worker.next : Worker → Option Nat
  | .calling _ next => next
  | .freeing _ next => next
  | .walking next => next
  | _ => none

namespace JobPool

variable {ξ : Type}

/-- The records, place by place, when the engine runs the jobs `running`. -/
def places (s : JobPool ξ) (running : List Nat) : List Nat :=
  s.free ++ s.transfer ++ running ++ s.done ++ s.calls.filterMap Submit.record ++
    s.worker.record.toList

/-- The jobs whose requests wait for their callback. -/
def waiting (s : JobPool ξ) (running : List Nat) : List Nat :=
  s.transfer ++ running ++ s.done ++ s.worker.uncalled.toList

/-- The bookkeeping of a pool of `n` records around an engine that runs `running`. -/
structure Accounted (n : Nat) (running : List Nat) (s : JobPool ξ) : Prop where
  /-- Every record is in one place. -/
  placed : (s.places running).Perm (List.range n)
  /-- The length kept for the transfer queue is its length. -/
  transferLen : s.transferLen = s.transfer.length
  /-- The length kept for the done queue is its length. -/
  doneLen : s.doneLen = s.done.length
  /-- A walk goes on at the first entry of the done queue. -/
  walk : ∀ job, s.worker.next = some job → s.done.head? = some job
  /-- A done job has the done function ahead of it. -/
  wake : s.done ≠ [] → s.donePending = true ∨ s.worker = .finishing ∨ s.worker.next ≠ none
  /-- A waiting job has a request. -/
  owned : ∀ job ∈ s.waiting running, (s.owner job).isSome
  /-- A request that was answered or queued was called back or waits. -/
  calledBack : (s.called.map Prod.fst ++ (s.waiting running).filterMap s.owner).Perm
    (s.answered ++ s.calls.filterMap Submit.queuedRequest)
  /-- A request is answered, or its call is in progress. -/
  asked : (s.answered ++ s.calls.filterMap Submit.request).Perm s.issued
  /-- No request is made twice. -/
  distinct : s.issued.Nodup

end JobPool

end Fvs318g.Lib
