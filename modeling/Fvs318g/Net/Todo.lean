import Fvs318g.Kernel.Base
import Fvs318g.Lib.System
import Mathlib.Logic.Function.Basic

/-!
# Taking network devices down

`unregister_netdevice` unlinks a device and leaves the rest to `netdev_run_todo`, which runs
when the RTNL semaphore is dropped: it waits in `netdev_wait_allrefs` until every reference to
the device is given back and then calls the destructor. The wait polls the count, repeats the
unregister notification every second, and after ten seconds it sets the count to zero.

The count is an `atomic_t`, a 32-bit integer. Beside it the model keeps the number of references
that were taken and not given back. References are taken by those who find the device in the
lists of registered devices or who hold a reference already, and only a held reference is given
back; what the notifiers and `linkwatch_run_queue` give back is given back by such steps.
-/

namespace Fvs318g.Net

open Kernel Lib

/-- `jiffies` and the times taken from it, 32 bits wide. -/
abbrev Jiffies := BitVec 32

/-- `time_after(a, b)`. -/
def timeAfter (a b : Jiffies) : Bool := decide ((b - a).toInt < 0)

/-- `dev->reg_state`. -/
inductive RegState where
  /-- `NETREG_UNINITIALIZED`. -/
  | uninitialized
  /-- `NETREG_REGISTERING`. -/
  | registering
  /-- `NETREG_REGISTERED`. -/
  | registered
  /-- `NETREG_UNREGISTERING`. -/
  | unregistering
  /-- `NETREG_UNREGISTERED`. -/
  | unregistered
  deriving DecidableEq, Repr

/-- What taking a device down reads and writes of `struct net_device`. -/
structure TodoDevice where
  /-- `refcnt`. -/
  refcnt : BitVec 32
  /-- `reg_state`. -/
  regState : RegState
  /-- The references that were taken and not given back. -/
  held : Nat
  deriving DecidableEq, Repr

/-- The device before it is registered. -/
def TodoDevice.fresh : TodoDevice := ⟨0, .uninitialized, 0⟩

/-- `dev_hold`. -/
def TodoDevice.devHold (dev : TodoDevice) : TodoDevice :=
  { dev with refcnt := dev.refcnt + 1, held := dev.held + 1 }

/-- `dev_put`. -/
def TodoDevice.devPut (dev : TodoDevice) : TodoDevice :=
  { dev with refcnt := dev.refcnt - 1, held := dev.held - 1 }

/-- The device is in the lists in which it can be looked up. -/
def TodoDevice.listed (dev : TodoDevice) : Bool :=
  dev.regState == .registering || dev.regState == .registered

/-- Where `netdev_run_todo` is; `list` is what is left of its snapshot. -/
inductive TodoPhase where
  /-- Not running: `net_todo_run_mutex` is free. -/
  | idle
  /-- At the head of the loop over the snapshot. -/
  | looping (list : List Nat)
  /-- In `netdev_wait_allrefs`, before the test of the count. -/
  | testing (dev : Nat) (list : List Nat) (rebroadcastTime warningTime : Jiffies)
  /-- The unregister notification is being repeated. -/
  | rebroadcasting (dev : Nat) (list : List Nat) (warningTime : Jiffies)
  /-- In `msleep(250)`. -/
  | sleeping (dev : Nat) (list : List Nat) (rebroadcastTime warningTime wakeTime : Jiffies)
  /-- The warning is printed, before the count is set. -/
  | overdue (dev : Nat) (list : List Nat) (rebroadcastTime : Jiffies)
  /-- `netdev_wait_allrefs` has returned, before the `BUG_ON`. -/
  | waited (dev : Nat) (list : List Nat)
  /-- Past the `BUG_ON`, before the destructor. -/
  | destroying (dev : Nat) (list : List Nat)
  /-- The `BUG_ON` was hit. -/
  | bug
  deriving DecidableEq, Repr

/-- The devices, the todo list and its runner. -/
structure TodoWorld where
  /-- The devices. -/
  devs : Nat → TodoDevice
  /-- `net_todo_list`. -/
  netTodoList : List Nat
  /-- The runner of the list. -/
  phase : TodoPhase
  /-- `jiffies`. -/
  jiffies : Jiffies
  /-- The points at which a destructor is called if the device has one: the device and the
  references not given back by then. -/
  destroyed : List (Nat × Nat)

namespace TodoWorld

/-- Change one device. -/
def setDev (w : TodoWorld) (d : Nat) (dev : TodoDevice) : TodoWorld :=
  { w with devs := Function.update w.devs d dev }

/-- A device that is set reads back. -/
@[simp] theorem setDev_self (w : TodoWorld) (d : Nat) (dev : TodoDevice) :
    (w.setDev d dev).devs d = dev := Function.update_self ..

/-- The other devices stay as they are. -/
theorem setDev_ne (w : TodoWorld) {c d : Nat} (other : d ≠ c) (dev : TodoDevice) :
    (w.setDev c dev).devs d = w.devs d := Function.update_of_ne other ..

end TodoWorld

/-- What can happen next. -/
inductive TodoEvent where
  /-- A holder takes a reference. -/
  | hold (d : Nat)
  /-- A holder gives a reference back. -/
  | put (d : Nat)
  /-- Time passes. -/
  | pass (ticks : Nat)
  /-- `register_netdevice`. -/
  | register (d : Nat)
  /-- `unregister_netdevice`, up to its `dev_put`. -/
  | unregister (d : Nat)
  /-- The next step of `netdev_run_todo`. -/
  | run

/-- The jiffies of `msleep(250)`: `msecs_to_jiffies(250) + 1`. -/
def msleep250 : Nat := 26

/-- One pass of the loop over the snapshot, up to the wait. -/
def todoNext (w : TodoWorld) (d : Nat) (list : List Nat) : TodoWorld :=
  let dev := w.devs d
  match dev.regState with
  | .registering =>
    { w.setDev d { dev with regState := .registered } with phase := .looping list }
  | .unregistering =>
    { w.setDev d { dev with regState := .unregistered } with
      phase := .testing d list w.jiffies w.jiffies }
  | _ => { w with phase := .looping list }

/-- The next step of `netdev_run_todo`. -/
def netdevRunTodo (w : TodoWorld) : Option TodoWorld :=
  match w.phase with
  | .idle =>
    if w.netTodoList = [] then none
    else some { w with netTodoList := [], phase := .looping w.netTodoList }
  | .looping [] => some { w with phase := .idle }
  | .looping (d :: list) => some (todoNext w d list)
  | .testing d list rebroadcastTime warningTime =>
    if (w.devs d).refcnt = 0 then some { w with phase := .waited d list }
    else if timeAfter w.jiffies (rebroadcastTime + BitVec.ofNat 32 (1 * hz)) then
      some { w with phase := .rebroadcasting d list warningTime }
    else some { w with
      phase := .sleeping d list rebroadcastTime warningTime
        (w.jiffies + BitVec.ofNat 32 msleep250) }
  | .rebroadcasting d list warningTime =>
    some { w with
      phase := .sleeping d list w.jiffies warningTime (w.jiffies + BitVec.ofNat 32 msleep250) }
  | .sleeping d list rebroadcastTime warningTime wakeTime =>
    if timeAfter wakeTime w.jiffies then none
    else if timeAfter w.jiffies (warningTime + BitVec.ofNat 32 (10 * hz)) then
      some { w with phase := .overdue d list rebroadcastTime }
    else some { w with phase := .testing d list rebroadcastTime warningTime }
  | .overdue d list rebroadcastTime =>
    -- atomic_set(&dev->refcnt, 0), whatever is still held
    some { w.setDev d { w.devs d with refcnt := 0 } with
      phase := .testing d list rebroadcastTime w.jiffies }
  | .waited d list =>
    if (w.devs d).refcnt = 0 then some { w with phase := .destroying d list }
    else some { w with phase := .bug }
  | .destroying d list =>
    some { w with
      phase := .looping list, destroyed := w.destroyed ++ [(d, (w.devs d).held)] }
  | .bug => none

/-- One event. -/
def todoStep (w : TodoWorld) : TodoEvent → Option TodoWorld
  | .hold d =>
    if 0 < (w.devs d).held ∨ (w.devs d).listed then some (w.setDev d (w.devs d).devHold)
    else none
  | .put d => if 0 < (w.devs d).held then some (w.setDev d (w.devs d).devPut) else none
  | .pass ticks => some { w with jiffies := w.jiffies + BitVec.ofNat 32 ticks }
  | .register d =>
    if (w.devs d).regState = .uninitialized then
      some { w.setDev d { (w.devs d).devHold with regState := .registering } with
        netTodoList := w.netTodoList ++ [d] }
    else none
  | .unregister d =>
    if (w.devs d).regState = .registered then
      some { w.setDev d { w.devs d with regState := .unregistering } with
        netTodoList := w.netTodoList ++ [d] }
    else none
  | .run => netdevRunTodo w

/-- No device is registered and no reference is held. -/
def todoInit (jiffies : Jiffies) : TodoWorld where
  devs _ := .fresh
  netTodoList := []
  phase := .idle
  jiffies := jiffies
  destroyed := []

/-- Taking devices down as a transition system, started at any time. -/
def todoSystem : System TodoWorld TodoEvent where
  init w := ∃ jiffies, w = todoInit jiffies
  step := todoStep

end Fvs318g.Net
