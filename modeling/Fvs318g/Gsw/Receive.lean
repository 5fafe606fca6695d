import Fvs318g.Kernel.SkBuff
import Fvs318g.Lib.Ring
import Fvs318g.Lib.System

/-!
# The receive ring of the switch driver

`star_gsw_receive_packet` as the driver is configured (`CONFIG_STAR_GSW_NAPI` defined), on
the ring that `star_gsw_buffer_alloc` sets up. The hardware fills descriptors while a pass
runs, so a pass is a sequence of steps: it reads the hardware's position, compares it with
its own, and then handles one descriptor after the other. Within one iteration the driver
only writes a descriptor that it owns, and it clears `cown` last, so an iteration is one
step.

The hardware writes a frame to the physical address in the descriptor, and the driver
hands up whatever lies at the data pointer of the buffer in the slot; that the two are the
same memory is a property of the ring and not of the model.
-/

namespace Fvs318g.Gsw

open Kernel Lib

/-- `STAR_GSW_MAX_RFD_NUM`. -/
def starGswMaxRfdNum : Nat := 96

/-- `MAX_PACKET_LEN`. -/
def maxPacketLen : Nat := 1536

/-- The fields of `STAR_GSW_RXDESC` that the ring protocol uses. -/
structure RxDesc where
  /-- Physical address of the buffer. -/
  dataPtr : Nat := 0
  /-- The length offered to the hardware, then the length received. -/
  length : Nat := 0
  /-- End of ring. -/
  eor : Bool := false
  /-- Set while the processor owns the descriptor. -/
  cown : Bool := false
  deriving DecidableEq, Repr, Inhabited

/-- `RXRING_INFO` without the base addresses. -/
structure RxRing where
  /-- The descriptors at `vir_addr`. -/
  desc : Vector RxDesc starGswMaxRfdNum
  /-- The next descriptor to look at. -/
  curIndex : Nat
  /-- The buffer of each descriptor. -/
  skbPtr : Vector (Option SkBuff) starGswMaxRfdNum
  deriving DecidableEq

/-- `star_gsw_alloc_skb`; the allocator answers with the address of the memory, or not at
all. -/
def starGswAllocSkb (id : Nat) (answer : Option Nat) : Option SkBuff :=
  answer.map fun head => (devAllocSkb id head (maxPacketLen + 2)).reserve 2

/-- The loop of `star_gsw_buffer_alloc` over the receive descriptors, from index `i`. -/
def rxAllocLoop (answer : Nat → Option Nat) (i : Nat) (ring : RxRing) : Nat → Option RxRing
  | 0 => some ring
  | left + 1 =>
    match starGswAllocSkb i (answer i) with
    | none => none
    | some skb =>
      rxAllocLoop answer (i + 1)
        { ring with
          desc := setSlot ring.desc i
            { dataPtr := virtToPhys skb.data, length := maxPacketLen,
              eor := i == starGswMaxRfdNum - 1 }
          skbPtr := setSlot ring.skbPtr i (some skb) } left

/-- The receive half of `star_gsw_buffer_alloc`; `none` when an allocation fails. -/
def rxRingAlloc (answer : Nat → Option Nat) : Option RxRing :=
  rxAllocLoop answer 0
    { desc := Vector.replicate starGswMaxRfdNum {}, curIndex := 0,
      skbPtr := Vector.replicate starGswMaxRfdNum none } starGswMaxRfdNum

/-! ## The ring among the hardware, the allocator and the stack -/

/-- Where a pass of `star_gsw_receive_packet` is. -/
inductive RxPass where
  /-- No pass has begun. -/
  | idle
  /-- `GSW_READ_FSSD` has been executed. -/
  | counting (fssdIndex : Nat) (workToDo : Int)
  /-- In the loop, with `left = rxcount - i` rounds to go. -/
  | looping (left workDone : Nat) (workToDo : Int)
  /-- The pass has returned. -/
  | returned (workDone : Nat)
  deriving DecidableEq, Repr

/-- The driver, the hardware, the memory and who has which buffer. -/
structure RxWorld where
  /-- `rxring`. -/
  ring : RxRing
  /-- The hardware's position, as `GSW_READ_FSSD` shows it. -/
  fssd : Nat
  /-- The pass in progress. -/
  pass : RxPass
  /-- For each physical address, the number of the last frame whose DMA covered it. -/
  memory : Nat → Option Nat
  /-- The number of frames stored so far; frames are numbered in this order. -/
  stored : Nat
  /-- The calls of `star_gsw_get_rfd_buff`: the buffer and the frame found in it. -/
  handed : List (SkBuff × Option Nat)
  /-- The frames whose descriptors went back to the hardware unread. -/
  dropped : List (Option Nat)
  /-- The buffers the stack owns. -/
  stack : List SkBuff
  /-- The buffers that were freed. -/
  freed : List SkBuff
  /-- The identity of the next allocation. -/
  nextId : Nat

/-- What can happen next. -/
inductive RxEvent where
  /-- The hardware stores a frame of the given length. -/
  | fill (length : Nat)
  /-- A pass begins and reads the hardware's position. -/
  | enter (workToDo : Int)
  /-- The pass compares the positions. -/
  | count
  /-- The pass handles one descriptor; the allocator answers if it is asked. -/
  | iterate (answer : Option Nat)
  /-- The stack frees a buffer. -/
  | release (skb : SkBuff)

namespace RxWorld

/-- The frame that lies in a buffer. -/
def frameIn (w : RxWorld) (skb : SkBuff) : Option Nat := w.memory (virtToPhys skb.data)

/-- What the allocator guarantees: a new buffer lies in directly mapped memory and overlaps
no buffer in use. -/
def fresh (w : RxWorld) (skb : SkBuff) : Bool :=
  decide (pageOffset ≤ skb.head ∧ skb.endp ≤ 2 ^ 32) &&
    (List.range starGswMaxRfdNum).all (fun i => (slot w.ring.skbPtr i).all (skb.Apart ·)) &&
    w.stack.all (skb.Apart ·)

end RxWorld

/-- A DMA transfer may cover a whole buffer from `addr` on. -/
def dmaWrite (memory : Nat → Option Nat) (addr frame : Nat) : Nat → Option Nat := fun a =>
  if addr ≤ a ∧ a < addr + maxPacketLen then some frame else memory a

/-- The hardware stores a frame in the descriptor it is at, if it owns it. -/
def hwFill (w : RxWorld) (length : Nat) : Option RxWorld :=
  let d := slot w.ring.desc w.fssd
  if d.cown then none
  else some { w with
    ring := { w.ring with
      desc := setSlot w.ring.desc w.fssd { d with length := length % 2 ^ 16, cown := true } }
    fssd := wrap starGswMaxRfdNum w.fssd
    memory := dmaWrite w.memory d.dataPtr w.stored
    stored := w.stored + 1 }

/-- The beginning of `star_gsw_receive_packet`, up to `GSW_READ_FSSD`. -/
def rxEnter (w : RxWorld) (workToDo : Int) : Option RxWorld :=
  match w.pass with
  | .idle | .returned _ => some { w with pass := .counting w.fssd workToDo }
  | _ => none

/-- `rxcount`: zero when there is nothing to do. -/
def rxCount (ring : RxRing) (fssdIndex : Nat) : Nat :=
  if fssdIndex > ring.curIndex then fssdIndex - ring.curIndex
  else if fssdIndex < ring.curIndex then (starGswMaxRfdNum - ring.curIndex) + fssdIndex
  else if (slot ring.desc ring.curIndex).cown = false then 0
  else starGswMaxRfdNum

/-- The comparison of the positions; without work the pass returns. -/
def rxCompare (w : RxWorld) : Option RxWorld :=
  match w.pass with
  | .counting fssdIndex workToDo =>
    let rxcount := rxCount w.ring fssdIndex
    some { w with pass := if rxcount = 0 then .returned 0 else .looping rxcount 0 workToDo }
  | _ => none

/-- `star_gsw_get_rfd_buff`, as far as ownership goes: the buffer of the slot leaves the
ring with the frame in it. The frame is delivered or freed from there on. -/
def starGswGetRfdBuff (w : RxWorld) (index : Nat) : RxWorld :=
  match slot w.ring.skbPtr index with
  | none => w
  | some skb => { w with handed := w.handed ++ [(skb, w.frameIn skb)], stack := skb :: w.stack }

/-- The branch of the loop with a new buffer: hand up the old one and recycle the slot. -/
def rxReplace (w : RxWorld) (skb : SkBuff) : RxWorld :=
  let cur := w.ring.curIndex
  let w := starGswGetRfdBuff w cur
  { w with
    ring :=
      { desc := setSlot w.ring.desc cur { slot w.ring.desc cur with
          dataPtr := virtToPhys skb.data, length := maxPacketLen, cown := false }
        skbPtr := setSlot w.ring.skbPtr cur (some skb)
        curIndex := wrap starGswMaxRfdNum cur }
    nextId := w.nextId + 1 }

/-- The branch of the loop without a new buffer: the slot goes back as it is, and
`cur_index` stays. -/
def rxReuse (w : RxWorld) : RxWorld :=
  let cur := w.ring.curIndex
  { w with
    ring := { w.ring with
      desc := setSlot w.ring.desc cur { slot w.ring.desc cur with cown := false } }
    dropped := w.dropped ++ (slot w.ring.skbPtr cur).toList.map w.frameIn }

/-- One round of the loop. -/
def rxIterate (w : RxWorld) (answer : Option Nat) : Option RxWorld :=
  match w.pass with
  | .looping 0 workDone _ => some { w with pass := .returned workDone }
  | .looping (left + 1) workDone workToDo =>
    if workToDo ≤ workDone then some { w with pass := .returned workDone }
    else if (slot w.ring.desc w.ring.curIndex).cown then
      match starGswAllocSkb w.nextId answer with
      | some skb =>
        if w.fresh skb then
          some { rxReplace w skb with pass := .looping left (workDone + 1) workToDo }
        else none
      | none => some { rxReuse w with pass := .returned (workDone + 1) }
    else some { w with pass := .returned (workDone + 1) }
  | _ => none

/-- The stack frees a buffer it owns. -/
def rxRelease (w : RxWorld) (skb : SkBuff) : Option RxWorld :=
  if skb ∈ w.stack then
    some { w with stack := w.stack.erase skb, freed := w.freed ++ [skb] }
  else none

/-- One event. -/
def rxStep (w : RxWorld) : RxEvent → Option RxWorld
  | .fill length => hwFill w length
  | .enter workToDo => rxEnter w workToDo
  | .count => rxCompare w
  | .iterate answer => rxIterate w answer
  | .release skb => rxRelease w skb

/-- The state after `star_gsw_buffer_alloc`. -/
def rxInit (ring : RxRing) : RxWorld where
  ring := ring
  fssd := 0
  pass := .idle
  memory := fun _ => none
  stored := 0
  handed := []
  dropped := []
  stack := []
  freed := []
  nextId := starGswMaxRfdNum

/-- What the allocator guarantees for the first buffers. -/
structure BuffersApart (ring : RxRing) : Prop where
  /-- They lie in directly mapped memory. -/
  mapped : ∀ i, i < starGswMaxRfdNum → ∀ skb, slot ring.skbPtr i = some skb →
    pageOffset ≤ skb.head ∧ skb.endp ≤ 2 ^ 32
  /-- They do not overlap. -/
  apart : ∀ i j, i < starGswMaxRfdNum → j < starGswMaxRfdNum → i ≠ j →
    ∀ a b, slot ring.skbPtr i = some a → slot ring.skbPtr j = some b → a.Apart b

/-- The receive side as a transition system. -/
def rxSystem : System RxWorld RxEvent where
  init w := ∃ answer ring, rxRingAlloc answer = some ring ∧ BuffersApart ring ∧ w = rxInit ring
  step := rxStep

end Fvs318g.Gsw
