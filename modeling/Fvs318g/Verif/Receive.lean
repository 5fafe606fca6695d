import Fvs318g.Gsw.Receive

/-!
# What the receive ring keeps

One inductive relation says what each event does to the ring; the invariants below are
kept by each of its cases. `Slots` is the ownership of buffers: every slot holds a buffer
of its own that was never handed up, and its descriptor points at that buffer. It is kept
whatever the allocator answers. The order of frames is a
second invariant, `Window` of `Verif.ReceiveOrder`, which needs every allocation to succeed.
-/

namespace Fvs318g.Verif.Receive

open Kernel Lib Gsw

/-- The ring has slots. -/
theorem ring_positive : 0 < starGswMaxRfdNum := by decide

/-! ## What an event does -/

/-- The effect of each enabled event. -/
inductive RxMove (w : RxWorld) : RxEvent → RxWorld → Prop where
  /-- The hardware stores a frame in a descriptor it owns. -/
  | fill {length : Nat} (hardware : (slot w.ring.desc w.fssd).cown = false) :
      RxMove w (.fill length) { w with
        ring := { w.ring with
          desc := setSlot w.ring.desc w.fssd
            { slot w.ring.desc w.fssd with length := length % 2 ^ 16, cown := true } }
        fssd := wrap starGswMaxRfdNum w.fssd
        memory := dmaWrite w.memory (slot w.ring.desc w.fssd).dataPtr w.stored
        stored := w.stored + 1 }
  /-- A pass begins. -/
  | enter {workToDo : Int} (between : w.pass = .idle ∨ ∃ n, w.pass = .returned n) :
      RxMove w (.enter workToDo) { w with pass := .counting w.fssd workToDo }
  /-- A pass finds nothing to do. -/
  | nothing {fssdIndex : Nat} {workToDo : Int} (pass : w.pass = .counting fssdIndex workToDo)
      (zero : rxCount w.ring fssdIndex = 0) : RxMove w .count { w with pass := .returned 0 }
  /-- A pass goes into its loop. -/
  | loop {fssdIndex : Nat} {workToDo : Int} (pass : w.pass = .counting fssdIndex workToDo)
      (some : rxCount w.ring fssdIndex ≠ 0) :
      RxMove w .count { w with pass := .looping (rxCount w.ring fssdIndex) 0 workToDo }
  /-- The loop ends by its count or by the budget. -/
  | exhausted {left workDone : Nat} {workToDo : Int} {answer : Option Nat}
      (pass : w.pass = .looping left workDone workToDo)
      (done : left = 0 ∨ workToDo ≤ workDone) :
      RxMove w (.iterate answer) { w with pass := .returned workDone }
  /-- The loop ends at a descriptor of the hardware. -/
  | notReady {left workDone : Nat} {workToDo : Int} {answer : Option Nat}
      (pass : w.pass = .looping (left + 1) workDone workToDo) (budget : ¬ workToDo ≤ workDone)
      (hardware : (slot w.ring.desc w.ring.curIndex).cown = false) :
      RxMove w (.iterate answer) { w with pass := .returned (workDone + 1) }
  /-- A frame is handed up and its slot gets a new buffer. -/
  | replace {left workDone : Nat} {workToDo : Int} {head : Nat} {skb : SkBuff}
      (pass : w.pass = .looping (left + 1) workDone workToDo) (budget : ¬ workToDo ≤ workDone)
      (ready : (slot w.ring.desc w.ring.curIndex).cown = true)
      (alloc : starGswAllocSkb w.nextId (some head) = some skb) (fresh : w.fresh skb = true) :
      RxMove w (.iterate (some head))
        { rxReplace w skb with pass := .looping left (workDone + 1) workToDo }
  /-- No new buffer: the slot goes back and the loop ends. -/
  | reuse {left workDone : Nat} {workToDo : Int}
      (pass : w.pass = .looping (left + 1) workDone workToDo) (budget : ¬ workToDo ≤ workDone)
      (ready : (slot w.ring.desc w.ring.curIndex).cown = true) :
      RxMove w (.iterate none) { rxReuse w with pass := .returned (workDone + 1) }
  /-- The stack frees a buffer. -/
  | release {skb : SkBuff} (owned : skb ∈ w.stack) :
      RxMove w (.release skb)
        { w with stack := w.stack.erase skb, freed := w.freed ++ [skb] }

/-- One round of the loop has one of four effects. -/
theorem rxIterate_move {w w' : RxWorld} {answer : Option Nat}
    (stepped : rxIterate w answer = some w') : RxMove w (.iterate answer) w' := by
  unfold rxIterate at stepped
  split at stepped
  · rename_i workDone workToDo pass
    cases stepped
    exact .exhausted pass (.inl rfl)
  · rename_i left workDone workToDo pass
    split at stepped
    · rename_i budget
      cases stepped
      exact .exhausted pass (.inr budget)
    · rename_i budget
      split at stepped
      · rename_i ready
        cases answer with
        | none =>
          cases stepped
          exact .reuse pass budget ready
        | some head =>
          simp only [starGswAllocSkb, Option.map_some] at stepped
          split at stepped
          · rename_i fresh
            cases stepped
            exact .replace pass budget ready rfl fresh
          · contradiction
      · rename_i hardware
        cases stepped
        exact .notReady pass budget (Bool.eq_false_iff.mpr hardware)
  · contradiction

/-- Every enabled event has the effect that `RxMove` says. -/
theorem rxStep_move {w w' : RxWorld} {e : RxEvent} (stepped : rxStep w e = some w') :
    RxMove w e w' := by
  cases e with
  | fill length =>
    simp only [rxStep, hwFill] at stepped
    split at stepped
    · contradiction
    · rename_i hardware
      cases stepped
      exact .fill (Bool.eq_false_iff.mpr hardware)
  | enter workToDo =>
    simp only [rxStep, rxEnter] at stepped
    split at stepped
    · rename_i idle
      cases stepped
      exact .enter (.inl idle)
    · rename_i n returned
      cases stepped
      exact .enter (.inr ⟨n, returned⟩)
    · contradiction
  | count =>
    simp only [rxStep, rxCompare] at stepped
    split at stepped
    · rename_i fssdIndex workToDo pass
      cases stepped
      by_cases zero : rxCount w.ring fssdIndex = 0
      · simp only [zero, ↓reduceIte]
        exact .nothing pass zero
      · simp only [zero, ↓reduceIte]
        exact .loop pass zero
    · contradiction
  | iterate answer => exact rxIterate_move stepped
  | release skb =>
    simp only [rxStep, rxRelease] at stepped
    split at stepped
    · rename_i owned
      cases stepped
      exact .release owned
    · contradiction

/-! ## Buffers and addresses -/

/-- A buffer as `star_gsw_alloc_skb` makes it, in directly mapped memory. -/
structure Placed (skb : SkBuff) : Prop where
  /-- It lies in directly mapped memory. -/
  mapped : pageOffset ≤ skb.head
  /-- It lies in the address space. -/
  fits : skb.endp ≤ 2 ^ 32
  /-- The data starts after the built-in and the alignment headroom. -/
  data : skb.data = skb.head + 18
  /-- A frame of maximal length fits. -/
  room : skb.endp = skb.data + maxPacketLen

/-- A buffer of `star_gsw_alloc_skb` in mapped memory is placed. -/
theorem placed_alloc {id head : Nat} {skb : SkBuff}
    (alloc : starGswAllocSkb id (some head) = some skb)
    (mapped : pageOffset ≤ skb.head ∧ skb.endp ≤ 2 ^ 32) : Placed skb ∧ skb.id = id := by
  cases alloc
  exact ⟨⟨mapped.1, mapped.2, rfl, by simp [devAllocSkb, SkBuff.reserve]; omega⟩, rfl⟩

/-- In directly mapped memory the physical address is an offset. -/
theorem virtToPhys_mapped {x : Nat} (mapped : pageOffset ≤ x) (fits : x < 2 ^ 32) :
    virtToPhys x = x - pageOffset := by
  unfold virtToPhys physOffset
  unfold pageOffset at *
  omega

/-- A DMA transfer into one buffer does not reach the memory of a disjoint one. -/
theorem dmaWrite_apart {a b : SkBuff} (ha : Placed a) (hb : Placed b) (apart : a.Apart b)
    (memory : Nat → Option Nat) (frame : Nat) {x : Nat} (above : b.head ≤ x) (below : x < b.endp) :
    dmaWrite memory (virtToPhys a.data) frame (virtToPhys x) = memory (virtToPhys x) := by
  have ra := ha.room
  have da := ha.data
  have fa := ha.fits
  have ma := ha.mapped
  have fb := hb.fits
  have mb := hb.mapped
  have size : 0 < maxPacketLen := by decide
  rw [virtToPhys_mapped (x := x) (by omega) (by omega),
    virtToPhys_mapped (x := a.data) (by omega) (by omega)]
  unfold dmaWrite
  apply if_neg
  rcases apart with before | after <;> omega

/-- A DMA transfer is found at the data pointer of its buffer. -/
theorem dmaWrite_self (memory : Nat → Option Nat) (addr frame : Nat) :
    dmaWrite memory addr frame addr = some frame := by
  have size : 0 < maxPacketLen := by decide
  exact if_pos ⟨Nat.le_refl _, by omega⟩

variable {w : RxWorld}

/-- What the allocator promises about a new buffer. -/
theorem fresh_spec {skb : SkBuff} (fresh : w.fresh skb = true) :
    (pageOffset ≤ skb.head ∧ skb.endp ≤ 2 ^ 32) ∧
      (∀ i, i < starGswMaxRfdNum → ∀ b, slot w.ring.skbPtr i = some b → skb.Apart b) ∧
      ∀ b ∈ w.stack, skb.Apart b := by
  simp only [RxWorld.fresh, Bool.and_eq_true, decide_eq_true_eq, List.all_eq_true,
    List.mem_range] at fresh
  obtain ⟨⟨mapped, slots⟩, stack⟩ := fresh
  refine ⟨mapped, fun i inside b held => ?_, stack⟩
  have apart := slots i inside
  rw [held] at apart
  simpa using apart

/-! ## Slots -/

/-- A buffer in the ring: it was allocated and never handed up. -/
structure Offered (w : RxWorld) (skb : SkBuff) : Prop where
  /-- It is a buffer of `star_gsw_alloc_skb`. -/
  placed : Placed skb
  /-- Its identity was given out. -/
  known : skb.id < w.nextId
  /-- It was never handed up. -/
  kept : ∀ h ∈ w.handed, h.1.id ≠ skb.id

/-- Every slot holds a buffer of its own, and the descriptor points at it. -/
structure Slots (w : RxWorld) : Prop where
  /-- `cur_index` is an index of the ring. -/
  cur : w.ring.curIndex < starGswMaxRfdNum
  /-- The hardware's position is an index of the ring. -/
  pos : w.fssd < starGswMaxRfdNum
  /-- The buffer of each slot. -/
  held : ∀ i, i < starGswMaxRfdNum → ∃ skb, slot w.ring.skbPtr i = some skb ∧ Offered w skb ∧
    (slot w.ring.desc i).dataPtr = virtToPhys skb.data
  /-- Different slots hold different, disjoint buffers. -/
  distinct : ∀ i j, i < starGswMaxRfdNum → j < starGswMaxRfdNum → i ≠ j →
    ∀ a b, slot w.ring.skbPtr i = some a → slot w.ring.skbPtr j = some b → a.Apart b ∧ a.id ≠ b.id
  /-- A buffer of the stack was handed up and is disjoint from those in the ring. -/
  stack : ∀ b ∈ w.stack, Placed b ∧ (∃ frame, (b, frame) ∈ w.handed) ∧
    ∀ i, i < starGswMaxRfdNum → ∀ a, slot w.ring.skbPtr i = some a → a.Apart b
  /-- Identities of handed buffers were given out. -/
  handed : ∀ h ∈ w.handed, h.1.id < w.nextId
  /-- Freed buffers were handed up before. -/
  freed : ∀ b ∈ w.freed, ∃ frame, (b, frame) ∈ w.handed

/-- A step that leaves the buffers of the ring, the descriptors' pointers, the identities and the
handed buffers alone leaves every slot its buffer. -/
theorem Slots.held_congr (slots : Slots w) (w' : RxWorld)
    (same : w'.ring.skbPtr = w.ring.skbPtr ∧ w'.nextId = w.nextId ∧ w'.handed = w.handed)
    (pointers : ∀ i, (slot w'.ring.desc i).dataPtr = (slot w.ring.desc i).dataPtr) {i : Nat}
    (inside : i < starGswMaxRfdNum) : ∃ skb, slot w'.ring.skbPtr i = some skb ∧ Offered w' skb ∧
      (slot w'.ring.desc i).dataPtr = virtToPhys skb.data := by
  have ⟨buffers, ids, handed⟩ := same
  have ⟨skb, here, offered, pointer⟩ := slots.held i inside
  refine ⟨skb, buffers ▸ here, ⟨offered.placed, ids ▸ offered.known, handed ▸ offered.kept⟩, ?_⟩
  rw [pointers, pointer]

/-- A step that only moves the pass keeps the slots. -/
theorem Slots.ofPass (slots : Slots w) (pass : RxPass) : Slots { w with pass := pass } where
  cur := slots.cur
  pos := slots.pos
  held _ inside := slots.held_congr { w with pass := pass } ⟨rfl, rfl, rfl⟩ (fun _ => rfl) inside
  distinct := slots.distinct
  stack := slots.stack
  handed := slots.handed
  freed := slots.freed

/-- The index after an index of the ring. -/
theorem wrap_lt {i : Nat} (inside : i < starGswMaxRfdNum) :
    wrap starGswMaxRfdNum i < starGswMaxRfdNum := by
  unfold wrap
  split <;> omega

/-- The hardware moves on and leaves every buffer and pointer where it is. -/
theorem slots_fill {w w' : RxWorld} {length : Nat} (slots : Slots w)
    (move : RxMove w (.fill length) w') : Slots w' := by
  have pointers : ∀ i, (slot w'.ring.desc i).dataPtr = (slot w.ring.desc i).dataPtr := by
    cases move
    exact slot_setSlot_congr _ _ RxDesc.dataPtr rfl
  have same : w'.ring.skbPtr = w.ring.skbPtr ∧ w'.nextId = w.nextId ∧ w'.handed = w.handed := by
    cases move
    exact ⟨rfl, rfl, rfl⟩
  have held := fun i (inside : i < starGswMaxRfdNum) => slots.held_congr w' same pointers inside
  cases move
  exact ⟨slots.cur, wrap_lt slots.pos, held, slots.distinct, slots.stack, slots.handed, slots.freed⟩

/-- A slot that goes back unread keeps its buffer and its pointer. -/
theorem slots_reuse (slots : Slots w) : Slots (rxReuse w) := by
  refine ⟨slots.cur, slots.pos, ?_, slots.distinct, slots.stack, slots.handed, slots.freed⟩
  intro i inside
  apply slots.held_congr (rxReuse w) ⟨rfl, rfl, rfl⟩ _ inside
  exact slot_setSlot_congr _ _ RxDesc.dataPtr rfl

/-- Freeing a buffer of the stack does not touch the ring. -/
theorem slots_release {skb : SkBuff} (slots : Slots w) (owned : skb ∈ w.stack) :
    Slots { w with stack := w.stack.erase skb, freed := w.freed ++ [skb] } := by
  refine ⟨slots.cur, slots.pos, ?_, slots.distinct, ?_, slots.handed, ?_⟩
  · intro i inside
    exact slots.held_congr { w with stack := w.stack.erase skb, freed := w.freed ++ [skb] }
      ⟨rfl, rfl, rfl⟩ (fun _ => rfl) inside
  · intro b member
    exact slots.stack b (List.mem_of_mem_erase member)
  · intro b member
    rcases List.mem_append.mp member with old | new
    · exact slots.freed b old
    · obtain rfl := List.mem_singleton.mp new
      exact (slots.stack b owned).2.1

/-- What handing up the current slot does, with the slot's buffer named. -/
theorem rxReplace_eq {old skb : SkBuff} (here : slot w.ring.skbPtr w.ring.curIndex = some old) :
    rxReplace w skb = { w with
      ring :=
        { desc := setSlot w.ring.desc w.ring.curIndex { slot w.ring.desc w.ring.curIndex with
            dataPtr := virtToPhys skb.data, length := maxPacketLen, cown := false }
          skbPtr := setSlot w.ring.skbPtr w.ring.curIndex (some skb)
          curIndex := wrap starGswMaxRfdNum w.ring.curIndex }
      handed := w.handed ++ [(old, w.frameIn old)]
      stack := old :: w.stack
      nextId := w.nextId + 1 } := by
  simp only [rxReplace, starGswGetRfdBuff, here]

/-- The buffer of a slot is on offer. -/
theorem Slots.offered (slots : Slots w) {i : Nat} (inside : i < starGswMaxRfdNum) {a : SkBuff}
    (here : slot w.ring.skbPtr i = some a) : Offered w a := by
  obtain ⟨skb, there, offered, _⟩ := slots.held i inside
  have same : skb = a := Option.some.inj (there.symm.trans here)
  exact same ▸ offered

section Replace

variable {w : RxWorld} {skb old : SkBuff} (slots : Slots w)
  (here : slot w.ring.skbPtr w.ring.curIndex = some old) (newer : skb.id = w.nextId)
  (apart : ∀ i, i < starGswMaxRfdNum → ∀ a, slot w.ring.skbPtr i = some a → skb.Apart a)

include slots

/-- After a replacement a slot holds the new buffer, or it is another slot. -/
theorem held_replaced {i : Nat} {a : SkBuff}
    (held : slot (setSlot w.ring.skbPtr w.ring.curIndex (some skb)) i = some a) :
    (i = w.ring.curIndex ∧ a = skb) ∨ (i ≠ w.ring.curIndex ∧ slot w.ring.skbPtr i = some a) := by
  rw [slot_setSlot _ slots.cur] at held
  by_cases same : i = w.ring.curIndex
  · rw [if_pos same] at held
    exact Or.inl ⟨same, (Option.some.inj held).symm⟩
  · rw [if_neg same] at held
    exact Or.inr ⟨same, held⟩

include apart newer

/-- The new buffer is disjoint from those of the other slots. -/
theorem distinct_replaced {i j : Nat} (hi : i < starGswMaxRfdNum) (hj : j < starGswMaxRfdNum)
    (different : i ≠ j) {a b : SkBuff}
    (ha : slot (setSlot w.ring.skbPtr w.ring.curIndex (some skb)) i = some a)
    (hb : slot (setSlot w.ring.skbPtr w.ring.curIndex (some skb)) j = some b) :
    a.Apart b ∧ a.id ≠ b.id := by
  have older : ∀ k, k < starGswMaxRfdNum → ∀ c, slot w.ring.skbPtr k = some c → c.id < skb.id := by
    intro k inside c held
    rw [newer]
    exact (slots.offered inside held).known
  rcases held_replaced slots ha with ⟨first, new⟩ | ⟨_, heldA⟩
  · rcases held_replaced slots hb with ⟨second, _⟩ | ⟨_, heldB⟩
    · exact absurd (first.trans second.symm) different
    · rw [new]
      exact ⟨apart j hj b heldB, Nat.ne_of_gt (older j hj b heldB)⟩
  · rcases held_replaced slots hb with ⟨_, new⟩ | ⟨_, heldB⟩
    · rw [new]
      exact ⟨(apart i hi a heldA).symm, Nat.ne_of_lt (older i hi a heldA)⟩
    · exact slots.distinct i j hi hj different a b heldA heldB

include here

omit newer in
/-- The buffers of the stack, with the old one, are disjoint from those in the slots. -/
theorem stack_replaced (apartStack : ∀ b ∈ w.stack, skb.Apart b) {b : SkBuff}
    (member : b ∈ old :: w.stack) {i : Nat} (inside : i < starGswMaxRfdNum) {a : SkBuff}
    (held : slot (setSlot w.ring.skbPtr w.ring.curIndex (some skb)) i = some a) : a.Apart b := by
  rcases held_replaced slots held with ⟨_, new⟩ | ⟨other, heldA⟩
  · rw [new]
    rcases List.mem_cons.mp member with same | before
    · rw [same]
      exact apart _ slots.cur _ here
    · exact apartStack b before
  · rcases List.mem_cons.mp member with same | before
    · rw [same]
      exact (slots.distinct i _ inside slots.cur other _ _ heldA here).1
    · exact (slots.stack b before).2.2 i inside a heldA

omit apart in
/-- Identities of handed buffers stay below the next one, also that of the old buffer. -/
theorem handed_replaced {frame : Option Nat} {h : SkBuff × Option Nat}
    (member : h ∈ w.handed ++ [(old, frame)]) : h.1.id < skb.id := by
  rw [newer]
  rcases List.mem_append.mp member with before | now
  · exact slots.handed h before
  · rw [List.mem_singleton.mp now]
    exact (slots.offered slots.cur here).known

end Replace

/-- Handing up the buffer of a slot and recycling the slot keeps the slots. -/
theorem slots_replace {head : Nat} {skb : SkBuff} (slots : Slots w)
    (alloc : starGswAllocSkb w.nextId (some head) = some skb) (fresh : w.fresh skb = true) :
    Slots (rxReplace w skb) := by
  obtain ⟨old, here, offered, _⟩ := slots.held _ slots.cur
  obtain ⟨mapped, apart, apartStack⟩ := fresh_spec fresh
  obtain ⟨placed, newer⟩ := placed_alloc alloc mapped
  have cur := slots.cur
  have handed : ∀ h ∈ w.handed ++ [(old, w.frameIn old)], h.1.id < skb.id :=
    fun h member => handed_replaced slots here newer member
  rw [rxReplace_eq here]
  refine ⟨wrap_lt cur, slots.pos, ?_, ?_, ?_, ?_, ?_⟩
  · intro i inside
    by_cases same : i = w.ring.curIndex
    · -- the slot that was just recycled
      refine ⟨skb, by simp [same, cur], ⟨placed, ?_, ?_⟩, by simp [same, cur]⟩
      · exact newer ▸ Nat.lt_succ_self _
      · exact fun h member => Nat.ne_of_lt (handed h member)
    · obtain ⟨kept, there, live, pointer⟩ := slots.held i inside
      refine ⟨kept, ?_, ⟨live.placed, Nat.lt_succ_of_lt live.known, ?_⟩, ?_⟩
      · rw [slot_setSlot_ne _ same]
        exact there
      · intro h member
        rcases List.mem_append.mp member with before | now
        · exact live.kept h before
        · rw [List.mem_singleton.mp now]
          exact (slots.distinct _ i cur inside (Ne.symm same) _ _ here there).2
      · rw [slot_setSlot_ne _ same]
        exact pointer
  · intro i j hi hj different a b ha hb
    exact distinct_replaced slots newer apart hi hj different ha hb
  · intro b member
    refine ⟨?_, ?_, fun i inside a held => stack_replaced slots here apart apartStack member
      inside held⟩
    · rcases List.mem_cons.mp member with same | before
      · exact same ▸ offered.placed
      · exact (slots.stack b before).1
    · rcases List.mem_cons.mp member with same | before
      · rw [same]
        exact ⟨_, List.mem_append_right _ (List.mem_singleton_self _)⟩
      · obtain ⟨frame, earlier⟩ := (slots.stack b before).2.1
        exact ⟨frame, List.mem_append_left _ earlier⟩
  · intro h member
    exact Nat.lt_succ_of_lt (newer ▸ handed h member)
  · intro b member
    obtain ⟨frame, earlier⟩ := slots.freed b member
    exact ⟨frame, List.mem_append_left _ earlier⟩

/-- Every event keeps the slots, whatever the allocator answers. -/
theorem slots_step {w w' : RxWorld} {e : RxEvent} (slots : Slots w)
    (stepped : rxStep w e = some w') : Slots w' := by
  have move := rxStep_move stepped
  cases e with
  | fill length => exact slots_fill slots move
  | enter workToDo =>
    cases move
    exact slots.ofPass _
  | count => cases move <;> exact slots.ofPass _
  | iterate answer =>
    cases move with
    | exhausted => exact slots.ofPass _
    | notReady => exact slots.ofPass _
    | replace _ _ _ alloc fresh => exact (slots_replace slots alloc fresh).ofPass _
    | reuse => exact (slots_reuse slots).ofPass _
  | release skb =>
    cases move with
    | release owned => exact slots_release slots owned

/-- The allocation loop gives each slot from `i` on the buffer of its own allocation. -/
theorem rxAllocLoop_spec {answer : Nat → Option Nat} {left i : Nat} {ring ring' : RxRing}
    (fits : i + left ≤ starGswMaxRfdNum) (alloc : rxAllocLoop answer i ring left = some ring') :
    ring'.curIndex = ring.curIndex ∧
      (∀ j, j < i → slot ring'.desc j = slot ring.desc j ∧
        slot ring'.skbPtr j = slot ring.skbPtr j) ∧
      ∀ j, i ≤ j → j < i + left → ∃ head skb, answer j = some head ∧
        starGswAllocSkb j (some head) = some skb ∧ slot ring'.skbPtr j = some skb ∧
        slot ring'.desc j =
          { dataPtr := virtToPhys skb.data, length := maxPacketLen,
            eor := j == starGswMaxRfdNum - 1 } := by
  induction left generalizing i ring with
  | zero =>
    cases alloc
    exact ⟨rfl, fun _ _ => ⟨rfl, rfl⟩, fun j _ _ => by omega⟩
  | succ left ih =>
    cases given : answer i with
    | none => simp [rxAllocLoop, starGswAllocSkb, given] at alloc
    | some head =>
      simp only [rxAllocLoop, starGswAllocSkb, given, Option.map_some] at alloc
      obtain ⟨cur, before, after⟩ := ih (by omega) alloc
      have inside : i < starGswMaxRfdNum := by omega
      refine ⟨cur, ?_, ?_⟩
      · intro j below
        obtain ⟨desc, ptr⟩ := before j (by omega)
        rw [desc, ptr, slot_setSlot_ne _ (by omega), slot_setSlot_ne _ (by omega)]
        exact ⟨rfl, rfl⟩
      · intro j above below
        by_cases here : j = i
        · obtain ⟨desc, ptr⟩ := before i (by omega)
          rw [here, desc, ptr, slot_setSlot_self _ inside, slot_setSlot_self _ inside]
          exact ⟨head, _, given, rfl, rfl, rfl⟩
        · exact after j (by omega) (by omega)

/-- The ring of `star_gsw_buffer_alloc`: `cur_index` is 0 and every slot has the buffer of
its own allocation, offered to the hardware with the full length. -/
theorem rxRingAlloc_spec {answer : Nat → Option Nat} {ring : RxRing}
    (alloc : rxRingAlloc answer = some ring) :
    ring.curIndex = 0 ∧ ∀ i, i < starGswMaxRfdNum → ∃ head skb, answer i = some head ∧
      starGswAllocSkb i (some head) = some skb ∧ slot ring.skbPtr i = some skb ∧
        slot ring.desc i =
          { dataPtr := virtToPhys skb.data, length := maxPacketLen,
            eor := i == starGswMaxRfdNum - 1 } := by
  unfold rxRingAlloc at alloc
  obtain ⟨cur, _, all⟩ := rxAllocLoop_spec (by omega) alloc
  exact ⟨cur, fun i inside => all i (Nat.zero_le i) (by omega)⟩

/-- The slots after `star_gsw_buffer_alloc`. -/
theorem slots_init {answer : Nat → Option Nat} {ring : RxRing}
    (alloc : rxRingAlloc answer = some ring) (apart : BuffersApart ring) : Slots (rxInit ring) := by
  obtain ⟨cur, all⟩ := rxRingAlloc_spec alloc
  have own : ∀ i, i < starGswMaxRfdNum → ∀ skb, slot ring.skbPtr i = some skb →
      Placed skb ∧ skb.id = i := by
    intro i inside skb held
    obtain ⟨head, given, _, made, there, _⟩ := all i inside
    obtain rfl : given = skb := Option.some.inj (there.symm.trans held)
    exact placed_alloc made (apart.mapped i inside _ held)
  refine ⟨?_, ring_positive, ?_, ?_, ?_, ?_, ?_⟩
  · show ring.curIndex < starGswMaxRfdNum
    rw [cur]
    exact ring_positive
  · intro i inside
    obtain ⟨_, skb, _, _, there, desc⟩ := all i inside
    obtain ⟨placed, id⟩ := own i inside skb there
    refine ⟨skb, there, ⟨placed, id ▸ inside, fun h member => by simp [rxInit] at member⟩, ?_⟩
    show (slot ring.desc i).dataPtr = _
    rw [desc]
  · intro i j hi hj different a b ha hb
    have ida := (own i hi a ha).2
    have idb := (own j hj b hb).2
    exact ⟨apart.apart i j hi hj different a b ha hb, by omega⟩
  · intro b member
    simp [rxInit] at member
  · intro h member
    simp [rxInit] at member
  · intro b member
    simp [rxInit] at member

/-- The slots in every reachable state. -/
theorem slots_run (reached : rxSystem.Reachable w) : Slots w := by
  refine System.Reachable.invariant ?_ ?_ reached
  · rintro w ⟨answer, ring, alloc, apart, rfl⟩
    exact slots_init alloc apart
  · exact fun w e w' slots stepped => slots_step slots stepped

/-- In every reachable state `cur_index` is an index of the ring, and every slot holds a
buffer that was neither handed up nor freed, that no other slot holds and that the
descriptor points at; a frame stored by the hardware leaves every byte of the buffers of
the stack as it was. -/
theorem receive_slots {w : RxWorld} (reached : rxSystem.Reachable w) :
    w.ring.curIndex < starGswMaxRfdNum ∧
    (∀ i, i < starGswMaxRfdNum → ∃ skb, slot w.ring.skbPtr i = some skb ∧
      (∀ h ∈ w.handed, h.1.id ≠ skb.id) ∧ (∀ b ∈ w.freed, b.id ≠ skb.id) ∧
      (slot w.ring.desc i).dataPtr = virtToPhys skb.data ∧
      ∀ j, j < starGswMaxRfdNum → j ≠ i → ∀ b, slot w.ring.skbPtr j = some b → b.id ≠ skb.id) ∧
    ∀ length w', rxSystem.step w (.fill length) = some w' → ∀ skb ∈ w.stack, ∀ x,
      skb.head ≤ x → x < skb.endp → w'.memory (virtToPhys x) = w.memory (virtToPhys x) := by
  have slots := slots_run reached
  refine ⟨slots.cur, ?_, ?_⟩
  · intro i inside
    obtain ⟨skb, here, offered, pointer⟩ := slots.held i inside
    refine ⟨skb, here, offered.kept, ?_, pointer, ?_⟩
    · intro b member
      obtain ⟨frame, handed⟩ := slots.freed b member
      exact offered.kept _ handed
    · intro j hj different b held
      exact (slots.distinct j i hj inside different b skb held here).2
  · intro length w' stepped skb member x above below
    obtain ⟨target, here, offered, pointer⟩ := slots.held _ slots.pos
    obtain ⟨placed, _, apart⟩ := slots.stack skb member
    cases rxStep_move (e := .fill length) stepped
    show dmaWrite w.memory _ w.stored (virtToPhys x) = _
    rw [pointer]
    exact dmaWrite_apart offered.placed placed (apart _ slots.pos _ here) _ _ above below

/-! ## A ring with evenly spaced buffers -/

/-- An allocator that gives each allocation its own 2048 bytes. -/
def evenly (id : Nat) : Option Nat := some (pageOffset + 2048 * id)

/-- The ring that `star_gsw_buffer_alloc` makes with evenly spaced buffers. -/
def evenRing : RxRing :=
  (rxRingAlloc evenly).getD
    { desc := Vector.replicate starGswMaxRfdNum {}, curIndex := 0,
      skbPtr := Vector.replicate starGswMaxRfdNum none }

/-- The evenly spaced ring is a start state. -/
theorem evenRing_init : rxSystem.init (rxInit evenRing) := by
  have enough : (rxRingAlloc evenly).isSome = true := by decide +kernel
  obtain ⟨ring, alloc⟩ := Option.isSome_iff_exists.mp enough
  have same : evenRing = ring := by rw [evenRing, alloc, Option.getD_some]
  refine ⟨evenly, ring, alloc, ?_, by rw [same]⟩
  have own : ∀ i, i < starGswMaxRfdNum → ∀ skb, slot ring.skbPtr i = some skb →
      skb.head = pageOffset + 2048 * i ∧ skb.endp = pageOffset + 2048 * i + 1554 := by
    intro i inside skb held
    obtain ⟨head, given, answered, made, there, _⟩ := (rxRingAlloc_spec alloc).2 i inside
    obtain rfl : given = skb := Option.some.inj (there.symm.trans held)
    cases answered
    cases made
    exact ⟨rfl, rfl⟩
  have lowmem : pageOffset + 2048 * starGswMaxRfdNum ≤ 2 ^ 32 := by decide
  constructor
  · intro i inside skb held
    obtain ⟨head, endp⟩ := own i inside skb held
    omega
  · intro i j hi hj different a b ha hb
    obtain ⟨headA, endA⟩ := own i hi a ha
    obtain ⟨headB, endB⟩ := own j hj b hb
    unfold SkBuff.Apart
    omega

/-- The law after one frame was stored and handed up. -/
theorem receive_slots_one_frame : ∃ w, rxSystem.run (rxInit evenRing)
      [.fill 100, .enter 64, .count, .iterate (evenly starGswMaxRfdNum)] = some w ∧
    w.ring.curIndex < starGswMaxRfdNum ∧ ∃ skb, slot w.ring.skbPtr 0 = some skb ∧
      ∀ h ∈ w.handed, h.1.id ≠ skb.id := by
  have enabled : (rxSystem.run (rxInit evenRing)
      [.fill 100, .enter 64, .count, .iterate (evenly starGswMaxRfdNum)]).isSome = true := by
    decide +kernel
  obtain ⟨w, ran⟩ := Option.isSome_iff_exists.mp enabled
  obtain ⟨cur, held, _⟩ := receive_slots (System.reachable_of_run (.init evenRing_init) ran)
  obtain ⟨skb, here, kept, _⟩ := held 0 ring_positive
  exact ⟨w, ran, cur, skb, here, kept⟩

end Fvs318g.Verif.Receive
