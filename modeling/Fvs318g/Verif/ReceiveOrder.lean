import Fvs318g.Verif.Receive

/-!
# The order of received frames

While every allocation succeeds, the driver follows the hardware around the ring: the
frames handed up are the first ones stored, in order, and the ring holds the rest. The
branch of `star_gsw_receive_packet` for a failed allocation gives its descriptor back with
the length of the frame that was in it and stays at that slot, so the hardware can pass it
and frames overtake each other.
-/

namespace Fvs318g.Verif.ReceiveOrder

open Kernel Lib Gsw Receive

/-- The round asks for a buffer and gets none. -/
def AllocFails (w : RxWorld) (e : RxEvent) : Prop :=
  e = .iterate none ∧ (slot w.ring.desc w.ring.curIndex).cown = true ∧
    ∃ left workDone workToDo, w.pass = .looping (left + 1) workDone workToDo ∧ ¬ workToDo ≤ workDone

/-- What receiving owes to its users. -/
structure InOrder (w : RxWorld) : Prop where
  /-- Frames are handed up in the order in which they were stored. -/
  subsequence : (w.handed.map Prod.snd).Sublist ((List.range w.stored).map some)
  /-- No frame is handed up twice. -/
  once : (w.handed.map Prod.snd).Nodup
  /-- A frame that was not handed up was dropped or is in the ring. -/
  missing : ∀ q, q < w.stored → some q ∉ w.handed.map Prod.snd → some q ∈ w.dropped ∨
    ∃ i, i < starGswMaxRfdNum ∧ (slot w.ring.desc i).cown = true ∧
      w.memory (slot w.ring.desc i).dataPtr = some q
  /-- Every descriptor of the hardware offers the full length. -/
  offered : ∀ i, i < starGswMaxRfdNum → (slot w.ring.desc i).cown = false →
    (slot w.ring.desc i).length = maxPacketLen

/-- The ring is a window on the sequence of stored frames, from the first one that was not
handed up. -/
structure Window (w : RxWorld) : Prop where
  /-- `cur_index` is the slot of the next frame to hand up. -/
  cur : w.ring.curIndex = w.handed.length % starGswMaxRfdNum
  /-- The hardware is at the slot of the next frame to store. -/
  pos : w.fssd = w.stored % starGswMaxRfdNum
  /-- The processor owns the slots of the frames in between. -/
  owned : Owned starGswMaxRfdNum w.handed.length w.stored fun i => (slot w.ring.desc i).cown
  /-- Each of those frames lies where its descriptor points. -/
  shown : ∀ p, w.handed.length ≤ p → p < w.stored →
    w.memory (slot w.ring.desc (p % starGswMaxRfdNum)).dataPtr = some p
  /-- The frames handed up are the first ones, in order. -/
  order : w.handed.map Prod.snd = (List.range w.handed.length).map some
  /-- Every descriptor of the hardware offers the full length. -/
  offered : ∀ i, i < starGswMaxRfdNum → (slot w.ring.desc i).cown = false →
    (slot w.ring.desc i).length = maxPacketLen

/-- Storing a frame extends the window at its end. -/
theorem window_fill {w w' : RxWorld} {length : Nat} (slots : Slots w) (window : Window w)
    (move : RxMove w (.fill length) w') : Window w' := by
  cases move with
  | fill hardware =>
    have inside := slots.pos
    have room : w.stored < w.handed.length + starGswMaxRfdNum := by
      have flag := window.owned.returner ring_positive
      have turn := window.owned.turn
      rw [← window.pos] at flag
      simp only [hardware, Bool.false_eq, decide_eq_false_iff_not] at flag
      omega
    refine ⟨window.cur, ?_, ?_, ?_, window.order, ?_⟩
    · show wrap starGswMaxRfdNum w.fssd = (w.stored + 1) % starGswMaxRfdNum
      rw [window.pos, wrap_mod ring_positive]
    · apply window.owned.give room
      · rw [← window.pos, slot_setSlot_self _ inside]
      · intro i _ other
        rw [slot_setSlot_ne _ (by rw [window.pos]; exact other)]
    · intro p above below
      change w.handed.length ≤ p at above
      change p < w.stored + 1 at below
      by_cases last : p = w.stored
      · rw [last, ← window.pos, slot_setSlot_self _ inside]
        exact dmaWrite_self ..
      · have other : p % starGswMaxRfdNum ≠ w.fssd := by
          rw [window.pos]
          intro same
          exact last (window_inj w.handed.length above (by omega) window.owned.le room same)
        -- the frames before it lie in other, disjoint buffers
        obtain ⟨target, atPos, offered, pointer⟩ := slots.held _ inside
        obtain ⟨skb, there, kept, pointer'⟩ := slots.held _ (Nat.mod_lt p ring_positive)
        have apart := (slots.distinct _ _ inside (Nat.mod_lt p ring_positive) (Ne.symm other)
          _ _ atPos there).1
        have room' := kept.placed.room
        have data := kept.placed.data
        have size : 0 < maxPacketLen := by decide
        rw [slot_setSlot_ne _ other, pointer']
        show dmaWrite w.memory (slot w.ring.desc w.fssd).dataPtr w.stored _ = some p
        rw [pointer, dmaWrite_apart offered.placed kept.placed apart _ _ (by omega) (by omega),
          ← pointer']
        exact window.shown p above (by omega)
    · intro i index hardware'
      by_cases here : i = w.fssd
      · simp [here, inside] at hardware'
      · rw [slot_setSlot_ne _ here] at hardware' ⊢
        exact window.offered i index hardware'

/-- Handing up a frame moves the start of the window. -/
theorem window_replace {w : RxWorld} {skb : SkBuff} (slots : Slots w) (window : Window w)
    (ready : (slot w.ring.desc w.ring.curIndex).cown = true) : Window (rxReplace w skb) := by
  obtain ⟨old, here, _, pointer⟩ := slots.held _ slots.cur
  have inside := slots.cur
  have first : w.handed.length < w.stored := by
    have flag := window.owned.taker ring_positive
    rw [← window.cur] at flag
    simpa [ready] using flag
  have frame : w.frameIn old = some w.handed.length := by
    rw [RxWorld.frameIn, ← pointer, window.cur]
    exact window.shown _ (Nat.le_refl _) first
  have count : (w.handed ++ [(old, w.frameIn old)]).length = w.handed.length + 1 := by simp
  rw [rxReplace_eq here]
  refine ⟨?_, window.pos, ?_, ?_, ?_, ?_⟩
  · rw [count]
    show wrap starGswMaxRfdNum w.ring.curIndex = _
    rw [window.cur, wrap_mod ring_positive]
  · rw [count]
    apply window.owned.take first
    · rw [← window.cur, slot_setSlot_self _ inside]
    · intro i _ other
      rw [slot_setSlot_ne _ (by rw [window.cur]; exact other)]
  · intro p above below
    rw [count] at above
    have other : p % starGswMaxRfdNum ≠ w.ring.curIndex := by
      rw [window.cur]
      intro same
      have turn := window.owned.turn
      change p < w.stored at below
      have := window_inj w.handed.length (by omega) (by omega) (Nat.le_refl _) (by omega) same
      omega
    rw [slot_setSlot_ne _ other]
    exact window.shown p (by omega) below
  · rw [count, List.map_append, window.order, List.range_succ, List.map_append]
    simp [frame]
  · intro i index hardware
    by_cases same : i = w.ring.curIndex
    · simp [same, inside]
    · rw [slot_setSlot_ne _ same] at hardware ⊢
      exact window.offered i index hardware

/-- Every event but a failed allocation keeps the window. -/
theorem window_step {w w' : RxWorld} {e : RxEvent} (slots : Slots w) (window : Window w)
    (succeeds : ¬ AllocFails w e) (stepped : rxStep w e = some w') : Window w' := by
  have move := rxStep_move stepped
  cases e with
  | fill length => exact window_fill slots window move
  | enter workToDo =>
    cases move
    exact { window with }
  | count => cases move <;> exact { window with }
  | iterate answer =>
    cases move with
    | exhausted => exact { window with }
    | notReady => exact { window with }
    | replace _ _ ready => exact { window_replace slots window ready with }
    | reuse pass budget ready => exact absurd ⟨rfl, ready, _, _, _, pass, budget⟩ succeeds
  | release skb =>
    cases move
    exact { window with }

/-- The window is empty after `star_gsw_buffer_alloc`. -/
theorem window_init {answer : Nat → Option Nat} {ring : RxRing}
    (alloc : rxRingAlloc answer = some ring) : Window (rxInit ring) := by
  obtain ⟨cur, all⟩ := rxRingAlloc_spec alloc
  refine ⟨cur, rfl, ?_, ?_, rfl, ?_⟩
  · apply Owned.empty
    intro i inside
    obtain ⟨_, _, _, _, _, desc⟩ := all i inside
    show (slot ring.desc i).cown = false
    rw [desc]
  · intro p _ below
    simp [rxInit] at below
  · intro i inside _
    obtain ⟨_, _, _, _, _, desc⟩ := all i inside
    show (slot ring.desc i).length = maxPacketLen
    rw [desc]

/-- The window in every state of a run without failed allocations. -/
theorem window_run {w : RxWorld}
    (reached : rxSystem.ReachableBy (fun w e => ¬ AllocFails w e) w) : Window w := by
  have both : Slots w ∧ Window w := by
    refine System.ReachableBy.invariant ?_ ?_ reached
    · rintro w ⟨answer, ring, alloc, apart, rfl⟩
      exact ⟨slots_init alloc apart, window_init alloc⟩
    · rintro w e w' ⟨slots, window⟩ succeeds stepped
      exact ⟨slots_step slots stepped, window_step slots window succeeds stepped⟩
  exact both.2

/-- A window hands up in order and misses only what is still in the ring. -/
theorem Window.inOrder {w : RxWorld} (window : Window w) : InOrder w := by
  refine ⟨?_, ?_, ?_, window.offered⟩
  · rw [window.order]
    exact (List.range_sublist.mpr window.owned.le).map some
  · rw [window.order]
    have apart : ∀ i j : Nat, i ≠ j → some i ≠ some j :=
      fun _ _ different same => different (Option.some.inj same)
    exact List.Pairwise.map some apart List.nodup_range
  · intro q below absent
    rw [window.order] at absent
    have above : w.handed.length ≤ q := by
      by_contra early
      exact absent (List.mem_map.mpr ⟨q, List.mem_range.mpr (by omega), rfl⟩)
    right
    refine ⟨q % starGswMaxRfdNum, Nat.mod_lt _ ring_positive, ?_, window.shown q above below⟩
    have turn := window.owned.turn
    rw [window.owned.flags q above (by omega)]
    exact decide_eq_true below

/-- A slot that goes back unread leaves the others alone. -/
theorem rxReuse_desc_ne {w : RxWorld} {i : Nat} (other : i ≠ w.ring.curIndex) :
    slot (rxReuse w).ring.desc i = slot w.ring.desc i := slot_setSlot_ne _ other _

/-- A failed allocation keeps the law exactly when the frame in the slot had the full
length, because its length is what the descriptor goes back with. -/
theorem inOrder_reuse {w : RxWorld} {n : Nat} (slots : Slots w) (window : Window w) :
    InOrder { rxReuse w with pass := .returned n } ↔
      (slot w.ring.desc w.ring.curIndex).length = maxPacketLen := by
  have inside := slots.cur
  obtain ⟨old, here, _, pointer⟩ := slots.held _ inside
  have law := window.inOrder
  constructor
  · intro kept
    have offered := kept.offered w.ring.curIndex inside (by simp [rxReuse, inside])
    simpa [rxReuse, inside] using offered
  · intro full
    refine ⟨law.subsequence, law.once, ?_, ?_⟩
    · intro q below absent
      rcases law.missing q below absent with dropped | ⟨i, index, owned, frame⟩
      · exact .inl (List.mem_append_left _ dropped)
      · by_cases same : i = w.ring.curIndex
        · left
          refine List.mem_append_right _ ?_
          rw [here, Option.toList_some, List.map_singleton, List.mem_singleton, RxWorld.frameIn,
            ← pointer, ← same]
          exact frame.symm
        · right
          refine ⟨i, index, ?_, ?_⟩
          · rw [rxReuse_desc_ne same]
            exact owned
          · rw [rxReuse_desc_ne same]
            exact frame
    · intro i index hardware
      by_cases same : i = w.ring.curIndex
      · simpa [rxReuse, same, inside] using full
      · rw [rxReuse_desc_ne same] at hardware ⊢
        exact law.offered i index hardware

/-- In every run in which no allocation fails, frames are handed up in order and once, the
missing ones are in the ring, and every descriptor of the hardware offers the full length.
The first failed allocation breaks this unless the frame it drops had the full length. -/
theorem receive_in_order {w : RxWorld}
    (reached : rxSystem.ReachableBy (fun w e => ¬ AllocFails w e) w) :
    InOrder w ∧ ∀ e w', AllocFails w e → rxSystem.step w e = some w' →
      (InOrder w' ↔ (slot w.ring.desc w.ring.curIndex).length = maxPacketLen) := by
  have window := window_run reached
  have slots := slots_run reached.reachable
  refine ⟨window.inOrder, ?_⟩
  rintro e w' ⟨rfl, ready, left, workDone, workToDo, pass, budget⟩ stepped
  cases rxStep_move (e := .iterate none) stepped with
  | exhausted pass' done =>
    rw [pass] at pass'
    obtain ⟨rfl, rfl, rfl⟩ := RxPass.looping.inj pass'
    omega
  | notReady _ _ hardware =>
    rw [ready] at hardware
    contradiction
  | reuse => exact inOrder_reuse slots window

/-- The law after one frame was stored and handed up. -/
theorem receive_in_order_one_frame : ∃ w, rxSystem.run (rxInit evenRing)
    [.fill 100, .enter 64, .count, .iterate (evenly starGswMaxRfdNum)] = some w ∧ InOrder w := by
  have enabled : (rxSystem.run (rxInit evenRing)
      [.fill 100, .enter 64, .count, .iterate (evenly starGswMaxRfdNum)]).isSome = true := by
    decide +kernel
  obtain ⟨w, ran⟩ := Option.isSome_iff_exists.mp enabled
  have succeeds : ∀ e ∈ [RxEvent.fill 100, .enter 64, .count, .iterate (evenly starGswMaxRfdNum)],
      ∀ w, ¬ AllocFails w e := by
    rintro e member w ⟨rfl, _⟩
    simp [evenly] at member
  have reached := System.reachableBy_of_run (.init evenRing_init) succeeds ran
  exact ⟨w, ran, (receive_in_order reached).1⟩

/-- Two frames arrive and the allocation for the first one fails. -/
def failTrace : List RxEvent := [.fill 100, .fill 100, .enter 64, .count, .iterate none]

/-- The hardware goes once around the ring, and two passes hand up one frame each. -/
def wrapTrace : List RxEvent :=
  List.replicate (starGswMaxRfdNum - 1) (.fill 100) ++
    [.enter 64, .count, .iterate (evenly starGswMaxRfdNum), .iterate none,
      .enter 64, .count, .iterate (evenly (starGswMaxRfdNum + 1))]

/-- After a failed allocation a descriptor offers 100 bytes, and after the next turn of the
ring frame 96 is handed up before frame 1. -/
theorem receive_out_of_order : ∃ w w', rxSystem.run (rxInit evenRing) failTrace = some w ∧
    (slot w.ring.desc 0).cown = false ∧ (slot w.ring.desc 0).length = 100 ∧
    rxSystem.run w wrapTrace = some w' ∧ w'.handed.map Prod.snd = [some 96, some 1] ∧
    ¬ InOrder w ∧ ¬ InOrder w' := by
  have ran : (rxSystem.run (rxInit evenRing) failTrace).any fun w =>
      !(slot w.ring.desc 0).cown && decide ((slot w.ring.desc 0).length = 100) &&
        (rxSystem.run w wrapTrace).any fun w' =>
          decide (w'.handed.map Prod.snd = [some 96, some 1]) := by decide +kernel
  simp only [Option.any_eq_true, Bool.and_eq_true, Bool.not_eq_true', decide_eq_true_eq] at ran
  obtain ⟨w, failed, ⟨hardware, short⟩, w', wrapped, order⟩ := ran
  refine ⟨w, w', failed, hardware, short, wrapped, order, ?_, ?_⟩
  · intro law
    have offered := law.offered 0 (by decide) hardware
    rw [short] at offered
    exact absurd offered (by decide)
  · intro law
    have sublist := law.subsequence
    rw [order] at sublist
    have increasing : ((List.range w'.stored).map some).Pairwise
        fun a b => ∀ x y, a = some x → b = some y → x < y := by
      rw [List.pairwise_map]
      refine List.pairwise_lt_range.imp ?_
      rintro x y below _ _ ⟨⟩ ⟨⟩
      exact below
    have first := (List.pairwise_cons.mp (increasing.sublist sublist)).1 _
      (List.mem_singleton_self _)
    exact absurd (first 96 1 rfl rfl) (by decide)

end Fvs318g.Verif.ReceiveOrder
