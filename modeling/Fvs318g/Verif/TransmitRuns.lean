import Mathlib.Data.List.Nodup
import Fvs318g.Verif.Transmit

/-!
# Runs of the transmit side

Two laws of every run of calls, completions and watchdog calls: frames and buffers are
conserved, and transmit DMA runs while the hardware has descriptors. The first holds as
long as no call meets more finished buffers than the free list can hold; the second as
long as no call finds the ring busy, because a busy call stops the DMA and nothing but an
accepted call starts it again.
-/

namespace Fvs318g.Verif.TransmitRuns

open Kernel Lib Gsw Transmit

/-! ## Conservation -/

/-- The number of descriptors of the first `j` accepted frames. -/
def descriptorsOf (w : TxWorld) (j : Nat) : Nat := ((w.accepted.take j).flatMap segments).length

/-- What is conserved while the last `pending` descriptors are with the hardware. -/
structure ConservedAt (w : TxWorld) (pending : Nat) : Prop where
  /-- `cur_index` is an index of the ring. -/
  cur_lt : w.driver.ring.curIndex < starGswMaxTfdNum
  /-- The hardware has at most the whole ring. -/
  pending_le : pending ≤ starGswMaxTfdNum
  /-- The descriptors of the hardware are the `pending` ones that end before `cur_index`. -/
  contiguous : ∀ i, i < starGswMaxTfdNum → ((slot w.driver.ring.desc i).cown = false ↔
    ∃ j, j < pending ∧ (i + 1 + j) % starGswMaxTfdNum = w.driver.ring.curIndex)
  /-- In ring order they show a suffix of the segments of the accepted frames. -/
  suffix : ((List.range pending).map fun j => view (slot w.driver.ring.desc
    ((w.driver.ring.curIndex + (starGswMaxTfdNum - pending) + j) % starGswMaxTfdNum))) <:+
      w.accepted.flatMap segments
  /-- An accepted buffer is in the slot of its last descriptor only, or was freed once. -/
  stored : ∀ j (inside : j < w.accepted.length),
    ((∀ i, i < starGswMaxTfdNum → (slot w.driver.ring.skbPtr i = some w.accepted[j] ↔
        i = (descriptorsOf w (j + 1) - 1) % starGswMaxTfdNum)) ∧
      w.driver.freed.count w.accepted[j] = 0) ∨
    ((∀ i, i < starGswMaxTfdNum → slot w.driver.ring.skbPtr i ≠ some w.accepted[j]) ∧
      w.driver.freed.count w.accepted[j] = 1)
  /-- No descriptor of a freed buffer is with the hardware. -/
  released : ∀ j (inside : j < w.accepted.length), w.accepted[j] ∈ w.driver.freed →
    ∀ q, descriptorsOf w j ≤ q → q < descriptorsOf w (j + 1) →
      q + pending < (w.accepted.flatMap segments).length

/-- The transmit ring neither loses nor repeats a frame or a buffer. -/
def Conserved (w : TxWorld) : Prop := ∃ pending, ConservedAt w pending

/-- Each accepted frame adds one descriptor for its linear part and one for each fragment. -/
theorem length_take_segments {accepted : List SkBuff} {j : Nat} (inside : j < accepted.length) :
    ((accepted.take (j + 1)).flatMap segments).length =
      ((accepted.take j).flatMap segments).length + (accepted[j].nrFrags + 1) := by
  rw [List.take_add_one, List.getElem?_eq_getElem inside]
  simp only [Option.toList_some, List.flatMap_append, List.length_append, List.flatMap_cons,
    List.flatMap_nil, List.append_nil, length_segments]

/-- Only the last place of a frame keeps its buffer. -/
theorem owners_eq (skb : SkBuff) : owners skb = List.replicate skb.nrFrags none ++ [some skb] := by
  rw [owners, List.range_succ, List.map_append]
  congr 1
  · rw [List.eq_replicate_iff]
    refine ⟨by simp, ?_⟩
    intro owner member
    obtain ⟨k, inside, rfl⟩ := List.mem_map.mp member
    rw [List.mem_range] at inside
    exact if_neg (by omega)
  · simp [ownerAt]

/-- The kept buffers are the accepted ones, in order. -/
theorem filterMap_owners (accepted : List SkBuff) :
    (accepted.flatMap owners).filterMap id = accepted := by
  induction accepted with
  | nil => rfl
  | cons skb rest ih =>
    rw [List.flatMap_cons, List.filterMap_append, ih, owners_eq]
    simp

/-- A buffer accepted once is kept with exactly one segment, the last of its frame. -/
theorem flatMap_owners_iff {accepted : List SkBuff} (distinct : accepted.Nodup) {j : Nat}
    (inside : j < accepted.length) (q : Nat) :
    (accepted.flatMap owners)[q]? = some (some accepted[j]) ↔
      q + 1 = ((accepted.take (j + 1)).flatMap segments).length := by
  induction accepted generalizing j q with
  | nil => simp at inside
  | cons skb rest ih =>
    obtain ⟨new, restDistinct⟩ := List.nodup_cons.mp distinct
    have elsewhere : ∀ (r : Nat) x, (rest.flatMap owners)[r]? = some (some x) → x ∈ rest := by
      intro r x found
      rw [← filterMap_owners rest, List.mem_filterMap]
      exact ⟨some x, List.mem_of_getElem? found, rfl⟩
    have own : ∀ r : Nat, r < skb.nrFrags + 1 → ∀ x, (owners skb)[r]? = some (some x) ↔
        r = skb.nrFrags ∧ skb = x := by
      intro r below x
      rw [owners, List.getElem?_map, List.getElem?_range below]
      by_cases final : r = skb.nrFrags <;> simp [ownerAt, final]
    rw [List.flatMap_cons]
    by_cases mine : q < skb.nrFrags + 1
    · rw [List.getElem?_append_left (by simpa using mine), own q mine]
      cases j with
      | zero => simp
      | succ j =>
        have later : j < rest.length := by simpa using inside
        have member : rest[j] ∈ rest := List.getElem_mem _
        rw [List.getElem_cons_succ]
        constructor
        · rintro ⟨_, same⟩
          exact absurd (same ▸ member) new
        · intro count
          simp only [List.take_succ_cons, List.flatMap_cons, List.length_append,
            length_segments] at count
          rw [length_take_segments later] at count
          omega
    · rw [List.getElem?_append_right (by simpa using Nat.le_of_not_lt mine), length_owners]
      cases j with
      | zero =>
        constructor
        · intro found
          exact absurd (elsewhere _ _ found) new
        · intro count
          simp at count
          omega
      | succ j =>
        have index := ih restDistinct (j := j) (by simpa using inside) (q - (skb.nrFrags + 1))
        rw [List.getElem_cons_succ, index]
        simp only [List.take_succ_cons, List.flatMap_cons, List.length_append, length_segments]
        omega

variable {w : TxWorld} {done : Nat}

section

variable (rep : Represents w done)
include rep

/-- The last descriptor of an accepted frame is the one its buffer is kept with. -/
theorem keeper_iff {j : Nat} (inside : j < w.accepted.length) (q : Nat) :
    (keepers w)[q]? = some (some w.accepted[j]) ↔ q + 1 = descriptorsOf w (j + 1) :=
  flatMap_owners_iff (List.Nodup.of_map SkBuff.id rep.distinct) inside q

/-- The last descriptor of an accepted frame is in the sequence. -/
theorem last_lt {j : Nat} (inside : j < w.accepted.length) :
    0 < descriptorsOf w (j + 1) ∧ descriptorsOf w (j + 1) ≤ (sequence w).length := by
  have count : descriptorsOf w (j + 1) = descriptorsOf w j + (w.accepted[j].nrFrags + 1) :=
    length_take_segments inside
  have found := (keeper_iff rep inside (descriptorsOf w (j + 1) - 1)).mpr (by omega)
  have below := (List.getElem?_eq_some_iff.mp found).1
  rw [length_keepers] at below
  omega

/-- A buffer is freed when the ring has gone a full turn past its last descriptor. -/
theorem freed_iff {j : Nat} (inside : j < w.accepted.length) : w.accepted[j] ∈ w.driver.freed ↔
      descriptorsOf w (j + 1) + starGswMaxTfdNum ≤ (sequence w).length := by
  have length := length_keepers w
  rw [rep.freed, List.mem_filterMap]
  constructor
  · rintro ⟨entry, member, same⟩
    obtain rfl : entry = some w.accepted[j] := same
    obtain ⟨q, below, found⟩ := List.mem_take_iff_getElem.mp member
    have := (keeper_iff rep inside q).mp (List.getElem?_eq_some_iff.mpr ⟨_, found⟩)
    omega
  · intro early
    have last := last_lt rep inside
    have found := (keeper_iff rep inside (descriptorsOf w (j + 1) - 1)).mpr (by omega)
    obtain ⟨below, value⟩ := List.getElem?_eq_some_iff.mp found
    exact ⟨_, List.mem_take_iff_getElem.mpr ⟨_, by omega, value⟩, rfl⟩

/-- No buffer is freed twice. -/
theorem freed_nodup : w.driver.freed.Nodup := by
  have sublist : w.driver.freed.Sublist w.accepted := by
    rw [rep.freed, ← filterMap_owners w.accepted]
    exact (List.take_sublist ..).filterMap id
  exact sublist.nodup (List.Nodup.of_map SkBuff.id rep.distinct)

/-- A slot keeps a buffer exactly when it is the slot of the buffer's last descriptor and
the ring has not yet gone a full turn past it. -/
theorem kept_iff {j : Nat} (inside : j < w.accepted.length) {i : Nat}
    (index : i < starGswMaxTfdNum) :
    slot w.driver.ring.skbPtr i = some w.accepted[j] ↔
      i = (descriptorsOf w (j + 1) - 1) % starGswMaxTfdNum ∧
        (sequence w).length < descriptorsOf w (j + 1) + starGswMaxTfdNum := by
  obtain ⟨p, above, below, rfl⟩ := window_surj (sequence w).length index
  have last := last_lt rep inside
  rw [rep.kept p above below]
  by_cases first : p < starGswMaxTfdNum
  · rw [if_pos first]
    constructor
    · intro empty
      contradiction
    · rintro ⟨same, _⟩
      have := window_inj 0 (by omega) (by omega) (by omega) (by omega) same
      omega
  · rw [if_neg first, Option.join_eq_some_iff, keeper_iff rep inside]
    have turned : p % starGswMaxTfdNum = (p - starGswMaxTfdNum) % starGswMaxTfdNum := by
      rw [← turn_mod _ (p - _), Nat.sub_add_cancel (by omega)]
    constructor
    · intro last
      rw [turned, show p - starGswMaxTfdNum = descriptorsOf w (j + 1) - 1 by omega]
      exact ⟨rfl, by omega⟩
    · rintro ⟨same, recent⟩
      rw [turned] at same
      have := window_inj ((sequence w).length - starGswMaxTfdNum) (by omega) (by omega)
        (by omega) (by omega) same
      omega

/-- The hardware's descriptors end before `cur_index`. -/
theorem contiguous {i : Nat} (index : i < starGswMaxTfdNum) :
    (slot w.driver.ring.desc i).cown = false ↔ ∃ j, j < (sequence w).length - done ∧
      (i + 1 + j) % starGswMaxTfdNum = w.driver.ring.curIndex := by
  have turn := rep.owned.le
  obtain ⟨p, above, below, rfl⟩ := window_surj (sequence w).length index
  rw [rep.owned.flags p above below, rep.cur, decide_eq_false_iff_not]
  constructor
  · intro behind
    refine ⟨(sequence w).length + starGswMaxTfdNum - 1 - p, by omega, ?_⟩
    rw [Nat.add_assoc, Nat.mod_add_mod, show p + (1 + ((sequence w).length + starGswMaxTfdNum -
      1 - p)) = (sequence w).length + starGswMaxTfdNum by omega, turn_mod]
  · rintro ⟨j, short, same⟩
    rw [Nat.add_assoc, Nat.mod_add_mod, ← turn_mod _ (sequence w).length] at same
    have := window_inj ((sequence w).length + 1 + j) (by omega) (by omega) (by omega) (by omega)
      same
    omega

/-- Conservation follows from the representation. -/
theorem conserved : Conserved w := by
  have turn := rep.owned.le
  have ahead := rep.owned.turn
  refine ⟨(sequence w).length - done, ?_, by omega, fun i => contiguous rep, ?_, ?_, ?_⟩
  · rw [rep.cur]
    exact Nat.mod_lt _ ring_positive
  · have shown : ((List.range ((sequence w).length - done)).map fun j => view (slot
        w.driver.ring.desc ((w.driver.ring.curIndex + (starGswMaxTfdNum -
          ((sequence w).length - done)) + j) % starGswMaxTfdNum))) = (sequence w).drop done := by
      apply List.ext_getElem?
      intro j
      rw [List.getElem?_map, List.getElem?_drop]
      by_cases inside : j < (sequence w).length - done
      · have position : (w.driver.ring.curIndex + (starGswMaxTfdNum - ((sequence w).length -
            done)) + j) % starGswMaxTfdNum = (done + j) % starGswMaxTfdNum := by
          rw [rep.cur, Nat.add_assoc, Nat.mod_add_mod, ← turn_mod _ (done + j)]
          congr 1
          omega
        rw [List.getElem?_range inside, rep.shown _ (by omega) (by omega), Option.map_some,
          position]
      · rw [List.getElem?_eq_none (by simpa using inside), List.getElem?_eq_none (by omega)]
        rfl
    rw [shown]
    exact List.drop_suffix _ _
  · intro j inside
    by_cases recent : (sequence w).length < descriptorsOf w (j + 1) + starGswMaxTfdNum
    · left
      refine ⟨fun i index => by simp [kept_iff rep inside index, recent], ?_⟩
      rw [List.count_eq_zero, freed_iff rep inside]
      omega
    · right
      refine ⟨fun i index => by simp [kept_iff rep inside index, recent], ?_⟩
      exact List.count_eq_one_of_mem (freed_nodup rep) ((freed_iff rep inside).mpr (by omega))
  · intro j inside freed q _ below
    have := (freed_iff rep inside).mp freed
    change q + ((sequence w).length - done) < (sequence w).length
    omega

end

/-! ## Every run conserves -/

/-- The descriptors and slots a call for `skb` needs are all free, and each of them still
keeps a finished buffer. -/
def AllFinished (driver : TxDriver) (skb : SkBuff) : Prop :=
  ∀ k, k < skb.nrFrags + 1 →
    (slot driver.ring.desc ((driver.ring.curIndex + k) % starGswMaxTfdNum)).cown = true ∧
      slot driver.ring.skbPtr ((driver.ring.curIndex + k) % starGswMaxTfdNum) ≠ none

/-- The call does not meet more finished buffers than `skb_free` has entries. -/
def FreeListFits : Option TxWorld → TxEvent → Prop
  | some w, .send skb _ => ¬ (skb.nrFrags = maxSkbFrags ∧ AllFinished w.driver skb)
  | _, _ => True

/-- The free list is overrun exactly by a buffer with `MAX_SKB_FRAGS` fragments whose
descriptors all keep a finished buffer. -/
theorem send_overrun_iff {driver : TxDriver} {skb : SkBuff} {dev : NetDevice}
    (cur : driver.ring.curIndex < starGswMaxTfdNum) :
    starGswSendPacket driver skb dev = .overrun ↔
      skb.nrFrags = maxSkbFrags ∧ AllFinished driver skb := by
  have turn := parts_le skb
  have bound : skb.nrFrags ≤ maxSkbFrags := skb.frags_le
  have walk : starGswSendPacket driver skb dev = .overrun ↔
      claim skb dev driver.ring (driver.ring.curIndex % starGswMaxTfdNum) 0 []
        (skb.nrFrags + 1) = .overrun := by
    rw [Nat.mod_eq_of_lt cur]
    simp only [starGswSendPacket]
    split <;> simp_all
  rw [walk]
  constructor
  · intro overrun
    obtain ⟨k, below, full, all⟩ := claim_overrun turn overrun
    simp only [List.length_nil, Nat.zero_add] at full all
    exact ⟨by omega, fun j inside => all (by omega) j (by omega)⟩
  · rintro ⟨most, all⟩
    exact claim_overruns turn (by simp) (by simp [most]) all

/-- Every step that fits the free list keeps the representation. -/
theorem represents_step {e : TxEvent} {next : Option TxWorld} (rep : Represents w done)
    (fits : FreeListFits (some w) e) (stepped : txStep (some w) e = some next) :
    ∃ w' done', next = some w' ∧ Represents w' done' := by
  cases e with
  | send skb dev =>
    simp only [txStep] at stepped
    split at stepped
    · contradiction
    · rename_i fresh
      split at stepped
      · rename_i driver busy
        cases stepped
        exact ⟨_, done, rfl, represents_busy rep busy⟩
      · rename_i driver sent
        cases stepped
        exact ⟨_, done, rfl, represents_sent rep fresh sent⟩
      · rename_i overrun
        have inside : w.driver.ring.curIndex < starGswMaxTfdNum :=
          rep.cur ▸ Nat.mod_lt _ ring_positive
        exact absurd ((send_overrun_iff inside).mp overrun) fits
  | complete =>
    obtain ⟨w', completed, rfl⟩ := Option.map_eq_some_iff.mp stepped
    exact ⟨w', done + 1, rfl, represents_complete rep completed⟩
  | timeout =>
    cases stepped
    exact ⟨_, done, rfl, { rep with }⟩

/-- Every run whose calls fit the free list stays defined and represented. -/
theorem represents_run {s : Option TxWorld} (reached : txSystem.ReachableBy FreeListFits s) :
    ∃ w done, s = some w ∧ Represents w done := by
  refine System.ReachableBy.invariant ?_ ?_ reached
  · rintro s rfl
    exact ⟨txInit, 0, rfl, represents_init⟩
  · rintro s e s' ⟨w, done, rfl, rep⟩ fits stepped
    exact represents_step rep fits stepped

/-- In every run whose calls fit the free list, the ring conserves frames and buffers; and
from every state of such a run the next call stays defined exactly when it fits. -/
theorem transmit_conserves {s : Option TxWorld} (reached : txSystem.ReachableBy FreeListFits s) :
    ∃ w, s = some w ∧ Conserved w ∧ ∀ skb dev, skb.id ∉ w.accepted.map SkBuff.id →
      (txSystem.step (some w) (.send skb dev) ≠ some none ↔
        FreeListFits (some w) (.send skb dev)) := by
  obtain ⟨w, done, rfl, rep⟩ := represents_run reached
  have inside : w.driver.ring.curIndex < starGswMaxTfdNum := rep.cur ▸ Nat.mod_lt _ ring_positive
  refine ⟨w, rfl, conserved rep, ?_⟩
  intro skb dev fresh
  have overrun : starGswSendPacket w.driver skb dev = .overrun ↔ _ := send_overrun_iff inside
  rw [FreeListFits, ← overrun]
  simp only [txSystem, txStep, fresh, ↓reduceIte]
  split <;> simp_all

/-- A buffer at a lowmem address with `n` fragments of 100 bytes. -/
def fragmented (id n : Nat) (bound : n ≤ maxSkbFrags) : SkBuff where
  id := id
  head := 0xC0100000
  data := 0xC0100010
  tail := 0xC0100074
  endp := 0xC0100600
  len := 100 + 100 * n
  dataLen := 100 * n
  macRaw := 0xC0100010
  protocol := ethPIp
  ipProtocol := ipprotoTcp
  frags := List.replicate n ⟨0xC0200000, 0, 100⟩
  frags_le := by simpa using bound

/-- The LAN device, with port map 1. -/
def lanDev : NetDevice := ⟨false, 1⟩

/-- The law in the state after a frame with two fragments was accepted. -/
theorem transmit_conserves_two_fragments :
    ∃ w, txSystem.step (some txInit) (.send (fragmented 0 2 (by decide)) lanDev) = some (some w) ∧
      Conserved w := by
  have enabled : (txSystem.step (some txInit)
      (.send (fragmented 0 2 (by decide)) lanDev)).isSome = true := by decide +kernel
  obtain ⟨s, stepped⟩ := Option.isSome_iff_exists.mp enabled
  have fits : FreeListFits (some txInit) (.send (fragmented 0 2 (by decide)) lanDev) :=
    fun ⟨most, _⟩ => absurd most (by decide)
  obtain ⟨w, rfl, law, _⟩ := transmit_conserves (.step (.init rfl) fits stepped)
  exact ⟨w, stepped, law⟩

/-- Fill the ring with linear frames, let the hardware finish them all, then send a frame
with `MAX_SKB_FRAGS` fragments. -/
def overrunTrace : List TxEvent :=
  (List.range starGswMaxTfdNum).map (fun id => .send (fragmented id 0 (by decide)) lanDev) ++
    List.replicate starGswMaxTfdNum .complete ++
    [.send (fragmented starGswMaxTfdNum maxSkbFrags (Nat.le_refl _)) lanDev]

/-- The last call of the trace stores past the end of `skb_free`. -/
theorem transmit_overruns :
    txSystem.run (some txInit) overrunTrace = some none ∧ txSystem.Reachable none := by
  have ran : txSystem.run (some txInit) overrunTrace = some none := by decide +kernel
  exact ⟨ran, System.reachable_of_run (.init rfl) ran⟩

/-! ## Transmit DMA -/

/-- The hardware still has a descriptor. -/
def Pending (driver : TxDriver) : Prop :=
  ∃ i, i < starGswMaxTfdNum ∧ (slot driver.ring.desc i).cown = false

/-- Every descriptor that a call for `skb` needs is free. -/
def Room (driver : TxDriver) (skb : SkBuff) : Prop :=
  ∀ k, k < skb.nrFrags + 1 →
    (slot driver.ring.desc ((driver.ring.curIndex + k) % starGswMaxTfdNum)).cown = true

/-- The call finds its descriptors free and fits the free list. -/
def FindsRoom : Option TxWorld → TxEvent → Prop
  | some w, .send skb dev => Room w.driver skb ∧ FreeListFits (some w) (.send skb dev)
  | _, _ => True

/-- Calls that find room fit the free list. -/
theorem FindsRoom.fits {s : Option TxWorld} {e : TxEvent} (room : FindsRoom s e) :
    FreeListFits s e := by
  cases s with
  | none => trivial
  | some w =>
    cases e with
    | send skb dev => exact room.2
    | complete => trivial
    | timeout => trivial

/-- A busy call stopped at a descriptor of the hardware. -/
theorem not_room_of_busy {driver driver' : TxDriver} {skb : SkBuff} {dev : NetDevice}
    (cur : driver.ring.curIndex < starGswMaxTfdNum)
    (busy : starGswSendPacket driver skb dev = .busy driver') : ¬ Room driver skb := by
  intro room
  simp only [starGswSendPacket] at busy
  split at busy
  · rename_i ring claimed
    rw [← Nat.mod_eq_of_lt cur] at claimed
    obtain ⟨k, below, hardware⟩ := claim_busy_at (parts_le skb) claimed
    rw [room k below] at hardware
    contradiction
  · contradiction
  · contradiction

/-- A step whose calls find room keeps the DMA running while descriptors are pending. -/
theorem dma_step {w w' : TxWorld} {e : TxEvent}
    (cur : w.driver.ring.curIndex < starGswMaxTfdNum) (room : FindsRoom (some w) e)
    (running : Pending w.driver → w.driver.tsDma = true)
    (stepped : txStep (some w) e = some (some w')) :
    Pending w'.driver → w'.driver.tsDma = true := by
  cases e with
  | send skb dev =>
    simp only [txStep] at stepped
    split at stepped
    · contradiction
    · split at stepped
      · rename_i driver busy
        exact absurd room.1 (not_room_of_busy cur busy)
      · rename_i driver sent
        obtain rfl := Option.some.inj (Option.some.inj stepped)
        obtain ⟨_, _, _, _, _, dma⟩ := send_walks sent
        exact fun _ => dma
      · simp at stepped
  | complete =>
    obtain ⟨after, completed, same⟩ := Option.map_eq_some_iff.mp stepped
    cases same
    simp only [hwComplete] at completed
    split at completed
    · contradiction
    · rename_i hardware
      cases completed
      rintro ⟨i, inside, pending⟩
      refine running ⟨i, inside, ?_⟩
      -- completing only ever sets `cown`
      by_cases here : i = w.tssd
      · rw [here]
        exact Bool.eq_false_iff.mpr hardware
      · rwa [TxRing.setDesc, slot_setSlot_ne _ here] at pending
  | timeout =>
    obtain rfl := Option.some.inj (Option.some.inj stepped)
    exact running

/-- A call that returns 1 keeps the position, the kept buffers and every ownership bit, and
it always leaves transmit DMA stopped, so the DMA state survives exactly when it was
stopped already. In every run in which no call returns 1 the DMA runs while the hardware
has descriptors. -/
theorem busy_stops_dma (driver : TxDriver) (skb : SkBuff) (dev : NetDevice) :
    (∀ driver', starGswSendPacket driver skb dev = .busy driver' →
      driver'.ring.curIndex = driver.ring.curIndex ∧
      driver'.ring.skbPtr = driver.ring.skbPtr ∧
      (∀ i, (slot driver'.ring.desc i).cown = (slot driver.ring.desc i).cown) ∧
      ((driver.tsDma = true → driver'.tsDma = true) ↔ driver.tsDma = false)) ∧
    ∀ s, txSystem.ReachableBy FindsRoom s →
      ∃ w, s = some w ∧ (Pending w.driver → w.driver.tsDma = true) := by
  constructor
  · intro driver' busy
    obtain ⟨cur, kept, owned, _, _, stopped⟩ := send_busy busy
    refine ⟨cur, kept, owned, ?_⟩
    rw [stopped]
    cases driver.tsDma <;> simp
  · intro s reached
    have law : ∃ w done, s = some w ∧ Represents w done ∧
        (Pending w.driver → w.driver.tsDma = true) := by
      refine System.ReachableBy.invariant ?_ ?_ reached
      · rintro s rfl
        refine ⟨txInit, 0, rfl, represents_init, ?_⟩
        rintro ⟨i, inside, pending⟩
        simp [txInit, txRingAlloc, slot_ofFn _ inside] at pending
      · rintro s e s' ⟨w, done, rfl, rep, running⟩ room stepped
        obtain ⟨w', done', rfl, rep'⟩ := represents_step rep room.fits stepped
        have cur : w.driver.ring.curIndex < starGswMaxTfdNum := rep.cur ▸ Nat.mod_lt _ ring_positive
        exact ⟨w', done', rfl, rep', dma_step cur room running stepped⟩
    obtain ⟨w, _, same, _, running⟩ := law
    exact ⟨w, same, running⟩

/-- Decide `FindsRoom` for calls with fewer than the most fragments. -/
def findsRoomCheck : Option TxWorld → TxEvent → Bool
  | some w, .send skb _ => skb.nrFrags != maxSkbFrags && (List.range (skb.nrFrags + 1)).all fun k =>
      (slot w.driver.ring.desc ((w.driver.ring.curIndex + k) % starGswMaxTfdNum)).cown
  | _, _ => true

/-- The check is enough. -/
theorem findsRoomCheck_sound (s : Option TxWorld) (e : TxEvent)
    (checked : findsRoomCheck s e = true) : FindsRoom s e := by
  rcases s with _ | w
  · trivial
  · cases e with
    | send skb dev =>
      simp only [findsRoomCheck, Bool.and_eq_true, bne_iff_ne, List.all_eq_true,
        List.mem_range] at checked
      exact ⟨checked.2, fun unfit => checked.1 unfit.1⟩
    | complete | timeout => trivial

/-- As many linear frames as the ring has descriptors. -/
def fillTrace : List TxEvent :=
  (List.range starGswMaxTfdNum).map fun id => .send (fragmented id 0 (by decide)) lanDev

/-- Both laws after the ring was filled: transmit DMA runs while every descriptor is pending, and
the next call is a busy one. -/
theorem busy_stops_dma_full_ring : ∃ w driver',
    txSystem.RunsBy FindsRoom (some txInit) fillTrace (some w) ∧ Pending w.driver ∧
      w.driver.tsDma = true ∧
      starGswSendPacket w.driver (fragmented starGswMaxTfdNum 0 (by decide)) lanDev =
        .busy driver' ∧ driver'.ring.curIndex = w.driver.ring.curIndex := by
  have ran : ((txSystem.runBy findsRoomCheck (some txInit) fillTrace).bind id).any fun w =>
      !(slot w.driver.ring.desc 0).cown &&
        match starGswSendPacket w.driver (fragmented starGswMaxTfdNum 0 (by decide)) lanDev with
        | .busy _ => true
        | _ => false := by decide +kernel
  simp only [Option.any_eq_true, Option.bind_eq_some_iff, id_eq, exists_eq_right,
    Bool.and_eq_true, Bool.not_eq_true'] at ran
  obtain ⟨w, ended, hardware, refused⟩ := ran
  have filled := System.runsBy_of_runBy findsRoomCheck_sound ended
  have law := busy_stops_dma w.driver (fragmented starGswMaxTfdNum 0 (by decide)) lanDev
  have pending : Pending w.driver := ⟨0, by decide, hardware⟩
  obtain ⟨_, same, running⟩ := law.2 (some w) (filled.reachableBy (.init rfl))
  cases same
  split at refused
  · rename_i driver' busy
    exact ⟨w, driver', filled, pending, running pending, busy, (law.1 driver' busy).1⟩
  · exact absurd refused Bool.false_ne_true

/-- One frame more than the ring holds stops transmit DMA while the whole ring is waiting to
be sent, and the watchdog does not start it again. -/
theorem busy_call_stops_running_dma :
    ∃ w w', txSystem.run (some txInit) fillTrace = some (some w) ∧ w.driver.tsDma = true ∧
      txSystem.run (some w) [.send (fragmented starGswMaxTfdNum 0 (by decide)) lanDev, .timeout] =
        some (some w') ∧ Pending w'.driver ∧ w'.driver.tsDma = false := by
  have filled : ((txSystem.run (some txInit) fillTrace).bind id).any fun w =>
      w.driver.tsDma && ((txSystem.run (some w)
        [.send (fragmented starGswMaxTfdNum 0 (by decide)) lanDev, .timeout]).bind id).any
          fun w' => !(slot w'.driver.ring.desc 0).cown && !w'.driver.tsDma := by decide +kernel
  simp only [Option.any_eq_true, Option.bind_eq_some_iff, id_eq, exists_eq_right,
    Bool.and_eq_true, Bool.not_eq_true'] at filled
  obtain ⟨w, ran, running, w', refused, hardware, stopped⟩ := filled
  exact ⟨w, w', ran, running, refused, ⟨0, by decide, hardware⟩, stopped⟩

end Fvs318g.Verif.TransmitRuns
