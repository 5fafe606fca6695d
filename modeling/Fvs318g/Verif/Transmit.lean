import Fvs318g.Gsw.Transmit
import Mathlib.Data.List.Basic

/-!
# What the transmit ring keeps

The purpose of the ring is stated on the sequence of all descriptors ever handed over: an
accepted frame appends one segment for its linear part and one for each fragment, and the
hardware completes segments from the front. The ring shows the last turn of that sequence.
The three walks of `star_gsw_send_packet` are three updates of one run of slots, and the
representation below is kept by a call, by a completion and by the watchdog.
-/

namespace Fvs318g.Verif.Transmit

open Kernel Lib Gsw

/-! ## The sequence of segments -/

/-- What the hardware reads of one descriptor. -/
structure TxSegment where
  /-- Physical address of the data. -/
  dataPtr : Nat
  /-- Length of the data. -/
  length : Nat
  /-- First segment of a frame. -/
  fs : Bool
  /-- Last segment of a frame. -/
  ls : Bool
  deriving DecidableEq, Repr

/-- The segment a descriptor shows. -/
def view (d : TxDesc) : TxSegment := ⟨d.dataPtr, d.length, d.fs, d.ls⟩

/-- Address and length of part `k` of a frame: the linear part, then the fragments. -/
def partOf (skb : SkBuff) : Nat → Nat × Nat
  | 0 => (virtToPhys skb.data, linearLength skb)
  | j + 1 =>
    match skb.frags[j]? with
    | some frag => (virtToPhys (frag.pageAddress + frag.pageOffset), frag.size % 2 ^ 16)
    | none => (0, 0)

/-- Segment `k` of a frame, flagged at its two ends only. -/
def segment (skb : SkBuff) (k : Nat) : TxSegment :=
  ⟨(partOf skb k).1, (partOf skb k).2, k == 0, k == skb.nrFrags⟩

/-- The buffer is kept with the last segment of its frame. -/
def ownerAt (skb : SkBuff) (k : Nat) : Option SkBuff := if k = skb.nrFrags then some skb else none

/-- The segments of one frame, in order. -/
def segments (skb : SkBuff) : List TxSegment := (List.range (skb.nrFrags + 1)).map (segment skb)

/-- The buffers kept with the segments of one frame. -/
def owners (skb : SkBuff) : List (Option SkBuff) := (List.range (skb.nrFrags + 1)).map (ownerAt skb)

/-- The segments of all accepted frames. -/
def sequence (w : TxWorld) : List TxSegment := w.accepted.flatMap segments

/-- The buffers kept with the segments of all accepted frames. -/
def keepers (w : TxWorld) : List (Option SkBuff) := w.accepted.flatMap owners

/-- The linear part and the fragments. -/
@[simp] theorem length_segments (skb : SkBuff) : (segments skb).length = skb.nrFrags + 1 := by
  simp [segments]

/-- One entry for each segment. -/
@[simp] theorem length_owners (skb : SkBuff) : (owners skb).length = skb.nrFrags + 1 := by
  simp [owners]

/-- Segments and kept buffers run in parallel. -/
theorem length_keepers (w : TxWorld) : (keepers w).length = (sequence w).length := by
  unfold keepers sequence
  induction w.accepted with
  | nil => rfl
  | cons skb rest ih => simp [ih]

/-! ## The walks as slot updates -/

/-- The ring has slots. -/
theorem ring_positive : 0 < starGswMaxTfdNum := by decide

/-- A frame never needs a full turn of the ring. -/
theorem parts_le (skb : SkBuff) : skb.nrFrags + 1 ≤ starGswMaxTfdNum := by
  have bound := skb.frags_le
  have room : maxSkbFrags + 1 ≤ starGswMaxTfdNum := by decide
  unfold SkBuff.nrFrags
  omega

/-- The checksum bits leave ownership and segment flags alone. -/
theorem checksumBits_frame (skb : SkBuff) (d : TxDesc) :
    (checksumBits skb d).cown = d.cown ∧ (checksumBits skb d).fs = d.fs ∧
      (checksumBits skb d).ls = d.ls := by
  unfold checksumBits
  split
  · split
    · exact ⟨rfl, rfl, rfl⟩
    · split <;> exact ⟨rfl, rfl, rfl⟩
  · exact ⟨rfl, rfl, rfl⟩

/-- The routing bits leave ownership and segment flags alone. -/
theorem routeBits_frame (dev : NetDevice) (d : TxDesc) :
    (routeBits dev d).cown = d.cown ∧ (routeBits dev d).fs = d.fs ∧
      (routeBits dev d).ls = d.ls := by
  by_cases vlan : dev.pmap = -1
  · simp [routeBits, vlan]
  · simp [routeBits, vlan]

/-- The first walk keeps ownership and flags the two ends of the frame. -/
theorem claimDesc_frame (skb : SkBuff) (dev : NetDevice) (f : Nat) (d : TxDesc) :
    (claimDesc skb dev f d).cown = d.cown ∧ (claimDesc skb dev f d).fs = (f == 0) ∧
      (claimDesc skb dev f d).ls = (f == skb.nrFrags) := by
  unfold claimDesc
  obtain ⟨cown, fs, ls⟩ := checksumBits_frame skb { d with fs := f == 0, ls := f == skb.nrFrags }
  obtain ⟨cown', fs', ls'⟩ := routeBits_frame dev
    { checksumBits skb { d with fs := f == 0, ls := f == skb.nrFrags } with
      interrupt := false, fr := true }
  exact ⟨cown'.trans cown, fs'.trans fs, ls'.trans ls⟩

variable {skb : SkBuff} {dev : NetDevice} {free : List SkBuff}

/-- A busy first walk changes nothing but descriptors the processor owns, and no
ownership bit. -/
theorem claim_busy {left : Nat} {ring ring' : TxRing} {i f : Nat}
    (busy : claim skb dev ring i f free left = .busy ring') :
    ring'.curIndex = ring.curIndex ∧ ring'.skbPtr = ring.skbPtr ∧
      (∀ j, (slot ring'.desc j).cown = (slot ring.desc j).cown) ∧
      ∀ j, (slot ring.desc j).cown = false → slot ring'.desc j = slot ring.desc j := by
  induction left generalizing ring i f free with
  | zero => simp [claim] at busy
  | succ left ih =>
    simp only [claim] at busy
    split at busy
    · obtain rfl := Claim.busy.inj busy
      exact ⟨rfl, rfl, fun _ => rfl, fun _ _ => rfl⟩
    · rename_i free_desc
      split at busy
      · contradiction
      · obtain ⟨cur, ptr, cown, same⟩ := ih busy
        refine ⟨cur, ptr, ?_, ?_⟩
        · intro j
          rw [cown j, TxRing.setDesc]
          exact slot_setSlot_congr _ _ TxDesc.cown (claimDesc_frame ..).1 j
        · intro j hardware
          have other : j ≠ i := fun here => free_desc (here ▸ hardware)
          have kept : slot (ring.setDesc i (claimDesc skb dev f (slot ring.desc i))).desc j =
              slot ring.desc j := slot_setSlot_ne _ other _
          rw [same j (by rw [kept]; exact hardware), kept]

/-- A completed first walk found every descriptor free, wrote each once and collected the
buffers kept in its slots. -/
theorem claim_claimed {left : Nat} {ring ring' : TxRing} {p f : Nat} {free free' : List SkBuff}
    (turn : left ≤ starGswMaxTfdNum)
    (claimed : claim skb dev ring (p % starGswMaxTfdNum) f free left = .claimed ring' free') :
    (∀ k, k < left → (slot ring.desc ((p + k) % starGswMaxTfdNum)).cown = true) ∧
      ring' = { ring with
        desc := updateRun (claimDesc skb dev) ring.desc (p % starGswMaxTfdNum) f left } ∧
      free' = free ++
        (List.range left).filterMap fun k => slot ring.skbPtr ((p + k) % starGswMaxTfdNum) := by
  induction left generalizing ring p f free with
  | zero =>
    obtain ⟨rfl, rfl⟩ := Claim.claimed.inj claimed
    exact ⟨by omega, rfl, by simp⟩
  | succ left ih =>
    simp only [claim, wrap_mod ring_positive] at claimed
    split at claimed
    · contradiction
    · rename_i ready
      split at claimed
      · contradiction
      · rename_i stored collected
        obtain ⟨owned, ring_eq, free_eq⟩ := ih (by omega) claimed
        refine ⟨?_, ?_, ?_⟩
        · intro k below
          cases k with
          | zero => simpa using ready
          | succ k =>
            have later := owned k (by omega)
            rw [TxRing.setDesc, slot_setSlot_ne] at later
            · rwa [show p + (k + 1) = p + 1 + k by omega]
            · intro same
              have := window_inj p (by omega) (by omega) (Nat.le_refl p) (by omega) same
              omega
        · rw [ring_eq, updateRun, wrap_mod ring_positive]
          rfl
        · have shifted : (fun k => slot ring.skbPtr ((p + 1 + k) % starGswMaxTfdNum)) =
              (fun k => slot ring.skbPtr ((p + k) % starGswMaxTfdNum)) ∘ Nat.succ := by
            funext k
            simp only [Function.comp, Nat.succ_eq_add_one, show p + (k + 1) = p + 1 + k by omega]
          rw [free_eq, List.range_succ_eq_map, List.filterMap_cons, List.filterMap_map]
          simp only [TxRing.setDesc, shifted]
          cases kept : slot ring.skbPtr (p % starGswMaxTfdNum) with
          | none =>
            rw [kept] at collected
            cases collected
            simp
          | some finished =>
            rw [kept] at collected
            simp only [storeFree] at collected
            split at collected
            · cases collected
              simp
            · contradiction

/-- A first walk that overruns the free list met more finished buffers than the list had
room for, in descriptors that were all free. -/
theorem claim_overrun {left : Nat} {ring : TxRing} {p f : Nat} (turn : left ≤ starGswMaxTfdNum)
    (overrun : claim skb dev ring (p % starGswMaxTfdNum) f free left = .overrun) :
    ∃ k, k < left ∧ maxSkbFrags ≤ free.length + k ∧
      (maxSkbFrags = free.length + k → ∀ j, j ≤ k →
        (slot ring.desc ((p + j) % starGswMaxTfdNum)).cown = true ∧
          slot ring.skbPtr ((p + j) % starGswMaxTfdNum) ≠ none) := by
  induction left generalizing ring p f free with
  | zero => simp [claim] at overrun
  | succ left ih =>
    simp only [claim, wrap_mod ring_positive] at overrun
    split at overrun
    · contradiction
    · rename_i ready
      cases kept : slot ring.skbPtr (p % starGswMaxTfdNum) with
      | none =>
        simp only [kept, storeFree] at overrun
        obtain ⟨k, below, full, _⟩ := ih (by omega) overrun
        -- an empty slot costs one step without filling the list
        exact ⟨k + 1, by omega, by omega, fun exact => by omega⟩
      | some finished =>
        simp only [kept, storeFree] at overrun
        split at overrun
        · rename_i room
          split at room
          · contradiction
          · exact ⟨0, by omega, by omega, fun _ j zero => by
              obtain rfl : j = 0 := by omega
              simpa [kept] using ready⟩
        · rename_i stored collected
          split at collected
          · cases collected
            obtain ⟨k, below, full, all⟩ := ih (by omega) overrun
            simp only [List.length_append, List.length_singleton] at full all
            refine ⟨k + 1, by omega, by omega, fun exact j bounded => ?_⟩
            cases j with
            | zero => simpa [kept] using ready
            | succ j =>
              obtain ⟨owned, held⟩ := all (by omega) j (by omega)
              rw [TxRing.setDesc, slot_setSlot_ne] at owned
              · rw [show p + (j + 1) = p + 1 + j by omega]
                exact ⟨owned, held⟩
              · intro same
                have := window_inj p (by omega) (by omega) (Nat.le_refl p) (by omega) same
                omega
          · contradiction

/-- A first walk overruns the free list when it meets one finished buffer more than the
list has room for. -/
theorem claim_overruns {left : Nat} {ring : TxRing} {p f : Nat} (turn : left ≤ starGswMaxTfdNum)
    (full : free.length ≤ maxSkbFrags) (many : maxSkbFrags < free.length + left)
    (all : ∀ k, k < left → (slot ring.desc ((p + k) % starGswMaxTfdNum)).cown = true ∧
      slot ring.skbPtr ((p + k) % starGswMaxTfdNum) ≠ none) :
    claim skb dev ring (p % starGswMaxTfdNum) f free left = .overrun := by
  induction left generalizing ring p f free with
  | zero => omega
  | succ left ih =>
    obtain ⟨owned, held⟩ := all 0 (by omega)
    rw [Nat.add_zero] at owned held
    obtain ⟨finished, kept⟩ := Option.ne_none_iff_exists'.mp held
    simp only [claim, owned, Bool.true_eq_false, ↓reduceIte, kept, storeFree]
    by_cases room : free.length < maxSkbFrags
    · simp only [room, ↓reduceIte, wrap_mod ring_positive]
      apply ih (by omega)
      · simp only [List.length_append, List.length_singleton]
        omega
      · simp only [List.length_append, List.length_singleton]
        omega
      · intro k below
        obtain ⟨later, stored⟩ := all (k + 1) (by omega)
        rw [show p + (k + 1) = p + 1 + k by omega] at later stored
        refine ⟨?_, stored⟩
        rw [TxRing.setDesc, slot_setSlot_ne _ _ _]
        · exact later
        · intro same
          have := window_inj p (by omega) (by omega) (Nat.le_refl p) (by omega) same
          omega
    · simp only [room, ↓reduceIte]

/-- A busy first walk met a descriptor of the hardware. -/
theorem claim_busy_at {left : Nat} {ring ring' : TxRing} {p f : Nat}
    (turn : left ≤ starGswMaxTfdNum)
    (busy : claim skb dev ring (p % starGswMaxTfdNum) f free left = .busy ring') :
    ∃ k, k < left ∧ (slot ring.desc ((p + k) % starGswMaxTfdNum)).cown = false := by
  induction left generalizing ring p f free with
  | zero => simp [claim] at busy
  | succ left ih =>
    simp only [claim, wrap_mod ring_positive] at busy
    split at busy
    · rename_i hardware
      exact ⟨0, by omega, by simpa using hardware⟩
    · split at busy
      · contradiction
      · obtain ⟨k, below, hardware⟩ := ih (by omega) busy
        rw [TxRing.setDesc, slot_setSlot_ne] at hardware
        · exact ⟨k + 1, by omega, by rwa [show p + (k + 1) = p + 1 + k by omega]⟩
        · intro same
          have := window_inj p (by omega) (by omega) (Nat.le_refl p) (by omega) same
          omega

/-- What the second walk writes into the descriptor of part `k`. -/
def fillDesc (skb : SkBuff) (k : Nat) (d : TxDesc) : TxDesc :=
  { d with dataPtr := (partOf skb k).1, length := (partOf skb k).2 }

/-- The fragment loop of the second walk updates one run of slots. -/
theorem fillFrags_eq {frags : List SkbFrag} {f : Nat} {ring : TxRing} {p : Nat}
    (rest : skb.frags.drop f = frags) (cur : ring.curIndex = p % starGswMaxTfdNum) :
    fillFrags skb ring f frags =
      { desc := updateRun (fillDesc skb) ring.desc ring.curIndex (f + 1) frags.length
        skbPtr := updateRun (fun k _ => ownerAt skb k) ring.skbPtr ring.curIndex (f + 1)
          frags.length
        curIndex := (p + frags.length) % starGswMaxTfdNum } := by
  induction frags generalizing f ring p with
  | nil => simp [fillFrags, updateRun, ← cur]
  | cons frag frags ih =>
    have here : skb.frags[f]? = some frag := by rw [← List.head?_drop, rest, List.head?_cons]
    have inside : f < skb.nrFrags := (List.getElem?_eq_some_iff.mp here).1
    have tail : skb.frags.drop (f + 1) = frags := by rw [← List.tail_drop, rest, List.tail_cons]
    have next : (fillSlot ring (virtToPhys (frag.pageAddress + frag.pageOffset))
        (frag.size % 2 ^ 16) (if f = skb.nrFrags - 1 then some skb else none)).curIndex =
        (p + 1) % starGswMaxTfdNum := by
      rw [fillSlot, cur, wrap_mod ring_positive]
    have last : (if f = skb.nrFrags - 1 then some skb else none) = ownerAt skb (f + 1) := by
      unfold ownerAt
      by_cases final : f = skb.nrFrags - 1
      · rw [if_pos final, if_pos (by omega)]
      · rw [if_neg final, if_neg (by omega)]
    rw [fillFrags, ih tail next, List.length_cons, updateRun, updateRun]
    simp only [fillSlot, fillDesc, partOf, here, last, show p + 1 + frags.length =
      p + (frags.length + 1) by omega]

/-- The whole second walk updates one run of slots, from the linear part on. -/
theorem fill_eq (skb : SkBuff) {ring : TxRing} {p : Nat}
    (cur : ring.curIndex = p % starGswMaxTfdNum) :
    fillFrags skb (fillLinear skb ring) 0 skb.frags =
      { desc := updateRun (fillDesc skb) ring.desc ring.curIndex 0 (skb.nrFrags + 1)
        skbPtr := updateRun (fun k _ => ownerAt skb k) ring.skbPtr ring.curIndex 0
          (skb.nrFrags + 1)
        curIndex := (p + (skb.nrFrags + 1)) % starGswMaxTfdNum } := by
  have next : (fillLinear skb ring).curIndex = (p + 1) % starGswMaxTfdNum := by
    rw [fillLinear, fillSlot, cur, wrap_mod ring_positive]
  have first : (if skb.nrFrags ≠ 0 then none else some skb) = ownerAt skb 0 := by
    unfold ownerAt
    by_cases alone : skb.nrFrags = 0
    · rw [if_neg (by omega), if_pos alone.symm]
    · rw [if_pos alone, if_neg (by omega)]
  have count : skb.frags.length = skb.nrFrags := rfl
  rw [fillFrags_eq (List.drop_zero) next, updateRun, updateRun]
  simp only [fillLinear, fillSlot, first, fillDesc, partOf, count,
    show p + 1 + skb.nrFrags = p + (skb.nrFrags + 1) by omega]

/-- The third walk clears `cown` on one run of slots. -/
theorem handOver_eq (ring : TxRing) (i j left : Nat) :
    handOver ring i left =
      { ring with desc := updateRun (fun _ d => { d with cown := false }) ring.desc i j left } := by
  induction left generalizing ring i j with
  | zero => rfl
  | succ left ih =>
    rw [handOver, ih _ _ (j + 1), updateRun]
    rfl

/-! ## One call -/

/-- The effect of a call that returned 0, with the claimed slots at positions from `p`. -/
structure Sent (before after : TxDriver) (skb : SkBuff) (p : Nat) : Prop where
  /-- Every claimed descriptor was free. -/
  ready : ∀ k, k < skb.nrFrags + 1 →
    (slot before.ring.desc ((p + k) % starGswMaxTfdNum)).cown = true
  /-- `cur_index` moves past the claimed descriptors. -/
  cur : after.ring.curIndex = (p + (skb.nrFrags + 1)) % starGswMaxTfdNum
  /-- The claimed descriptors show the frame and belong to the hardware. -/
  desc : ∀ k, k < skb.nrFrags + 1 →
    view (slot after.ring.desc ((p + k) % starGswMaxTfdNum)) = segment skb k ∧
      (slot after.ring.desc ((p + k) % starGswMaxTfdNum)).cown = false
  /-- The claimed slots keep the buffer with its last descriptor. -/
  kept : ∀ k, k < skb.nrFrags + 1 →
    slot after.ring.skbPtr ((p + k) % starGswMaxTfdNum) = ownerAt skb k
  /-- Nothing outside the claimed slots changes. -/
  frame : ∀ i, (∀ k, k < skb.nrFrags + 1 → i ≠ (p + k) % starGswMaxTfdNum) →
    slot after.ring.desc i = slot before.ring.desc i ∧
      slot after.ring.skbPtr i = slot before.ring.skbPtr i
  /-- The buffers that were kept in the claimed slots are freed. -/
  freed : after.freed = before.freed ++ (List.range (skb.nrFrags + 1)).filterMap fun k =>
    slot before.ring.skbPtr ((p + k) % starGswMaxTfdNum)
  /-- Transmit DMA is started. -/
  dma : after.tsDma = true

/-- The counters are all that `countSent` changes. -/
theorem countSent_frame (dev : NetDevice) (skb : SkBuff) (driver : TxDriver) :
    (countSent dev skb driver).ring = driver.ring ∧
      (countSent dev skb driver).tsDma = driver.tsDma := by
  unfold countSent
  split <;> exact ⟨rfl, rfl⟩

variable {driver driver' : TxDriver}

/-- A call that returns 0 ran all three walks. -/
theorem send_walks (sent : starGswSendPacket driver skb dev = .sent driver') : ∃ ring free,
      claim skb dev driver.ring driver.ring.curIndex 0 [] (skb.nrFrags + 1) = .claimed ring free ∧
      driver'.ring = handOver (fillFrags skb (fillLinear skb ring) 0 skb.frags)
        driver.ring.curIndex (skb.nrFrags + 1) ∧
      driver'.freed = driver.freed ++ free ∧ driver'.tsDma = true := by
  simp only [starGswSendPacket] at sent
  split at sent
  · contradiction
  · contradiction
  · rename_i ring free claimed
    obtain rfl := SendResult.sent.inj sent
    exact ⟨ring, free, claimed, (countSent_frame ..).1, rfl, (countSent_frame ..).2⟩

/-- The descriptor of part `k` after a call that returned 0. -/
theorem send_desc {p k : Nat} (cur : driver.ring.curIndex = p % starGswMaxTfdNum)
    (sent : starGswSendPacket driver skb dev = .sent driver') (part : k < skb.nrFrags + 1) :
    slot driver'.ring.desc ((p + k) % starGswMaxTfdNum) =
      { fillDesc skb k (claimDesc skb dev k
        (slot driver.ring.desc ((p + k) % starGswMaxTfdNum))) with cown := false } := by
  obtain ⟨ring, free, claimed, walked, _, _⟩ := send_walks sent
  have turn := parts_le skb
  rw [cur] at claimed walked
  obtain ⟨_, rfl, _⟩ := claim_claimed turn claimed
  rw [fill_eq skb (p := p) (by exact cur), handOver_eq _ _ 0] at walked
  simp only [cur] at walked
  simp only [walked, slot_updateRun _ _ _ _ turn part, Nat.zero_add]

/-- A call that returns 0 hands over the frame as `Sent` says. -/
theorem send_sent {p : Nat} (cur : driver.ring.curIndex = p % starGswMaxTfdNum)
    (sent : starGswSendPacket driver skb dev = .sent driver') : Sent driver driver' skb p := by
  obtain ⟨ring, free, claimed, walked, freed, dma⟩ := send_walks sent
  have turn := parts_le skb
  rw [cur] at claimed walked
  obtain ⟨ready, rfl, rfl⟩ := claim_claimed turn claimed
  rw [fill_eq skb (p := p) (by exact cur), handOver_eq _ _ 0] at walked
  simp only [cur] at walked
  constructor
  · exact ready
  · rw [walked]
  · intro k below
    obtain ⟨_, fs, ls⟩ := claimDesc_frame skb dev k
      (slot driver.ring.desc ((p + k) % starGswMaxTfdNum))
    rw [send_desc cur sent below]
    simp only [view, fillDesc, segment, fs, ls, and_self]
  · intro k below
    simp only [walked, slot_updateRun _ _ _ _ turn below, Nat.zero_add]
  · intro i outside
    simp only [walked, slot_updateRun_ne _ _ _ _ _ ring_positive outside, and_self]
  · rw [freed, List.nil_append]
  · exact dma

/-- A call that returns 1 leaves the position, the kept buffers, every ownership bit, every
descriptor of the hardware and the freed buffers as they were; transmit DMA is stopped. -/
theorem send_busy (busy : starGswSendPacket driver skb dev = .busy driver') :
    driver'.ring.curIndex = driver.ring.curIndex ∧ driver'.ring.skbPtr = driver.ring.skbPtr ∧
      (∀ i, (slot driver'.ring.desc i).cown = (slot driver.ring.desc i).cown) ∧
      (∀ i, (slot driver.ring.desc i).cown = false →
        slot driver'.ring.desc i = slot driver.ring.desc i) ∧
      driver'.freed = driver.freed ∧ driver'.tsDma = false := by
  simp only [starGswSendPacket] at busy
  split at busy
  · rename_i ring claimed
    obtain rfl := SendResult.busy.inj busy
    obtain ⟨index, kept, owned, same⟩ := claim_busy claimed
    exact ⟨index, kept, owned, same, rfl, rfl⟩
  · contradiction
  · contradiction

/-! ## Runs -/

/-- The ring shows the last turn of the sequence, of which the hardware has completed
`done` segments. -/
structure Represents (w : TxWorld) (done : Nat) : Prop where
  /-- `cur_index` is the slot of the next segment. -/
  cur : w.driver.ring.curIndex = (sequence w).length % starGswMaxTfdNum
  /-- The hardware is at the slot of the first segment that is not completed. -/
  pos : w.tssd = done % starGswMaxTfdNum
  /-- The processor owns the slots from the next segment up to a turn past the completed ones. -/
  owned : Owned starGswMaxTfdNum (sequence w).length (done + starGswMaxTfdNum)
    fun i => (slot w.driver.ring.desc i).cown
  /-- Segments that are not completed are shown by their descriptors. -/
  shown : ∀ q, done ≤ q → q < (sequence w).length →
    (sequence w)[q]? = some (view (slot w.driver.ring.desc (q % starGswMaxTfdNum)))
  /-- A slot keeps the buffer of the segment a turn before the one it waits for. -/
  kept : ∀ p, (sequence w).length ≤ p → p < (sequence w).length + starGswMaxTfdNum →
    slot w.driver.ring.skbPtr (p % starGswMaxTfdNum) =
      if p < starGswMaxTfdNum then none else (keepers w)[p - starGswMaxTfdNum]?.join
  /-- Freed are the buffers of the segments that no slot shows any more. -/
  freed : w.driver.freed = ((keepers w).take ((sequence w).length - starGswMaxTfdNum)).filterMap id
  /-- No buffer was accepted twice. -/
  distinct : (w.accepted.map SkBuff.id).Nodup

/-- The ring after `star_gsw_buffer_alloc` shows the empty sequence. -/
theorem represents_init : Represents txInit 0 where
  cur := rfl
  pos := rfl
  owned := by
    have full : Owned starGswMaxTfdNum 0 starGswMaxTfdNum
        fun i => (slot txInit.driver.ring.desc i).cown :=
      Owned.full fun i inside => by simp [txInit, txRingAlloc, slot_ofFn _ inside]
    simpa [sequence, txInit] using full
  shown q _ below := by simp [sequence, txInit] at below
  kept p _ below := by
    simp only [sequence, txInit, List.flatMap_nil, List.length_nil, Nat.zero_add] at below
    rw [if_pos below]
    simp [txInit, txRingAlloc, slot, Nat.mod_eq_of_lt below, below]
  freed := by simp [txInit, keepers, sequence]
  distinct := by simp [txInit]

/-- The hardware completes the first segment that is not completed. -/
theorem represents_complete {w w' : TxWorld} {done : Nat} (rep : Represents w done)
    (stepped : hwComplete w = some w') : Represents w' (done + 1) := by
  simp only [hwComplete] at stepped
  split at stepped
  · contradiction
  · rename_i hardware
    cases stepped
    have inside : w.tssd < starGswMaxTfdNum := rep.pos ▸ Nat.mod_lt _ ring_positive
    have slot_eq : w.tssd = (done + starGswMaxTfdNum) % starGswMaxTfdNum := by
      rw [turn_mod, rep.pos]
    have room : done < (sequence w).length := by
      have flag := rep.owned.returner ring_positive
      simp only [← slot_eq, Bool.eq_false_iff.mpr hardware] at flag
      have := rep.owned.turn
      simp only [Bool.false_eq, decide_eq_false_iff_not] at flag
      omega
    have elsewhere : ∀ i, i ≠ w.tssd → slot (setSlot w.driver.ring.desc w.tssd
        { slot w.driver.ring.desc w.tssd with cown := true }) i = slot w.driver.ring.desc i :=
      fun i other => slot_setSlot_ne _ other _
    refine ⟨rep.cur, ?_, ?_, ?_, rep.kept, rep.freed, rep.distinct⟩
    · rw [rep.pos, wrap_mod ring_positive]
    · rw [show done + 1 + starGswMaxTfdNum = done + starGswMaxTfdNum + 1 by omega]
      apply rep.owned.give (by omega)
      · rw [← slot_eq, TxRing.setDesc, slot_setSlot_self _ inside]
      · intro i _ other
        rw [TxRing.setDesc, elsewhere i (by rw [slot_eq]; exact other)]
    · intro q above below
      change q < (sequence w).length at below
      have other : q % starGswMaxTfdNum ≠ w.tssd := by
        intro same
        have turn := rep.owned.le
        have := window_inj done (by omega) (by omega) (Nat.le_refl done)
          (by have := ring_positive; omega) (same.trans rep.pos)
        omega
      rw [TxRing.setDesc, elsewhere _ other]
      exact rep.shown q (by omega) below

/-- A segment that is not completed belongs to the hardware. -/
theorem Represents.hardware {w : TxWorld} {done : Nat} (rep : Represents w done) {q : Nat}
    (above : done ≤ q) (below : q < (sequence w).length) :
    (slot w.driver.ring.desc (q % starGswMaxTfdNum)).cown = false := by
  have turn := rep.owned.le
  have flag := rep.owned.flags (q + starGswMaxTfdNum) (by omega) (by omega)
  rw [turn_mod] at flag
  rw [flag]
  simp only [decide_eq_false_iff_not]
  omega

/-- A call that returns 1 leaves the ring showing the same sequence. -/
theorem represents_busy {w : TxWorld} {done : Nat} (rep : Represents w done) {driver : TxDriver}
    (busy : starGswSendPacket w.driver skb dev = .busy driver) :
    Represents { w with driver := driver } done := by
  obtain ⟨cur, kept, owned, same, freed, _⟩ := send_busy busy
  refine ⟨cur.trans rep.cur, rep.pos, rep.owned.congr fun i _ => owned i, ?_, ?_, ?_, rep.distinct⟩
  · intro q above below
    change _ = some (view (slot driver.ring.desc (q % starGswMaxTfdNum)))
    rw [same _ (rep.hardware above below)]
    exact rep.shown q above below
  · intro p above below
    change slot driver.ring.skbPtr _ = _
    rw [kept]
    exact rep.kept p above below
  · exact freed.trans rep.freed

section Appending

variable {w : TxWorld} {done : Nat} (rep : Represents w done) {skb : SkBuff}
  {driver : TxDriver} (effect : Sent w.driver driver skb (sequence w).length)

include rep effect

/-- The claimed descriptors were free, so the hardware is less than a turn behind. -/
theorem sent_room : (sequence w).length + (skb.nrFrags + 1) ≤ done + starGswMaxTfdNum := by
  have turn := parts_le skb
  have le := rep.owned.le
  have ahead := rep.owned.turn
  have flag := rep.owned.flags ((sequence w).length + skb.nrFrags) (by omega) (by omega)
  rw [effect.ready skb.nrFrags (by omega)] at flag
  simp only [true_eq_decide_iff] at flag
  omega

/-- Old segments are still shown, and the new ones are. -/
theorem sent_shown {q : Nat} (above : done ≤ q)
    (below : q < (sequence w).length + (skb.nrFrags + 1)) :
    (sequence w ++ segments skb)[q]? =
      some (view (slot driver.ring.desc (q % starGswMaxTfdNum))) := by
  have room := sent_room rep effect
  by_cases old : q < (sequence w).length
  · rw [List.getElem?_append_left old, rep.shown q above old, (effect.frame _ _).1]
    intro k inside same
    have position := window_inj done above (by omega) (by omega) (by omega) same
    omega
  · obtain ⟨k, place⟩ := Nat.exists_eq_add_of_le (Nat.le_of_not_lt old)
    rw [place, List.getElem?_append_right (by omega), Nat.add_sub_cancel_left,
      (effect.desc k (by omega)).1, segments, List.getElem?_map, List.getElem?_range (by omega)]
    rfl

/-- The slots keep the buffers of the last turn of the longer sequence. -/
theorem sent_kept {p : Nat} (above : (sequence w).length + (skb.nrFrags + 1) ≤ p)
    (below : p < (sequence w).length + (skb.nrFrags + 1) + starGswMaxTfdNum) :
    slot driver.ring.skbPtr (p % starGswMaxTfdNum) =
      if p < starGswMaxTfdNum then none
      else (keepers w ++ owners skb)[p - starGswMaxTfdNum]?.join := by
  have lengths := length_keepers w
  by_cases old : p < (sequence w).length + starGswMaxTfdNum
  · rw [(effect.frame _ _).2, rep.kept p (by omega) old]
    · by_cases first : p < starGswMaxTfdNum
      · rw [if_pos first, if_pos first]
      · rw [if_neg first, if_neg first, List.getElem?_append_left (by omega)]
    · intro k inside same
      have position := window_inj (sequence w).length (by omega) (by omega) (by omega) (by omega)
        same
      omega
  · -- a slot that was claimed by the call
    obtain ⟨k, place⟩ := Nat.exists_eq_add_of_le (Nat.le_of_not_lt old)
    have turned : p = (sequence w).length + k + starGswMaxTfdNum := by omega
    rw [turned, turn_mod, effect.kept k (by omega), if_neg (by omega), Nat.add_sub_cancel,
      List.getElem?_append_right (by omega), lengths, Nat.add_sub_cancel_left, owners,
      List.getElem?_map, List.getElem?_range (by omega)]
    rfl

/-- Freed are the buffers that the claimed slots kept. -/
theorem sent_freed : driver.freed = ((keepers w ++ owners skb).take
    ((sequence w).length + (skb.nrFrags + 1) - starGswMaxTfdNum)).filterMap id := by
  have turn := parts_le skb
  have lengths := length_keepers w
  have collected : (List.range (skb.nrFrags + 1)).filterMap (fun k =>
        slot w.driver.ring.skbPtr (((sequence w).length + k) % starGswMaxTfdNum)) =
      (List.range (skb.nrFrags + 1)).filterMap fun k =>
        if (keepers w).length + k < starGswMaxTfdNum then none
        else (keepers w)[(keepers w).length + k - starGswMaxTfdNum]?.join := by
    apply List.filterMap_congr
    intro k inside
    rw [List.mem_range] at inside
    rw [rep.kept _ (by omega) (by omega), lengths]
  rw [effect.freed, rep.freed, collected, ← lengths, ← take_window,
    List.take_append_of_le_length (by omega)]

end Appending

/-- A call that returns 0 appends the segments of its frame to the sequence. -/
theorem represents_sent {w : TxWorld} {done : Nat} (rep : Represents w done) {driver : TxDriver}
    (fresh : skb.id ∉ w.accepted.map SkBuff.id)
    (sent : starGswSendPacket w.driver skb dev = .sent driver) :
    Represents { w with driver := driver, accepted := w.accepted ++ [skb] } done := by
  have effect := send_sent rep.cur sent
  have sequence_eq : sequence { w with driver := driver, accepted := w.accepted ++ [skb] } =
      sequence w ++ segments skb := by simp [sequence]
  have keepers_eq : keepers { w with driver := driver, accepted := w.accepted ++ [skb] } =
      keepers w ++ owners skb := by simp [keepers]
  have length_eq : (sequence { w with driver := driver, accepted := w.accepted ++ [skb] }).length =
      (sequence w).length + (skb.nrFrags + 1) := by
    rw [sequence_eq, List.length_append, length_segments]
  constructor
  · rw [length_eq]
    exact effect.cur
  · exact rep.pos
  · rw [length_eq]
    exact rep.owned.takeRun (sent_room rep effect) (fun k below => (effect.desc k below).2)
      fun i outside => by rw [(effect.frame i outside).1]
  · intro q above below
    rw [length_eq] at below
    rw [sequence_eq]
    exact sent_shown rep effect above below
  · intro p above below
    rw [length_eq] at above below
    rw [keepers_eq]
    exact sent_kept rep effect above below
  · rw [length_eq, keepers_eq]
    exact sent_freed rep effect
  · rw [List.map_append, List.nodup_append]
    refine ⟨rep.distinct, by simp, ?_⟩
    intro id old other new
    simp only [List.map_cons, List.map_nil, List.mem_singleton] at new
    rw [new]
    exact fun same => fresh (same ▸ old)

end Fvs318g.Verif.Transmit
