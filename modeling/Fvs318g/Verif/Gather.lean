import Fvs318g.Verif.BrcmTag

/-!
# What the transmit descriptors make the hardware read

The descriptors of an accepted frame, in ring order, spell its linear part and its fragments,
and they agree in what the switch does with the frame. The VLAN field of a descriptor is written
only when a tag is inserted, so a frame that goes out by port map keeps whatever group the
descriptors had from earlier frames.

Two smaller facts belong to the same walk. The finished buffers it meets are stored into
`skb_free`, one for each descriptor at most, which is one more than the array has entries. And a
linear frame below the minimal length is sent with that length, whatever lies behind its data.
-/

namespace Fvs318g.Verif.Gather

open Kernel Lib Gsw Transmit TransmitRuns
open BrcmTag (frame linearLength_linear linearSkb linearSkb_linear linear_reads)

/-! ## Descriptors of one frame -/

/-- The part of the frame that a descriptor of it makes the hardware read. -/
def partBytes (m : Memory) (skb : SkBuff) : Nat → List UInt8
  | 0 => bytes m skb.data skb.headlen
  | j + 1 =>
    match skb.frags[j]? with
    | some frag => bytes m (frag.pageAddress + frag.pageOffset) frag.size
    | none => []

/-- The parts of the buffer are at 32-bit addresses and fit the length field of a descriptor; a
buffer without fragments has the minimal length. -/
structure Sendable (skb : SkBuff) : Prop where
  /-- The linear part is in memory. -/
  data : skb.data < 2 ^ 32
  /-- The linear part fits. -/
  headlen : skb.headlen < 2 ^ 16
  /-- A buffer without fragments is not short. -/
  minimal : skb.nrFrags = 0 → minPacketLen ≤ skb.headlen
  /-- The fragments are in memory and fit. -/
  frags : ∀ frag ∈ skb.frags, frag.pageAddress + frag.pageOffset < 2 ^ 32 ∧ frag.size < 2 ^ 16

/-- What the hardware reads for part `k`. -/
theorem hwFrame_part {skb : SkBuff} (sendable : Sendable skb) (m : Memory) {d : TxDesc} {k : Nat}
    (part : k < skb.nrFrags + 1) (pointer : d.dataPtr = (partOf skb k).1)
    (length : d.length = (partOf skb k).2) : hwFrame m d = partBytes m skb k := by
  cases k with
  | zero =>
    have whole : linearLength skb = skb.headlen := by
      have fits := Nat.mod_eq_of_lt sendable.headlen
      have enough := sendable.minimal
      rw [linearLength, if_neg (by omega), fits]
    rw [hwFrame, pointer, length, partOf, partBytes, whole, physToVirt_virtToPhys _ sendable.data]
  | succ j =>
    have inside : j < skb.frags.length := Nat.lt_of_succ_lt_succ part
    have found : skb.frags[j]? = some skb.frags[j] := List.getElem?_eq_getElem inside
    obtain ⟨place, fits⟩ := sendable.frags skb.frags[j] (List.getElem_mem inside)
    rw [hwFrame, pointer, length]
    simp only [partOf, partBytes, found, physToVirt_virtToPhys _ place, Nat.mod_eq_of_lt fits]

/-- The parts of a buffer, one after the other, are its bytes. -/
theorem parts_bytes (m : Memory) (skb : SkBuff) :
    (List.range (skb.nrFrags + 1)).flatMap (partBytes m skb) =
      bytes m skb.data skb.headlen ++
        skb.frags.flatMap fun frag => bytes m (frag.pageAddress + frag.pageOffset) frag.size := by
  have fragments : (List.range skb.nrFrags).flatMap (fun j => partBytes m skb (j + 1)) =
      skb.frags.flatMap fun frag => bytes m (frag.pageAddress + frag.pageOffset) frag.size := by
    simp only [SkBuff.nrFrags, partBytes]
    induction skb.frags with
    | nil => rfl
    | cons frag frags later =>
      rw [List.length_cons, List.range_succ_eq_map, List.flatMap_cons, List.flatMap_map,
        List.flatMap_cons]
      simp only [List.getElem?_cons_zero, List.getElem?_cons_succ, later]
  rw [List.range_succ_eq_map, List.flatMap_cons, List.flatMap_map, fragments]
  rfl

/-! ## Settings -/

/-- What a descriptor says about the handling of its frame. -/
structure TxSettings where
  /-- The port map. -/
  pmap : Nat
  /-- A VLAN tag is inserted. -/
  insv : Bool
  /-- The VLAN group. -/
  vid : Option Nat
  /-- IP checksum offload. -/
  ico : Bool
  /-- UDP checksum offload. -/
  uco : Bool
  /-- TCP checksum offload. -/
  tco : Bool
  deriving DecidableEq

/-- The settings as the fields of the descriptor have them. -/
def written (d : TxDesc) : TxSettings := ⟨d.pmap, d.insv, some d.vid, d.ico, d.uco, d.tco⟩

/-- The settings that the switch follows: the group matters only for a tag. -/
def followed (d : TxDesc) : TxSettings :=
  { written d with vid := if d.insv then some d.vid else none }

/-- The first walk decides the settings from the buffer and the device alone. -/
theorem followed_claimDesc (skb : SkBuff) (dev : NetDevice) (k : Nat) (d : TxDesc) :
    followed (claimDesc skb dev k d) = followed (claimDesc skb dev 0 {}) := by
  have bits (d : TxDesc) : ((checksumBits skb d).ico, (checksumBits skb d).uco,
      (checksumBits skb d).tco) = ((checksumBits skb {}).ico, (checksumBits skb {}).uco,
      (checksumBits skb {}).tco) := by
    simp only [checksumBits]
    split
    · split
      · rfl
      · split
        · rfl
        · rfl
    · rfl
  have first := bits { d with fs := k == 0, ls := k == skb.nrFrags }
  have second := bits { fs := true, ls := 0 == skb.nrFrags }
  simp only [Prod.mk.injEq] at first second
  by_cases vlan : dev.pmap = -1
  · simp [followed, written, claimDesc, routeBits, vlan, first, second]
  · simp [followed, written, claimDesc, routeBits, vlan, first, second]

/-! ## The law -/

/-- `cur_index` stays in the ring. -/
theorem cur_lt {w : TxWorld} (reached : txSystem.Reachable (some w)) :
    w.driver.ring.curIndex < starGswMaxTfdNum := by
  have law : ∀ s, txSystem.Reachable s → ∀ w, s = some w →
      w.driver.ring.curIndex < starGswMaxTfdNum := by
    intro s reached
    refine reached.invariant (fun s start w same => ?_) (fun s e s' held stepped w' same => ?_)
    · obtain rfl : w = txInit := Option.some.inj (same.symm.trans start)
      decide
    · cases s with
      | none => simp [txSystem, txStep] at stepped
      | some w =>
        have inside := held w rfl
        cases e with
        | send skb dev =>
          simp only [txSystem, txStep] at stepped
          split at stepped
          · contradiction
          · split at stepped
            · rename_i driver busy
              rw [← Option.some.inj stepped, Option.some.injEq] at same
              rw [← same, (send_busy busy).1]
              exact inside
            · rename_i driver sent
              rw [← Option.some.inj stepped, Option.some.injEq] at same
              have moved := (send_sent (Nat.mod_eq_of_lt inside).symm sent).cur
              rw [← same, moved]
              exact Nat.mod_lt _ ring_positive
            · rw [← Option.some.inj stepped] at same
              contradiction
        | complete =>
          simp only [txSystem, txStep, hwComplete, Option.map_eq_some_iff] at stepped
          obtain ⟨after, completed, result⟩ := stepped
          split at completed
          · contradiction
          · rw [← result, Option.some.injEq] at same
            rw [← same, ← Option.some.inj completed]
            exact inside
        | timeout =>
          simp only [txSystem, txStep, Option.some.injEq] at stepped
          rw [← stepped, Option.some.injEq] at same
          rw [← same]
          exact inside
  exact law _ reached w rfl

/-- What a call that returned 0 handed over, in ring order from the old `cur_index`: the bytes of
the buffer, in descriptors with the same settings, beside the untouched ones of the hardware. -/
structure Faithful (settings : TxDesc → TxSettings) (before after : TxDriver) (skb : SkBuff) :
    Prop where
  /-- The hardware reads the buffer. -/
  reads : ∀ m, ((List.range (skb.nrFrags + 1)).flatMap fun k =>
      hwFrame m (slot after.ring.desc ((before.ring.curIndex + k) % starGswMaxTfdNum))) =
    bytes m skb.data skb.headlen ++
      skb.frags.flatMap fun frag => bytes m (frag.pageAddress + frag.pageOffset) frag.size
  /-- The descriptors agree in their settings. -/
  agree : ∀ j k, j ≤ skb.nrFrags → k ≤ skb.nrFrags →
    settings (slot after.ring.desc ((before.ring.curIndex + j) % starGswMaxTfdNum)) =
      settings (slot after.ring.desc ((before.ring.curIndex + k) % starGswMaxTfdNum))
  /-- The descriptors of the hardware are not changed. -/
  kept : ∀ i, (slot before.ring.desc i).cown = false →
    slot after.ring.desc i = slot before.ring.desc i

/-- An accepted frame is handed over faithfully, with the settings that the switch follows. -/
theorem sent_faithfully {w : TxWorld} (reached : txSystem.Reachable (some w)) {skb : SkBuff}
    {dev : NetDevice} {driver : TxDriver} (sendable : Sendable skb)
    (sent : starGswSendPacket w.driver skb dev = .sent driver) :
    Faithful followed w.driver driver skb := by
  have cur : w.driver.ring.curIndex = w.driver.ring.curIndex % starGswMaxTfdNum :=
    (Nat.mod_eq_of_lt (cur_lt reached)).symm
  have effect := send_sent cur sent
  have settings (k : Nat) (part : k ≤ skb.nrFrags) :
      followed (slot driver.ring.desc ((w.driver.ring.curIndex + k) % starGswMaxTfdNum)) =
        followed (claimDesc skb dev 0 {}) := by
    rw [send_desc cur sent (Nat.lt_succ_of_le part), ← followed_claimDesc skb dev k]
    rfl
  constructor
  · intro m
    rw [← parts_bytes]
    apply List.flatMap_congr
    intro k inside
    have part := List.mem_range.mp inside
    have shown := (effect.desc k part).1
    exact hwFrame_part sendable m part (congrArg TxSegment.dataPtr shown)
      (congrArg TxSegment.length shown)
  · intro j k first second
    rw [settings j first, settings k second]
  · intro i hardware
    have outside : ∀ k, k < skb.nrFrags + 1 →
        i ≠ (w.driver.ring.curIndex + k) % starGswMaxTfdNum := by
      intro k part same
      have ready := effect.ready k part
      rw [← same, hardware] at ready
      contradiction
    exact (effect.frame i outside).1

/-- Two fragments are allowed. -/
theorem two_fit : 2 ≤ maxSkbFrags := by decide

/-- Three fragments are allowed. -/
theorem three_fit : 3 ≤ maxSkbFrags := by decide

/-- Eighteen fragments are the most that are allowed. -/
theorem most_fit : 18 ≤ maxSkbFrags := Nat.le_refl _

/-- A buffer of 100-byte parts can be sent. -/
theorem fragmented_sendable (id n : Nat) (bound : n ≤ maxSkbFrags) :
    Sendable (fragmented id n bound) := by
  have headlen : (fragmented id n bound).headlen = 100 := by
    simp only [SkBuff.headlen, fragmented]
    omega
  constructor
  · exact (by decide : 0xC0100010 < 2 ^ 32)
  · rw [headlen]
    decide
  · intro _
    rw [headlen]
    decide
  · intro frag inside
    obtain ⟨_, rfl⟩ := List.mem_replicate.mp inside
    decide

/-- The law at the first frame, with two fragments. -/
theorem sent_faithfully_two_fragments : ∃ driver,
    starGswSendPacket txInit.driver (fragmented 0 2 (by decide)) lanDev = .sent driver ∧
      Faithful followed txInit.driver driver (fragmented 0 2 (by decide)) := by
  have accepted : (match starGswSendPacket txInit.driver (fragmented 0 2 (by decide)) lanDev with
      | .sent _ => true
      | _ => false) = true := by decide +kernel
  split at accepted
  · rename_i driver sent
    exact ⟨driver, sent, sent_faithfully (.init rfl) (fragmented_sendable ..) sent⟩
  · contradiction

/-- A device whose frames are routed by VLAN: the LAN and the WAN device of the board DORADO2. -/
def vlanDev (wan : Bool) : NetDevice := ⟨wan, -1⟩

/-- A device whose frames are routed by port map: the third device of the board DORADO2. -/
def portDev : NetDevice := ⟨false, 2⟩

/-- A LAN frame, WAN frames in the rest of the ring, and two completions. -/
def mixedTrace : List TxEvent :=
  [.send (fragmented 0 0 (Nat.zero_le _)) (vlanDev false)] ++
    (List.range 4).map (fun id => .send (fragmented (id + 1) 18 most_fit) (vlanDev true)) ++
    [.send (fragmented 5 2 two_fit) (vlanDev true), .complete, .complete]

/-- The two descriptors of a frame that goes out by port map keep the groups of the frames
before. Of the boards only DORADO2 has devices of both kinds. -/
theorem group_differs : ¬∀ (w : TxWorld) (skb : SkBuff) (dev : NetDevice) (driver : TxDriver),
    txSystem.Reachable (some w) → Sendable skb →
      starGswSendPacket w.driver skb dev = .sent driver →
      Faithful written w.driver driver skb := by
  intro always
  have ran : ((txSystem.run (some txInit) mixedTrace).bind id).any (fun w =>
      match starGswSendPacket w.driver (fragmented 6 1 (by decide)) portDev with
      | .sent driver => decide (
          written (slot driver.ring.desc ((w.driver.ring.curIndex + 0) % starGswMaxTfdNum)) ≠
            written (slot driver.ring.desc ((w.driver.ring.curIndex + 1) % starGswMaxTfdNum)))
      | _ => false) = true := by decide +kernel
  simp only [Option.any_eq_true, Option.bind_eq_some_iff, id_eq, exists_eq_right] at ran
  obtain ⟨w, ended, differs⟩ := ran
  have reached : txSystem.Reachable (some w) := System.reachable_of_run (.init rfl) ended
  split at differs
  · rename_i driver sent
    have law := always w _ portDev driver reached (fragmented_sendable ..) sent
    have same := law.agree 0 1 (Nat.zero_le _) (Nat.le_refl 1)
    rw [decide_eq_true_eq] at differs
    exact differs same
  · exact absurd differs Bool.false_ne_true

/-! ## The list of buffers to free -/

/-- The stores into `skb_free` of a first walk over `left` descriptors: one for each kept buffer
that it meets, up to the first descriptor of the hardware. -/
def freeStores (ring : TxRing) (curIndex : Nat) : Nat → Nat
  | 0 => 0
  | left + 1 =>
    if (slot ring.desc curIndex).cown = false then 0
    else (if (slot ring.skbPtr curIndex).isSome then 1 else 0) +
      freeStores ring (wrap starGswMaxTfdNum curIndex) left

/-- The stores depend on the ownership bits and the kept buffers only. -/
theorem freeStores_congr {ring ring' : TxRing} {i left : Nat}
    (owned : ∀ j, (slot ring'.desc j).cown = (slot ring.desc j).cown)
    (kept : ring'.skbPtr = ring.skbPtr) : freeStores ring' i left = freeStores ring i left := by
  induction left generalizing i with
  | zero => rfl
  | succ left later => rw [freeStores, freeStores, owned, kept, later]

/-- The first walk stores what it is said to store: it overruns the array when there is more,
and else collects as many buffers. -/
theorem claim_stores (skb : SkBuff) (dev : NetDevice) (ring : TxRing) (i f left : Nat)
    {free : List SkBuff} (room : free.length ≤ maxSkbFrags) :
    (claim skb dev ring i f free left = .overrun ↔
        maxSkbFrags < free.length + freeStores ring i left) ∧
      ∀ ring' free', claim skb dev ring i f free left = .claimed ring' free' →
        free'.length = free.length + freeStores ring i left := by
  induction left generalizing ring i f free with
  | zero =>
    refine ⟨by simp [claim, freeStores, room], ?_⟩
    intro ring' free' claimed
    rw [← (Claim.claimed.inj claimed).2]
    rfl
  | succ left later =>
    -- the descriptor that was written keeps its ownership bit
    have same : freeStores (ring.setDesc i (claimDesc skb dev f (slot ring.desc i)))
        (wrap starGswMaxTfdNum i) left = freeStores ring (wrap starGswMaxTfdNum i) left :=
      freeStores_congr
        (fun j => slot_setSlot_congr _ _ TxDesc.cown (claimDesc_frame skb dev f _).1 j) rfl
    by_cases hardware : (slot ring.desc i).cown = false
    · simp [claim, freeStores, hardware, room]
    · cases kept : slot ring.skbPtr i with
      | none =>
        have rest := later (ring.setDesc i (claimDesc skb dev f (slot ring.desc i)))
          (wrap starGswMaxTfdNum i) (f + 1) room
        simp only [claim, hardware, if_false, kept, storeFree, freeStores, Option.isSome_none,
          Bool.false_eq_true, Nat.zero_add, ← same]
        exact rest
      | some finished =>
        simp only [claim, hardware, kept, storeFree, freeStores, Option.isSome_some, if_true]
        by_cases space : free.length < maxSkbFrags
        · have longer : (free ++ [finished]).length ≤ maxSkbFrags := by
            rw [List.length_append, List.length_singleton]
            exact space
          have rest := later (ring.setDesc i (claimDesc skb dev f (slot ring.desc i)))
            (wrap starGswMaxTfdNum i) (f + 1) longer
          rw [same, List.length_append, List.length_singleton, Nat.add_assoc] at rest
          simp only [space, if_true]
          exact rest
        · simp only [space, if_false, true_iff, reduceCtorEq, false_implies, implies_true, and_true]
          omega

/-- The stores of one call. -/
def sendStores (driver : TxDriver) (skb : SkBuff) : Nat :=
  freeStores driver.ring driver.ring.curIndex (skb.nrFrags + 1)

/-- A call is undefined exactly when it stores more than the array holds. -/
theorem overrun_iff_stores (driver : TxDriver) (skb : SkBuff) (dev : NetDevice) :
    starGswSendPacket driver skb dev = .overrun ↔ maxSkbFrags < sendStores driver skb := by
  have empty : ([] : List SkBuff).length ≤ maxSkbFrags := Nat.zero_le _
  have walk := (claim_stores skb dev driver.ring driver.ring.curIndex 0 (skb.nrFrags + 1) empty).1
  rw [List.length_nil, Nat.zero_add] at walk
  rw [sendStores, ← walk]
  simp only [starGswSendPacket]
  split
  · rename_i claimed
    simp [claimed]
  · rename_i claimed
    simp [claimed]
  · rename_i claimed
    simp [claimed]

/-- The stores of a call fit the array unless the buffer has the most fragments and every
descriptor that it needs keeps a finished buffer. -/
theorem free_list_fits_iff {w : TxWorld} (reached : txSystem.Reachable (some w)) (skb : SkBuff) :
    sendStores w.driver skb ≤ maxSkbFrags ↔
      ¬(skb.nrFrags = maxSkbFrags ∧ AllFinished w.driver skb) := by
  have overrun : starGswSendPacket w.driver skb lanDev = .overrun ↔
      skb.nrFrags = maxSkbFrags ∧ AllFinished w.driver skb := send_overrun_iff (cur_lt reached)
  rw [← overrun, overrun_iff_stores, Nat.not_lt]

/-- Nineteen linear frames, fragmented ones in the rest of the ring, and the linear ones
completed. -/
def finishedTrace : List TxEvent :=
  (List.range 19).map (fun id => .send (fragmented id 0 (Nat.zero_le _)) lanDev) ++
    (List.range 3).map (fun id => .send (fragmented (id + 19) 18 most_fit) lanDev) ++
    [.send (fragmented 22 3 three_fit) lanDev] ++ List.replicate 19 .complete

/-- The stores of two calls behind that run. -/
theorem finished_stores : ∃ w, txSystem.Reachable (some w) ∧
    sendStores w.driver (fragmented 23 17 (by decide)) = 18 ∧
      sendStores w.driver (fragmented 23 18 most_fit) = 19 := by
  have ran : ((txSystem.run (some txInit) finishedTrace).bind id).any (fun w =>
      decide (sendStores w.driver (fragmented 23 17 (by decide)) = 18 ∧
        sendStores w.driver (fragmented 23 18 most_fit) = 19)) = true := by decide +kernel
  simp only [Option.any_eq_true, Option.bind_eq_some_iff, id_eq, exists_eq_right,
    decide_eq_true_eq] at ran
  obtain ⟨w, ended, stores⟩ := ran
  exact ⟨w, System.reachable_of_run (.init rfl) ended, stores⟩

/-- The law where every descriptor that the frame needs keeps a finished buffer: the stores of a
frame with one fragment less fill the array. -/
theorem free_list_fits_finished : ∃ w, txSystem.Reachable (some w) ∧
    sendStores w.driver (fragmented 23 17 (by decide)) = 18 ∧
      sendStores w.driver (fragmented 23 17 (by decide)) ≤ maxSkbFrags := by
  obtain ⟨w, reached, stores, _⟩ := finished_stores
  refine ⟨w, reached, stores, (free_list_fits_iff reached _).mpr ?_⟩
  intro unfit
  exact absurd unfit.1 (by decide)

/-- A frame with the most fragments stores one buffer more than the array holds. -/
theorem free_list_overrun : ¬∀ (w : TxWorld) (skb : SkBuff), txSystem.Reachable (some w) →
    sendStores w.driver skb ≤ maxSkbFrags := by
  intro always
  obtain ⟨w, reached, _, stores⟩ := finished_stores
  have fits := always w (fragmented 23 18 most_fit) reached
  rw [stores] at fits
  exact absurd fits (by decide)

/-! ## Bytes behind a short frame -/

/-- The frame that the hardware sends for a linear buffer depends on the bytes of the frame
alone, whatever a second buffer with the same frame has behind it. -/
def NothingStale (driver driver' : TxDriver) (skb : SkBuff) (dev : NetDevice) : Prop :=
  ∀ (other : SkBuff) (after : TxDriver) (m m' : Memory), other.Linear → other.len = skb.len →
    starGswSendPacket driver other dev = .sent after → frame m' other = frame m skb →
      hwFrame m' (slot after.ring.desc driver.ring.curIndex) =
        hwFrame m (slot driver'.ring.desc driver.ring.curIndex)

/-- Nothing behind the frame is sent if and only if the frame has the minimal length. -/
theorem nothing_stale_iff {driver driver' : TxDriver} {skb : SkBuff} {dev : NetDevice}
    (cur : driver.ring.curIndex < starGswMaxTfdNum) (linear : skb.Linear)
    (sent : starGswSendPacket driver skb dev = .sent driver') :
    NothingStale driver driver' skb dev ↔ minPacketLen ≤ skb.len := by
  constructor
  · intro clean
    by_contra short
    have inside : skb.len < 60 := Nat.lt_of_not_le short
    -- the same buffer in two memories that differ in the first byte behind the frame
    have differs := clean skb driver' (fun _ => 0)
      (fun a => if a = skb.data + skb.len then 1 else 0) linear rfl sent (by
        apply bytes_congr
        intro i inside
        exact if_neg (by omega))
    rw [linear_reads cur linear sent, linear_reads cur linear sent, linearLength_linear linear,
      if_pos inside] at differs
    have entry := congrArg (fun l => l[skb.len]?) differs
    simp only [getElem?_bytes _ _ inside, if_true, Option.some.injEq] at entry
    exact absurd entry (by decide)
  · intro enough other after m m' linear' length sent' same
    have long : ¬skb.len < 60 := Nat.not_lt_of_le enough
    rw [linear_reads cur linear sent, linear_reads cur linear' sent', linearLength_linear linear,
      linearLength_linear linear', length, if_neg long,
      ← take_bytes m _ (Nat.mod_le skb.len (2 ^ 16)),
      ← take_bytes m' _ (Nat.mod_le skb.len (2 ^ 16))]
    simp only [frame, length] at same
    rw [same]

/-- The law at a frame of 60 bytes. -/
theorem nothing_stale_sixty : ∃ driver,
    starGswSendPacket txInit.driver linearSkb lanDev = .sent driver ∧
      NothingStale txInit.driver driver linearSkb lanDev := by
  have accepted : (match starGswSendPacket txInit.driver linearSkb lanDev with
      | .sent _ => true
      | _ => false) = true := by decide +kernel
  split at accepted
  · rename_i driver sent
    have law := nothing_stale_iff (by decide) linearSkb_linear sent
    exact ⟨driver, sent, law.mpr (by decide)⟩
  · contradiction

/-- A frame of 42 bytes in a buffer with room behind it. -/
def arpSkb : SkBuff := { linearSkb with tail := 0xC010006A, len := 42 }

/-- The bytes behind a frame of 42 bytes go out with it. -/
theorem stale_bytes_sent : ¬∀ (w : TxWorld) (skb : SkBuff) (dev : NetDevice) (driver : TxDriver),
    txSystem.Reachable (some w) → skb.Linear →
      starGswSendPacket w.driver skb dev = .sent driver → NothingStale w.driver driver skb dev := by
  intro always
  have linear : arpSkb.Linear := by constructor <;> decide
  have accepted : (match starGswSendPacket txInit.driver arpSkb lanDev with
      | .sent _ => true
      | _ => false) = true := by decide +kernel
  split at accepted
  · rename_i driver sent
    have clean := always txInit arpSkb lanDev driver (.init rfl) linear sent
    exact absurd ((nothing_stale_iff (by decide) linear sent).mp clean) (by decide)
  · exact absurd accepted Bool.false_ne_true

end Fvs318g.Verif.Gather
