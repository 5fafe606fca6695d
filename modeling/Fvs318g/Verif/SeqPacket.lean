import Fvs318g.Netfilter.SeqAdjust
import Fvs318g.Verif.IcmpSpoof
import Fvs318g.Verif.NatRoundTrip

/-!
# Correcting the numbers in a packet

`ip_nat_seq_adjust` writes the sequence number and the acknowledgement, and walks over the options
for the blocks of selective acknowledgements. The blocks that the walk finds are given by the
options alone; what is written to the packet is then described by that list, byte by byte, and the
checksum keeps its value as long as no block lies at an odd offset.
-/

namespace Fvs318g.Verif.SeqPacket

open Lib Kernel Netfilter ManipPkt
open NatRoundTrip (TcpPacket)
open IcmpSpoof (htonl_htonl)

/-! ## Two fields and the checksum -/

section Correct

variable {data : List UInt8} {tcph first second : Nat} {v w : UInt32}

/-- The correction keeps the length. -/
theorem length_correct32 : (correct32 data tcph first second v w).length = data.length := by
  rw [correct32, set32, set32, set16, length_setField, length_setField, length_setField]

/-- Bytes outside the two fields and the checksum. -/
theorem byteAt_correct32 {i : Nat} (check : i < tcph + 16 ∨ tcph + 18 ≤ i)
    (one : i < first ∨ first + 4 ≤ i) (two : i < second ∨ second + 4 ≤ i) :
    byteAt (correct32 data tcph first second v w) i = byteAt data i := by
  rw [correct32, set32, set32, set16, byteAt_setField _ _ two, byteAt_setField _ _ one,
    byteAt_setField _ _ (by unfold tcphCheck; omega)]

/-- The fields as they are written. -/
theorem get32_correct32 (apart : first + 4 ≤ second) (inside : second + 4 ≤ data.length) :
    get32 (correct32 data tcph first second v w) first = v ∧
      get32 (correct32 data tcph first second v w) second = w := by
  constructor
  · rw [correct32, set32, get32_setField _ _ (.inl apart), get32_set32]
    rw [set16, length_setField]
    omega
  · rw [correct32, get32_set32]
    rw [set32, set16, length_setField, length_setField]
    exact inside

/-- At even offsets the sum of the segment stays. -/
theorem wordSum_correct32 {f s : Nat} (evenF : f % 2 = 0) (evenS : s % 2 = 0)
    (apart : f + 4 ≤ s) (check : f + 4 ≤ 16 ∧ s + 4 ≤ 16 ∨ 18 ≤ f)
    (insideC : tcph + 18 ≤ data.length) (inside : tcph + s + 4 ≤ data.length) :
    wordSum ((correct32 data tcph (tcph + f) (tcph + s) v w).drop tcph) ≡
      wordSum (data.drop tcph) [MOD 65535] := by
  have place : ∀ off, get32 data (tcph + off) = get32 (data.drop tcph) off := by
    intro off
    rw [get32, get32, fieldAt_drop]
  have checkPlace : get16 data (tcph + tcphCheck) = get16 (data.drop tcph) tcphCheck := by
    rw [get16, get16, fieldAt_drop]
  rw [correct32, set32, set32, set16, drop_setField, drop_setField, drop_setField, place, place,
    checkPlace]
  have length : (data.drop tcph).length = data.length - tcph := List.length_drop
  generalize data.drop tcph = seg at length
  generalize corrected : ipNatCheatCheck (~~~get32 seg f) v
    (ipNatCheatCheck (~~~get32 seg s) w (get16 seg tcphCheck)) = c
  have outer := cheatCheck32 (get32 seg f) v
    (ipNatCheatCheck (~~~get32 seg s) w (get16 seg tcphCheck))
  have inner := cheatCheck32 (get32 seg s) w (get16 seg tcphCheck)
  rw [corrected] at outer
  have one := wordSum_set16 c (show tcphCheck % 2 = 0 from rfl)
    (show tcphCheck + 2 ≤ seg.length by unfold tcphCheck; omega)
  have two := @wordSum_set32 (set16 seg tcphCheck c) f v evenF
    (by rw [set16, length_setField]; omega)
  have three := @wordSum_set32 (set32 (set16 seg tcphCheck c) f v) s w evenS
    (by rw [set32, set16, length_setField, length_setField]; omega)
  have keptF : get32 (set16 seg tcphCheck c) f = get32 seg f :=
    get32_setField _ _ (by unfold tcphCheck; omega)
  have keptS : get32 (set32 (set16 seg tcphCheck c) f v) s = get32 seg s := by
    rw [set32, get32_setField _ _ (.inr apart), set16,
      get32_setField _ _ (by unfold tcphCheck; omega)]
  rw [keptF] at two
  rw [keptS] at three
  show wordSum (set32 (set32 (set16 seg tcphCheck c) f v) s w) ≡ _ [MOD 65535]
  unfold Nat.ModEq at outer inner one two three ⊢
  omega

end Correct

/-! ## Blocks -/

/-- What the walk does to a packet: the blocks are translated, the checksum is corrected, and all
other bytes stay. -/
structure Adjusted (natseq : NatSeq) (tcph : Nat) (blocks : List Nat) (data data' : List UInt8) :
    Prop where
  length : data'.length = data.length
  /-- Bytes outside the checksum and the blocks. -/
  rest : ∀ i, (i < tcph + 16 ∨ tcph + 18 ≤ i) → (∀ off ∈ blocks, i < off ∨ off + 8 ≤ i) →
    byteAt data' i = byteAt data i
  /-- The two edges of a block. -/
  edges : ∀ off ∈ blocks,
    get32 data' off = htonl (newAck natseq (htonl (get32 data off))) ∧
      get32 data' (off + 4) = htonl (newAck natseq (htonl (get32 data (off + 4))))
  /-- The sum of the segment. -/
  sum : (∀ off ∈ blocks, (off - tcph) % 2 = 0) →
    wordSum (data'.drop tcph) ≡ wordSum (data.drop tcph) [MOD 65535]

/-- A field is read from its bytes. -/
theorem fieldAt_congr {data data' : List UInt8} {off n : Nat}
    (same : ∀ i, off ≤ i → i < off + n → byteAt data' i = byteAt data i) :
    fieldAt data' off n = fieldAt data off n := by
  induction n generalizing off with
  | zero => rfl
  | succ n ih =>
    rw [fieldAt, fieldAt, same off (by omega) (by omega)]
    rw [ih fun i low high => same i (by omega) (by omega)]

/-- A word is its four bytes. -/
theorem get32_congr {data data' : List UInt8} {off : Nat}
    (same : ∀ i, off ≤ i → i < off + 4 → byteAt data' i = byteAt data i) :
    get32 data' off = get32 data off := by
  rw [get32, fieldAt_congr same, get32]

/-- No blocks, no change. -/
theorem Adjusted.none (natseq : NatSeq) (tcph : Nat) (data : List UInt8) :
    Adjusted natseq tcph [] data data where
  length := rfl
  rest _ _ _ := rfl
  edges _ member := by cases member
  sum _ := rfl

/-- Blocks behind the checksum, in the order of their offsets, that do not overlap. -/
structure Ordered (tcph : Nat) (blocks : List Nat) : Prop where
  behind : ∀ off ∈ blocks, tcph + 18 ≤ off
  apart : blocks.Pairwise fun a b => a + 8 ≤ b

/-- A walk in two parts. -/
theorem Adjusted.append {natseq : NatSeq} {tcph : Nat} {blocks blocks' : List Nat}
    {data data' data'' : List UInt8} (first : Adjusted natseq tcph blocks data data')
    (second : Adjusted natseq tcph blocks' data' data'')
    (ordered : Ordered tcph (blocks ++ blocks')) :
    Adjusted natseq tcph (blocks ++ blocks') data data'' := by
  obtain ⟨-, -, across⟩ := List.pairwise_append.mp ordered.apart
  have behind := ordered.behind
  refine ⟨second.length.trans first.length, ?_, ?_, ?_⟩
  · intro i check outside
    rw [second.rest i check fun off member => outside off (List.mem_append_right _ member),
      first.rest i check fun off member => outside off (List.mem_append_left _ member)]
  · intro off member
    have late := behind off member
    rcases List.mem_append.mp member with early | later
    · -- a block of the first part is left alone by the second part
      have same : ∀ i, off ≤ i → i < off + 8 → byteAt data'' i = byteAt data' i := by
        intro i low high
        apply second.rest i (by omega)
        intro off' member'
        have gap := across off early off' member'
        omega
      rw [get32_congr fun i low high => same i (by omega) (by omega),
        get32_congr fun i low high => same i (by omega) (by omega)]
      exact first.edges off early
    · -- a block of the second part is read as it was before the first part
      have same : ∀ i, off ≤ i → i < off + 8 → byteAt data' i = byteAt data i := by
        intro i low high
        apply first.rest i (by omega)
        intro off' member'
        have gap := across off' member' off later
        omega
      have edges := second.edges off later
      rw [edges.1, edges.2, get32_congr fun i low high => same i (by omega) (by omega),
        get32_congr fun i low high => same i (by omega) (by omega)]
      exact ⟨rfl, rfl⟩
  · intro even
    exact (second.sum fun off member => even off (List.mem_append_right _ member)).trans
      (first.sum fun off member => even off (List.mem_append_left _ member))

/-- One block. -/
theorem adjusted_sackBlock (natseq : NatSeq) {data : List UInt8} {tcph sackoff : Nat}
    (behind : tcph + 18 ≤ sackoff) (inside : sackoff + 8 ≤ data.length) :
    Adjusted natseq tcph [sackoff] data (sackBlock natseq data tcph sackoff) := by
  refine ⟨length_correct32, ?_, ?_, ?_⟩
  · intro i check outside
    have apart := outside sackoff List.mem_cons_self
    exact byteAt_correct32 check (by omega) (by omega)
  · intro off member
    cases List.mem_singleton.mp member
    exact get32_correct32 (Nat.le_refl _) (by omega)
  · intro even
    have here := even sackoff List.mem_cons_self
    have place : sackoff = tcph + (sackoff - tcph) := by omega
    have next : sackoff + 4 = tcph + (sackoff - tcph + 4) := by omega
    unfold sackBlock
    generalize htonl (newAck natseq (htonl (get32 data sackoff))) = v
    generalize htonl (newAck natseq (htonl (get32 data (sackoff + 4)))) = w
    rw [next]
    nth_rewrite 1 [place]
    exact wordSum_correct32 here (by omega) (Nat.le_refl _) (.inr (by omega)) (by omega) (by omega)

/-- The offsets of `n` blocks. -/
def blocksFrom (sackoff : Nat) : Nat → List Nat
  | 0 => []
  | n + 1 => sackoff :: blocksFrom (sackoff + sackBlockSize) n

/-- The blocks lie inside the option. -/
theorem mem_blocksFrom {sackoff n off : Nat} (member : off ∈ blocksFrom sackoff n) :
    sackoff ≤ off ∧ off + 8 ≤ sackoff + n * 8 := by
  induction n generalizing sackoff with
  | zero => cases member
  | succ n ih =>
    rcases List.mem_cons.mp member with rfl | later
    · omega
    · have bounds := ih later
      unfold sackBlockSize at bounds
      omega

/-- They lie one behind the other. -/
theorem ordered_blocksFrom {tcph sackoff : Nat} (behind : tcph + 18 ≤ sackoff) (n : Nat) :
    Ordered tcph (blocksFrom sackoff n) := by
  constructor
  · intro off member
    have bounds := mem_blocksFrom member
    omega
  · induction n generalizing sackoff with
    | zero => exact List.Pairwise.nil
    | succ n ih =>
      refine List.pairwise_cons.mpr ⟨fun off member => ?_, ih (by omega)⟩
      exact (mem_blocksFrom member).1

/-- `sack_adjust`. -/
theorem adjusted_sackAdjust (natseq : NatSeq) {tcph : Nat} (n : Nat) {sackoff : Nat}
    {data : List UInt8} (behind : tcph + 18 ≤ sackoff) (inside : sackoff + n * 8 ≤ data.length) :
    Adjusted natseq tcph (blocksFrom sackoff n) data (sackAdjust natseq tcph n sackoff data) := by
  induction n generalizing sackoff data with
  | zero => exact .none natseq tcph data
  | succ n ih =>
    have first := adjusted_sackBlock natseq behind (show sackoff + 8 ≤ data.length by omega)
    have later := @ih (sackoff + sackBlockSize) (sackBlock natseq data tcph sackoff)
      (by omega) (by rw [first.length]; unfold sackBlockSize; omega)
    exact first.append later (ordered_blocksFrom behind (n + 1))

/-! ## Options -/

/-- The blocks in the options from an offset on, as the walk finds them; nothing if an option is
cut. -/
def optionBlocks (data : List UInt8) (optend : Nat) : Nat → Nat → Option (List Nat)
  | 0, _ => some []
  | n + 1, optoff =>
    if optoff < optend then
      if byteAt data optoff = 0 then some []
      else if byteAt data optoff = 1 then optionBlocks data optend n (optoff + 1)
      else
        let len := byteAt data (optoff + 1)
        if optoff + 1 = optend ∨ optoff + len > optend ∨ len < 2 then none
        else
          (optionBlocks data optend n (optoff + len)).map fun later =>
            (if isSack data optoff then blocksFrom (optoff + 2) ((len - 2) / sackBlockSize)
              else []) ++ later
    else some []

/-- The options from an offset on depend on the bytes from there on. -/
theorem optionBlocks_congr {data data' : List UInt8} {optend : Nat} (n : Nat) {optoff : Nat}
    (same : ∀ i, optoff ≤ i → byteAt data' i = byteAt data i) :
    optionBlocks data' optend n optoff = optionBlocks data optend n optoff := by
  induction n generalizing optoff with
  | zero => rfl
  | succ n ih =>
    have kind := same optoff (Nat.le_refl _)
    have len := same (optoff + 1) (by omega)
    have sack : isSack data' optoff = isSack data optoff := by rw [isSack, kind, len, isSack]
    simp only [optionBlocks, kind, len, sack]
    rw [ih fun i late => same i (by omega), ih fun i late => same i (by omega)]

/-- Blocks lie behind the offset where the walk starts, and before its end. -/
theorem mem_optionBlocks {data : List UInt8} {optend : Nat} (n : Nat) {optoff : Nat}
    {blocks : List Nat} (found : optionBlocks data optend n optoff = some blocks) {off : Nat}
    (member : off ∈ blocks) : optoff < off ∧ off + 8 ≤ optend := by
  induction n generalizing optoff blocks with
  | zero =>
    cases found
    cases member
  | succ n ih =>
    simp only [optionBlocks] at found
    split at found
    · split at found
      · cases found
        cases member
      split at found
      · have bounds := ih found member
        omega
      split at found
      · cases found
      · rename_i whole
        obtain ⟨later, rest, rfl⟩ := Option.map_eq_some_iff.mp found
        rcases List.mem_append.mp member with here | there
        · split at here
          · have bounds := mem_blocksFrom here
            unfold sackBlockSize at bounds
            omega
          · cases here
        · have bounds := ih rest there
          omega
    · cases found
      cases member

/-- Blocks of an option before the blocks of the later ones. -/
theorem ordered_append {tcph next : Nat} {here later : List Nat} (first : Ordered tcph here)
    (before : ∀ off ∈ here, off + 8 ≤ next) (second : Ordered tcph later)
    (after : ∀ off ∈ later, next < off) : Ordered tcph (here ++ later) := by
  constructor
  · intro off member
    rcases List.mem_append.mp member with early | late
    · exact first.behind off early
    · exact second.behind off late
  · refine List.pairwise_append.mpr ⟨first.apart, second.apart, fun a early b late => ?_⟩
    have low := before a early
    have high := after b late
    omega

/-- The result of a walk that finds these blocks: failure where an option is cut, and otherwise
the packet with the blocks translated. -/
def Outcome (natseq : NatSeq) (tcph : Nat) (data : List UInt8) (result : Option (List UInt8)) :
    Option (List Nat) → Prop
  | none => result = none
  | some blocks =>
    Ordered tcph blocks ∧ ∃ data', result = some data' ∧ Adjusted natseq tcph blocks data data'

/-- The walk over the options. -/
theorem outcome_sackOptions (natseq : NatSeq) {tcph optend : Nat} (n : Nat) {optoff : Nat}
    {data : List UInt8} (behind : tcph + 18 ≤ optoff) (inside : optend ≤ data.length) :
    Outcome natseq tcph data (sackOptions natseq tcph optend n optoff data)
      (optionBlocks data optend n optoff) := by
  have empty : Ordered tcph [] := ⟨by simp, List.Pairwise.nil⟩
  have stop : ∀ data, Outcome natseq tcph data (some data) (some []) := fun data =>
    ⟨empty, data, rfl, .none natseq tcph data⟩
  induction n generalizing optoff data with
  | zero => exact stop data
  | succ n ih =>
    rw [optionBlocks, sackOptions]
    by_cases more : optoff < optend
    · rw [if_pos more, if_pos more]
      by_cases eol : byteAt data optoff = 0
      · rw [if_pos eol, if_pos eol]
        exact stop data
      rw [if_neg eol, if_neg eol]
      by_cases nop : byteAt data optoff = 1
      · rw [if_pos nop, if_pos nop]
        exact @ih (optoff + 1) data (by omega) inside
      rw [if_neg nop, if_neg nop]
      dsimp only
      by_cases cut : optoff + 1 = optend ∨ optoff + byteAt data (optoff + 1) > optend ∨
          byteAt data (optoff + 1) < 2
      · rw [if_pos cut, if_pos cut]
        rfl
      · rw [if_neg cut, if_neg cut]
        -- the blocks of this option, then the rest of the walk on the packet as it is now
        generalize chosen : (if isSack data optoff = true then blocksFrom (optoff + 2)
          ((byteAt data (optoff + 1) - 2) / sackBlockSize) else []) = here
        generalize written : (if isSack data optoff = true then sackAdjust natseq tcph
          ((byteAt data (optoff + 1) - 2) / sackBlockSize) (optoff + 2) data else data) = data₁
        have step : Ordered tcph here ∧ Adjusted natseq tcph here data data₁ ∧
            ∀ off ∈ here, off + 8 ≤ optoff + byteAt data (optoff + 1) := by
          subst chosen written
          split
          · refine ⟨ordered_blocksFrom (by omega) _,
              adjusted_sackAdjust natseq _ (by omega) (by unfold sackBlockSize; omega), ?_⟩
            intro off member
            have bounds := mem_blocksFrom member
            unfold sackBlockSize at bounds
            omega
          · exact ⟨empty, .none natseq tcph data, by simp⟩
        obtain ⟨ordered, adjusted, before⟩ := step
        have same : optionBlocks data₁ optend n (optoff + byteAt data (optoff + 1)) =
            optionBlocks data optend n (optoff + byteAt data (optoff + 1)) := by
          apply optionBlocks_congr
          intro i late
          apply adjusted.rest i (by omega)
          intro off member
          have low := before off member
          omega
        have later := @ih (optoff + byteAt data (optoff + 1)) data₁ (by omega)
          (by rw [adjusted.length]; exact inside)
        rw [same] at later
        cases rest : optionBlocks data optend n (optoff + byteAt data (optoff + 1)) with
        | none =>
          rw [rest] at later
          exact later
        | some blocks =>
          rw [rest] at later
          obtain ⟨orderedLater, data', done, adjustedLater⟩ := later
          have all : Ordered tcph (here ++ blocks) := ordered_append ordered before
            orderedLater fun off member => (mem_optionBlocks n rest member).1
          exact ⟨all, data', done, adjusted.append adjustedLater all⟩
    · rw [if_neg more, if_neg more]
      exact stop data

/-! ## The packet -/

/-- The blocks in the options of a packet. -/
def packetBlocks (data : List UInt8) : Option (List Nat) :=
  let tcph := iphdrLen data 0
  let optend := tcph + tcphdrLen data tcph
  optionBlocks data optend (optend - (tcph + tcphdrSize)) (tcph + tcphdrSize)

section Packet

variable {writable : Nat → Bool} {data data' : List UInt8} {thisWay otherWay : NatSeq}

/-- The packet with its two numbers corrected, before the options. -/
def numbered (data : List UInt8) (thisWay otherWay : NatSeq) : List UInt8 :=
  correct32 data (iphdrLen data 0) (iphdrLen data 0 + tcphSeq) (iphdrLen data 0 + tcphAckSeq)
    (htonl (newSeq thisWay (htonl (get32 data (iphdrLen data 0 + tcphSeq)))))
    (htonl (newAck otherWay (htonl (get32 data (iphdrLen data 0 + tcphAckSeq)))))

/-- Bytes outside the two numbers and the checksum. -/
theorem byteAt_numbered {i : Nat} (outside : i < iphdrLen data 0 + 4 ∨
    iphdrLen data 0 + 12 ≤ i ∧ i < iphdrLen data 0 + 16 ∨ iphdrLen data 0 + 18 ≤ i) :
    byteAt (numbered data thisWay otherWay) i = byteAt data i := by
  unfold numbered
  apply byteAt_correct32 (by omega)
  · unfold tcphSeq
    omega
  · unfold tcphAckSeq
    omega

/-- The numbers are not in the IP header. -/
theorem iphdrLen_numbered (thisWay otherWay : NatSeq) (long : 20 ≤ iphdrLen data 0) :
    iphdrLen (numbered data thisWay otherWay) 0 = iphdrLen data 0 := by
  rw [iphdrLen, byteAt_numbered (by omega), ← iphdrLen]

/-- Nor do they say where the blocks are. -/
theorem packetBlocks_numbered (thisWay otherWay : NatSeq) (long : 20 ≤ iphdrLen data 0) :
    packetBlocks (numbered data thisWay otherWay) = packetBlocks data := by
  have doff : tcphdrLen (numbered data thisWay otherWay) (iphdrLen data 0) =
      tcphdrLen data (iphdrLen data 0) := by
    rw [tcphdrLen, byteAt_numbered (by omega), tcphdrLen]
  simp only [packetBlocks, iphdrLen_numbered thisWay otherWay long, doff]
  apply optionBlocks_congr
  intro i late
  unfold tcphdrSize at late
  exact byteAt_numbered (by omega)

/-- What `ip_nat_seq_adjust` does, in two steps. -/
theorem ipNatSeqAdjust_some (packet : TcpPacket data)
    (done : ipNatSeqAdjust writable data thisWay otherWay = some data') :
    ∃ blocks, packetBlocks data = some blocks ∧ Ordered (iphdrLen data 0) blocks ∧
      Adjusted otherWay (iphdrLen data 0) blocks (numbered data thisWay otherWay) data' := by
  have long := packet.long
  have same := packetBlocks_numbered thisWay otherWay long
  have header := iphdrLen_numbered thisWay otherWay long
  unfold ipNatSeqAdjust at done
  dsimp only at done
  split at done
  · change ipNatSackAdjust writable (numbered data thisWay otherWay) otherWay = some data' at done
    unfold ipNatSackAdjust at done
    rw [header] at done
    dsimp only at done
    split at done
    · rename_i fits
      rw [skbMakeWritable, Bool.and_eq_true, decide_eq_true_eq] at fits
      have outcome := @outcome_sackOptions otherWay (iphdrLen data 0) _
        (iphdrLen data 0 + tcphdrLen (numbered data thisWay otherWay) (iphdrLen data 0) -
          (iphdrLen data 0 + tcphdrSize)) (iphdrLen data 0 + tcphdrSize)
        (numbered data thisWay otherWay) (by unfold tcphdrSize; omega) fits.1
      rw [packetBlocks, header] at same
      rw [show optionBlocks _ _ _ _ = _ from same, done] at outcome
      cases found : packetBlocks data with
      | none =>
        rw [found] at outcome
        cases outcome
      | some blocks =>
        rw [found] at outcome
        obtain ⟨ordered, d, equal, adjusted⟩ := outcome
        cases equal
        exact ⟨blocks, rfl, ordered, adjusted⟩
    · cases done
  · cases done

/-- Fields below the TCP header are not touched. -/
theorem get32_below {blocks : List Nat} (ordered : Ordered (iphdrLen data 0) blocks)
    (adjusted : Adjusted otherWay (iphdrLen data 0) blocks (numbered data thisWay otherWay) data')
    {off : Nat} (below : off + 4 ≤ iphdrLen data 0) : get32 data' off = get32 data off := by
  apply get32_congr
  intro i low high
  rw [adjusted.rest i (by omega) fun block member => by
    have behind := ordered.behind block member
    omega]
  exact byteAt_numbered (by omega)

/-- The sequence number of a packet, in network order. -/
def seqOf (data : List UInt8) : UInt32 := get32 data (iphdrLen data 0 + tcphSeq)

/-- The acknowledgement of a packet, in network order. -/
def ackOf (data : List UInt8) : UInt32 := get32 data (iphdrLen data 0 + tcphAckSeq)

/-- A receiver sees the sum of a segment in which only such fields were corrected as before. -/
theorem segmentCheck_adjusted {blocks : List Nat} (packet : TcpPacket data)
    (ordered : Ordered (iphdrLen data 0) blocks)
    (adjusted : Adjusted otherWay (iphdrLen data 0) blocks (numbered data thisWay otherWay) data')
    (header : iphdrLen data' 0 = iphdrLen data 0) (even : ∀ off ∈ blocks, off % 2 = 0) :
    segmentCheck data' 6 = segmentCheck data 6 := by
  have long := packet.long
  have full := packet.full
  have multiple : iphdrLen data 0 % 4 = 0 := by
    unfold iphdrLen
    omega
  unfold tcphdrSize at full
  have length : (ipSegment data').length = (ipSegment data).length := by
    rw [ipSegment, ipSegment, header, List.length_drop, List.length_drop, adjusted.length, numbered,
      length_correct32]
  have addresses : addrSum data' = addrSum data := by
    rw [addrSum, get32_below ordered adjusted (by unfold iphDaddr; omega),
      get32_below ordered adjusted (by unfold iphSaddr; omega), addrSum]
  have first : wordSum ((numbered data thisWay otherWay).drop (iphdrLen data 0)) ≡
      wordSum (data.drop (iphdrLen data 0)) [MOD 65535] :=
    wordSum_correct32 rfl rfl (Nat.le_refl _) (.inl (by decide)) (by omega)
      (by unfold tcphAckSeq; omega)
  have second := adjusted.sum fun off member => by
    have here := even off member
    have behind := ordered.behind off member
    omega
  have sum : wordSum (ipSegment data') % 65535 = wordSum (ipSegment data) % 65535 := by
    rw [ipSegment, header, ipSegment]
    exact second.trans first
  have proto : 0 < (htons 6).toNat := by decide
  apply UInt16.toNat_inj.mp
  rw [toNat_segmentCheck, toNat_segmentCheck, length, addresses]
  refine congrArg (0xffff - ·) ?_
  rw [fold16_eq_iff]
  omega

/-- A packet that `ip_nat_seq_adjust` lets through has whole options. Its sequence number, its
acknowledgement and every edge of its selective acknowledgements are translated by the offsets; no
other byte but the checksum changes; and if no block lies at an odd offset, the checksum is as right
or wrong as it was. -/
theorem seq_adjust_packet (packet : TcpPacket data)
    (done : ipNatSeqAdjust writable data thisWay otherWay = some data') :
    ∃ blocks, packetBlocks data = some blocks ∧
      htonl (seqOf data') = newSeq thisWay (htonl (seqOf data)) ∧
      htonl (ackOf data') = newAck otherWay (htonl (ackOf data)) ∧
      (∀ off ∈ blocks, ∀ edge ∈ [off, off + 4],
        htonl (get32 data' edge) = newAck otherWay (htonl (get32 data edge))) ∧
      (∀ i, (i < iphdrLen data 0 + 4 ∨ iphdrLen data 0 + 12 ≤ i ∧ i < iphdrLen data 0 + 16 ∨
        iphdrLen data 0 + 18 ≤ i) → (∀ off ∈ blocks, i < off ∨ off + 8 ≤ i) →
        byteAt data' i = byteAt data i) ∧
      ((∀ off ∈ blocks, off % 2 = 0) → segmentCheck data' 6 = segmentCheck data 6) := by
  have long := packet.long
  have full := packet.full
  unfold tcphdrSize at full
  obtain ⟨blocks, found, ordered, adjusted⟩ := ipNatSeqAdjust_some packet done
  have behind := ordered.behind
  have rest : ∀ i, (i < iphdrLen data 0 + 4 ∨ iphdrLen data 0 + 12 ≤ i ∧ i < iphdrLen data 0 + 16 ∨
      iphdrLen data 0 + 18 ≤ i) → (∀ off ∈ blocks, i < off ∨ off + 8 ≤ i) →
      byteAt data' i = byteAt data i := by
    intro i outside apart
    rw [adjusted.rest i (by omega) apart, byteAt_numbered outside]
  have header : iphdrLen data' 0 = iphdrLen data 0 := by
    rw [iphdrLen, rest 0 (by omega) fun off member => by
      have late := behind off member
      omega]
    rfl
  -- the two numbers lie before the checksum, and no block reaches them
  have numbers : ∀ off, iphdrLen data 0 + 4 ≤ off → off + 4 ≤ iphdrLen data 0 + 12 →
      get32 data' off = get32 (numbered data thisWay otherWay) off := by
    intro off low high
    apply get32_congr
    intro i low' high'
    apply adjusted.rest i (by omega)
    intro block member
    have late := behind block member
    omega
  have written := @get32_correct32 data (iphdrLen data 0) (iphdrLen data 0 + tcphSeq)
    (iphdrLen data 0 + tcphAckSeq)
    (htonl (newSeq thisWay (htonl (get32 data (iphdrLen data 0 + tcphSeq)))))
    (htonl (newAck otherWay (htonl (get32 data (iphdrLen data 0 + tcphAckSeq)))))
    (by unfold tcphSeq tcphAckSeq; omega) (by unfold tcphAckSeq; omega)
  refine ⟨blocks, found, ?_, ?_, ?_, rest, segmentCheck_adjusted packet ordered adjusted header⟩
  · rw [seqOf, header,
      numbers (iphdrLen data 0 + tcphSeq) (Nat.le_refl _) (by unfold tcphSeq; omega),
      numbered, written.1, htonl_htonl, seqOf]
  · rw [ackOf, header, numbers _ (by unfold tcphAckSeq; omega) (by unfold tcphAckSeq; omega),
      numbered, written.2, htonl_htonl, ackOf]
  · intro off member edge place
    have late := behind off member
    have kept : ∀ place, iphdrLen data 0 + 18 ≤ place →
        get32 (numbered data thisWay otherWay) place = get32 data place := by
      intro place high
      apply get32_congr
      intro i low' _
      exact byteAt_numbered (by omega)
    have edges := adjusted.edges off member
    rw [kept off late, kept (off + 4) (by omega)] at edges
    rcases List.mem_pair.mp place with rfl | rfl
    · rw [edges.1, htonl_htonl]
    · rw [edges.2, htonl_htonl]

end Packet

/-- An acknowledgement on a control connection, with one block. -/
def sackAck : List UInt8 :=
  [0x45, 0x00, 0x00, 0x34, 0x00, 0x01, 0x00, 0x00, 0x40, 0x06, 0xa9, 0x09, 0xc0, 0xa8, 0x01, 0x02,
    0x08, 0x08, 0x08, 0x08, 0x04, 0xd2, 0x00, 0x15, 0x00, 0x00, 0x00, 0x65, 0x00, 0x00, 0x04, 0x4c,
    0x80, 0x10, 0x04, 0x00, 0x91, 0x79, 0x00, 0x00, 0x01, 0x01, 0x05, 0x0a, 0x00, 0x00, 0x04, 0x6a,
    0x00, 0x00, 0x04, 0x88]

/-- The packet with its sequence number behind a change and the acknowledgement before one. -/
def sackAckOut : List UInt8 :=
  [0x45, 0x00, 0x00, 0x34, 0x00, 0x01, 0x00, 0x00, 0x40, 0x06, 0xa9, 0x09, 0xc0, 0xa8, 0x01, 0x02,
    0x08, 0x08, 0x08, 0x08, 0x04, 0xd2, 0x00, 0x15, 0x00, 0x00, 0x00, 0x68, 0x00, 0x00, 0x04, 0x4c,
    0x80, 0x10, 0x04, 0x00, 0x91, 0x80, 0x00, 0x00, 0x01, 0x01, 0x05, 0x0a, 0x00, 0x00, 0x04, 0x65,
    0x00, 0x00, 0x04, 0x83]

/-- An acknowledgement with one block. -/
theorem seq_adjust_packet_sack :
    ipNatSeqAdjust (fun _ => true) sackAck ⟨90, 0, 3⟩ ⟨1120, 0, 5⟩ = some sackAckOut ∧
      packetBlocks sackAck = some [44] ∧ htonl (seqOf sackAckOut) = 104 ∧
      htonl (get32 sackAckOut 44) = 1125 ∧ segmentCheck sackAckOut 6 = 0 := by
  have passed : ipNatSeqAdjust (fun _ => true) sackAck ⟨90, 0, 3⟩ ⟨1120, 0, 5⟩ =
      some sackAckOut := by decide +kernel
  have blocks : packetBlocks sackAck = some [44] := by decide +kernel
  obtain ⟨found, same, seq, -, edges, -, check⟩ := seq_adjust_packet ⟨by decide, by decide⟩ passed
  cases blocks.symm.trans same
  refine ⟨passed, blocks, seq.trans (by decide +kernel), ?_, ?_⟩
  · exact (edges 44 (by decide) 44 (by decide)).trans (by decide +kernel)
  · exact (check (by decide)).trans (by decide +kernel)

end Fvs318g.Verif.SeqPacket
