import Fvs318g.Lib.System
import Fvs318g.Netfilter.SeqAdjust
import Mathlib.Data.List.Dedup

/-!
# Sequence numbers of an edited stream

The code remembers the last edit of a stream and two offsets. Beside it runs the list of the edits
that it has taken into account, by positions that do not wrap. The two stay connected along every
run of `adjust_tcp_sequence`, whatever positions it is called with. From this follows which numbers
are translated as these edits demand, and that acknowledgements are translated back. An edit that
comes before the last one is not taken into account; if the edits come in order, up to repetitions,
it is all of them.
-/

namespace Fvs318g.Verif.SeqAdjust

open Lib Netfilter

/-! ## The edits of a run -/

/-- The offsets of a direction with the edits that they stand for, the last one first. -/
structure Stream where
  /-- `nat.info.seq[dir]`. -/
  seq : NatSeq
  /-- The edits that were taken into account. -/
  edits : List Edit
  /-- All calls. -/
  made : List Edit
  deriving DecidableEq, Repr

/-- The largest window of TCP. Texts and distances stay below it. -/
def window : Int := 2 ^ 30

/-- An edit counts if it is the first one or lies behind the last one. -/
def record (edits : List Edit) (e : Edit) : List Edit :=
  match edits with
  | [] => [e]
  | last :: _ => if last.pos < e.pos then e :: edits else edits

/-- The position is within half of the range of the last edit. -/
def nearLast (edits : List Edit) (n : Int) : Bool :=
  edits.head?.all fun last => decide (n - last.pos < 2 ^ 31) && decide (last.pos - n < 2 ^ 31)

/-- A packet is mangled: `ip_nat_mangle_tcp_packet` calls `adjust_tcp_sequence` with a difference
that is not zero. -/
def mangle (s : Stream) (e : Edit) : Option Stream :=
  if e.change ≠ 0 ∧ -window < e.change ∧ e.change < window ∧ nearLast s.edits e.pos then
    some ⟨adjustTcpSequence s.seq (UInt32.ofInt e.pos) (UInt32.ofInt e.change), record s.edits e,
      e :: s.made⟩
  else none

/-- All runs of calls from the start of a connection. -/
def streamSystem : System Stream Edit where
  init s := s = ⟨⟨0, 0, 0⟩, [], []⟩
  step := mangle

/-! ## What the offsets stand for -/

/-- The offsets are the shifts around the last edit. -/
def Matches (seq : NatSeq) : List Edit → Prop
  | [] => seq.offsetBefore = 0 ∧ seq.offsetAfter = 0
  | last :: earlier =>
    seq.correctionPos = UInt32.ofInt last.pos ∧
      seq.offsetBefore = UInt32.ofInt (totalShift earlier) ∧
      seq.offsetAfter = UInt32.ofInt (totalShift (last :: earlier)) ∧
      last.change ≠ 0 ∧ -window < last.change ∧ last.change < window

variable {seq : NatSeq} {edits : List Edit}

/-- The shift behind the last edit. -/
theorem Matches.offsetAfter (held : Matches seq edits) :
    seq.offsetAfter = UInt32.ofInt (totalShift edits) := by
  cases edits with
  | nil => exact held.2
  | cons last earlier => exact held.2.2.1

/-- The offsets differ as soon as there is an edit. -/
theorem Matches.offsets_ne {last : Edit} {earlier : List Edit}
    (held : Matches seq (last :: earlier)) : seq.offsetBefore ≠ seq.offsetAfter := by
  obtain ⟨-, offBefore, offAfter, nonzero, low, high⟩ := held
  rw [offBefore, offAfter, totalShift_cons, Ne, ofInt_eq_iff]
  unfold window at low high
  omega

/-- An edit behind the last one is taken into account. -/
theorem matches_record (held : Matches seq edits) {e : Edit} (nonzero : e.change ≠ 0)
    (low : -window < e.change) (high : e.change < window) :
    Matches ⟨UInt32.ofInt e.pos, seq.offsetAfter, seq.offsetAfter + UInt32.ofInt e.change⟩
      (e :: edits) := by
  refine ⟨rfl, held.offsetAfter, ?_, nonzero, low, high⟩
  show seq.offsetAfter + UInt32.ofInt e.change = _
  rw [held.offsetAfter, totalShift_cons, UInt32.ofInt_add, UInt32.add_comm]

/-- One call keeps the offsets in step with the edits. -/
theorem matches_adjust (held : Matches seq edits) {e : Edit} (nonzero : e.change ≠ 0)
    (low : -window < e.change) (high : e.change < window) (near : nearLast edits e.pos = true) :
    Matches (adjustTcpSequence seq (UInt32.ofInt e.pos) (UInt32.ofInt e.change))
      (record edits e) := by
  cases edits with
  | nil =>
    have equal : seq.offsetBefore = seq.offsetAfter := held.1.trans held.2.symm
    rw [adjustTcpSequence, if_pos (.inl equal)]
    exact matches_record held nonzero low high
  | cons last earlier =>
    have differ := held.offsets_ne
    have pos : seq.correctionPos = UInt32.ofInt last.pos := held.1
    simp only [nearLast, List.head?_cons, Option.all_some, Bool.and_eq_true,
      decide_eq_true_eq] at near
    have order : before seq.correctionPos (UInt32.ofInt e.pos) = decide (last.pos < e.pos) := by
      rw [pos, before_ofInt near.1 near.2]
    rw [adjustTcpSequence, order]
    by_cases behind : last.pos < e.pos
    · rw [if_pos (.inr (decide_eq_true behind)), record, if_pos behind]
      exact matches_record held nonzero low high
    · have neither : ¬(seq.offsetBefore = seq.offsetAfter ∨ decide (last.pos < e.pos) = true) := by
        rintro (equal | later)
        · exact differ equal
        · exact behind (of_decide_eq_true later)
      rw [if_neg neither, record, if_neg behind]
      exact held

/-- Along every run the offsets stand for the edits. -/
theorem matches_of_reachable {s : Stream} (reached : streamSystem.Reachable s) :
    Matches s.seq s.edits := by
  refine reached.invariant ?_ ?_
  · intro s start
    rw [start]
    exact ⟨rfl, rfl⟩
  · intro s e s' held stepped
    obtain ⟨⟨nonzero, low, high, near⟩, rfl⟩ := guarded_step stepped
    exact matches_adjust held nonzero low high near

/-! ## Edits that come in order -/

/-- Every call, the last one first, is behind all earlier ones or repeats one of them. -/
def InOrder : List Edit → Prop
  | [] => True
  | e :: earlier => (e ∈ earlier ∨ ∀ x ∈ earlier, x.pos < e.pos) ∧ InOrder earlier

/-- The edits that were taken into account go forward. -/
theorem sorted_record (sorted : edits.Pairwise fun a b => b.pos < a.pos) (e : Edit) :
    (record edits e).Pairwise fun a b => b.pos < a.pos := by
  cases edits with
  | nil => exact List.pairwise_singleton _ e
  | cons last earlier =>
    rw [record]
    split
    · rename_i behind
      refine List.pairwise_cons.mpr ⟨?_, sorted⟩
      intro x member
      rcases List.mem_cons.mp member with rfl | older
      · exact behind
      · exact Int.lt_trans ((List.pairwise_cons.mp sorted).1 x older) behind
    · exact sorted

/-- A repetition is not taken into account again. -/
theorem record_mem (sorted : edits.Pairwise fun a b => b.pos < a.pos) {e : Edit}
    (repeated : e ∈ edits) : record edits e = edits := by
  cases edits with
  | nil => exact absurd repeated List.not_mem_nil
  | cons last earlier =>
    have ahead : ¬ last.pos < e.pos := by
      rcases List.mem_cons.mp repeated with rfl | older
      · exact Int.lt_irrefl _
      · have before := (List.pairwise_cons.mp sorted).1 e older
        omega
    rw [record, if_neg ahead]

/-- An edit behind all others is taken into account. -/
theorem record_behind {e : Edit} (behind : ∀ x ∈ edits, x.pos < e.pos) :
    record edits e = e :: edits := by
  cases edits with
  | nil => rfl
  | cons last earlier => rw [record, if_pos (behind last List.mem_cons_self)]

/-- When the edits come in order, all of them are taken into account, each once. -/
theorem edits_of_inOrder {s : Stream} (reached : streamSystem.Reachable s)
    (order : InOrder s.made) : s.edits = s.made.dedup := by
  have kept : (s.edits.Pairwise fun a b => b.pos < a.pos) ∧
      (InOrder s.made → s.edits = s.made.dedup) := by
    refine reached.invariant ?_ ?_
    · intro s start
      rw [start]
      exact ⟨List.Pairwise.nil, fun _ => rfl⟩
    · intro s e s' held stepped
      obtain ⟨-, rfl⟩ := guarded_step stepped
      refine ⟨sorted_record held.1 e, fun order => ?_⟩
      have edits := held.2 order.2
      show record s.edits e = (e :: s.made).dedup
      rcases order.1 with repeated | behind
      · rw [List.dedup_cons_of_mem repeated, record_mem held.1, edits]
        rwa [edits, List.mem_dedup]
      · have fresh : e ∉ s.made := fun member => Int.lt_irrefl _ (behind e member)
        rw [List.dedup_cons_of_notMem fresh, ← edits]
        apply record_behind
        intro x member
        rw [edits, List.mem_dedup] at member
        exact behind x member
  exact kept.2 order

/-! ## Translating numbers -/

/-- A position behind all edits but the last one, within a window of the last one. -/
structure Recent (edits : List Edit) (n : Int) : Prop where
  /-- Only the last edit may lie ahead. -/
  behind : ∀ e ∈ edits.tail, e.pos < n
  /-- The last edit is not far. -/
  near : ∀ last ∈ edits.head?, -window < n - last.pos ∧ n - last.pos < window

/-- A position that is not inside the part of the text that the last edit took away. -/
def Kept (edits : List Edit) (n : Int) : Prop :=
  ∀ last ∈ edits.head?, n ≤ last.pos ∨ last.pos - last.change < n

/-- The number of a position is moved by the shift of the edits before it. -/
theorem newSeq_shift (held : Matches seq edits) {n : Int} (recent : Recent edits n) :
    newSeq seq (UInt32.ofInt n) = UInt32.ofInt (n + shift edits n) := by
  cases edits with
  | nil =>
    rw [newSeq, held.1, held.2, ite_self, shift_nil, Int.add_zero, UInt32.add_zero]
  | cons last earlier =>
    have near := recent.near last rfl
    unfold window at near
    have order : after (UInt32.ofInt n) seq.correctionPos = decide (last.pos < n) := by
      rw [after, held.1, before_ofInt (by omega) (by omega)]
    have earlierShift : shift earlier n = totalShift earlier := shift_of_forall_lt recent.behind
    rw [newSeq, order, shift_cons, earlierShift]
    by_cases behind : last.pos < n
    · rw [if_pos (decide_eq_true behind), if_pos behind, held.2.2.1, totalShift_cons,
        ← UInt32.ofInt_add]
    · rw [if_neg (by simpa using behind), if_neg behind, held.2.1, Int.zero_add, ← UInt32.ofInt_add]

/-- An acknowledgement of a translated position is translated back to it. -/
theorem newAck_shift (held : Matches seq edits) {n : Int} (recent : Recent edits n)
    (kept : Kept edits n) : newAck seq (UInt32.ofInt (n + shift edits n)) = UInt32.ofInt n := by
  cases edits with
  | nil =>
    rw [newAck, held.1, held.2, ite_self, shift_nil, Int.add_zero, UInt32.sub_zero]
  | cons last earlier =>
    obtain ⟨pos, offBefore, offAfter, -, low, high⟩ := held
    have near := recent.near last rfl
    have outside := kept last rfl
    unfold window at near low high
    have earlierShift : shift earlier n = totalShift earlier := shift_of_forall_lt recent.behind
    rw [newAck, after, pos, offBefore, offAfter, shift_cons, earlierShift, ← ofInt_sub, ← ofInt_sub]
    by_cases behind : last.pos < n
    · rw [if_pos behind, before_ofInt (by omega) (by omega), if_pos (by simp; omega),
        totalShift_cons]
      congr 1
      omega
    · rw [if_neg behind, before_ofInt (by omega) (by omega), if_neg (by simp; omega)]
      congr 1
      omega

/-- Along every run of mangled packets: a sequence number behind all edits that were taken into
account but the last one is moved by exactly the shift of those before it, and the acknowledgement
of what it became is moved back to it, unless it is inside a text that the last edit made shorter.
If every edit is behind all earlier ones or repeats one, all edits are taken into account. -/
theorem sequence_numbers_follow_edits {s : Stream} (reached : streamSystem.Reachable s) {n : Int}
    (recent : Recent s.edits n) :
    newSeq s.seq (UInt32.ofInt n) = UInt32.ofInt (n + shift s.edits n) ∧
      (Kept s.edits n → newAck s.seq (newSeq s.seq (UInt32.ofInt n)) = UInt32.ofInt n) ∧
      (InOrder s.made → s.edits = s.made.dedup) := by
  have held := matches_of_reachable reached
  have moved := newSeq_shift held recent
  refine ⟨moved, fun kept => ?_, edits_of_inOrder reached⟩
  rw [moved]
  exact newAck_shift held recent kept

/-- Two edits of a stream that wraps: 5 bytes more, then 3 bytes less, with repetitions. -/
def wrapped : Stream where
  seq := ⟨100, 5, 2⟩
  edits := [⟨2 ^ 32 + 100, -3⟩, ⟨2 ^ 32 - 200, 5⟩]
  made := [⟨2 ^ 32 - 200, 5⟩, ⟨2 ^ 32 + 100, -3⟩, ⟨2 ^ 32 - 200, 5⟩, ⟨2 ^ 32 - 200, 5⟩]

/-- The run that leads there. -/
theorem wrapped_reached : streamSystem.Reachable wrapped := by
  have calls : streamSystem.run ⟨⟨0, 0, 0⟩, [], []⟩ wrapped.made.reverse = some wrapped := by
    decide +kernel
  exact System.reachable_of_run (.init rfl) calls

/-- The law for a number behind both edits. -/
theorem sequence_numbers_follow_edits_wrapped :
    newSeq wrapped.seq (UInt32.ofInt (2 ^ 32 + 104)) = 106 ∧ newAck wrapped.seq 106 = 104 ∧
      wrapped.edits = wrapped.made.dedup := by
  have followed := sequence_numbers_follow_edits wrapped_reached
    (n := 2 ^ 32 + 104) ⟨by decide, by decide⟩
  have order : InOrder wrapped.made := by
    simp only [wrapped, InOrder]
    decide
  exact ⟨followed.1, followed.2.1 (by unfold Kept; decide), followed.2.2 order⟩

end Fvs318g.Verif.SeqAdjust
