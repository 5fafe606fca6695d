import Fvs318g.Verif.FtpHelper

/-!
# Line after line

The helper looks at a packet if it starts behind a line that it remembers. The number that it keeps
for a packet whose announcement was rewritten is the one behind the new text, while the next packet
comes with the number that its sender gave it: the helper sees packets before `ip_nat_seq_adjust`.
-/

namespace Fvs318g.Verif.FtpLines

open Lib Kernel Netfilter FtpParse FtpHelper
open Mangle (ipNatMangleTcpPacket_some length_mangled)
open NatFtp (ftpControl)

/-! ## What is remembered -/

/-- The last line is always remembered. -/
theorem mem_updateNlSeq (nlSeq : UInt32) (info : NlSeqs) :
    nlSeq ∈ (updateNlSeq nlSeq info).seqs := by
  obtain ⟨seqs, fit⟩ := info
  -- the array is empty, has one element, or is full
  match seqs, fit with
  | [], _ => simp [updateNlSeq, oldestLoop, numSeqToRemember]
  | [a], _ =>
    by_cases first : a = nlSeq
    · simp [updateNlSeq, oldestLoop, first]
    · simp [updateNlSeq, oldestLoop, first, numSeqToRemember]
  | [a, b], _ =>
    by_cases first : a = nlSeq
    · simp [updateNlSeq, oldestLoop, first]
    · by_cases second : b = nlSeq
      · simp [updateNlSeq, oldestLoop, first, second]
      · by_cases older : before b 0 = true
        · simp [updateNlSeq, oldestLoop, first, second, older, numSeqToRemember]
        · simp [updateNlSeq, oldestLoop, first, second, older, numSeqToRemember]
  | a :: b :: c :: rest, fit =>
    unfold numSeqToRemember at fit
    simp only [List.length_cons] at fit
    omega

/-- Nothing else is added. -/
theorem eq_or_mem_of_updateNlSeq {nlSeq seq : UInt32} {info : NlSeqs}
    (member : seq ∈ (updateNlSeq nlSeq info).seqs) : seq = nlSeq ∨ seq ∈ info.seqs := by
  unfold updateNlSeq at member
  split at member
  · exact .inr member
  · split at member
    · rcases List.mem_append.mp member with old | new
      · exact .inr old
      · exact .inl (List.mem_singleton.mp new)
    · split at member
      · exact (List.mem_or_eq_of_mem_set member).symm
      · exact .inr member

/-! ## The number that is kept -/

section Lines

variable {env : HelpEnv} {ct : Conntrack} {dir : Dir} {lines : NlSeqs} {natSeq : NatSeq}
  {data : List UInt8} {fresh : FtpExpect}

/-- The length of a packet with a text in the place of another. -/
theorem length_mangle {mangleEnv : MangleEnv} {data' rep : List UInt8} {natSeq' : NatSeq}
    {matchOffset matchLen : Nat} (inside : tcpDataoff data + matchOffset + matchLen ≤ data.length)
    (done : ipNatMangleTcpPacket mangleEnv data natSeq matchOffset matchLen rep =
      some (data', natSeq')) : data'.length + matchLen = data.length + rep.length := by
  rw [(ipNatMangleTcpPacket_some done).1, mangleContents, length_mangled, List.length_append,
    List.length_append, List.length_take, List.length_drop]
  omega

/-- The sequence number that `ip_nat_ftp` gives back is moved with the text. -/
theorem natFtpPacket_seq {ftpEnv : FtpEnv} {mangleEnv : MangleEnv} {type : FtpType}
    {matchoff matchlen : Nat} {exp : FtpExpect} {seq : UInt32}
    (inside : tcpDataoff data + matchoff + matchlen ≤ data.length)
    (accepted : (natFtpPacket ftpEnv mangleEnv ct dir type data natSeq matchoff matchlen exp
      seq).1.verdict = .accept) :
    (natFtpPacket ftpEnv mangleEnv ct dir type data natSeq matchoff matchlen exp seq).1.seq +
        UInt32.ofNat data.length =
      seq + UInt32.ofNat
        (natFtpPacket ftpEnv mangleEnv ct dir type data natSeq matchoff matchlen exp
          seq).2.1.length := by
  obtain ⟨port, -, -, mangled, moved⟩ := natFtpPacket_accept accepted
  have length := length_mangle inside mangled
  generalize mangleText type (ftpNewip ct dir) port = text at mangled moved length
  have size : (textBytes text).length = text.length := by
    rw [textBytes, length_ascii, String.length_toList]
  rw [size] at length
  have words := congrArg UInt32.ofNat length
  rw [UInt32.ofNat_add, UInt32.ofNat_add] at words
  rw [moved]
  generalize UInt32.ofNat data.length = old at words ⊢
  generalize UInt32.ofNat text.length = new at words ⊢
  generalize UInt32.ofNat matchlen = gone at words ⊢
  generalize UInt32.ofNat (natFtpPacket ftpEnv mangleEnv ct dir type data natSeq matchoff matchlen
    exp seq).2.1.length = left at words ⊢
  have solved : left = old + new - gone := by rw [← words, UInt32.add_sub_cancel]
  rw [solved]
  grind

/-- The number that is kept for a match. -/
theorem helpMatched_lines {type : FtpType} {matchoff matchlen : Nat} {array : List UInt32}
    (inside : tcpDataoff data + matchoff + matchlen ≤ data.length)
    (accepted : (helpMatched env ct dir lines natSeq data type matchoff matchlen array
      fresh).verdict = .accept) :
    ∃ kept, (helpMatched env ct dir lines natSeq data type matchoff matchlen array fresh).lines =
        outUpdateNl data kept lines ∧
      kept + UInt32.ofNat data.length = ftpNextSeq data + UInt32.ofNat
        (helpMatched env ct dir lines natSeq data type matchoff matchlen array
          fresh).data.length := by
  unfold helpMatched at accepted ⊢
  simp only at accepted ⊢
  split at accepted
  · cases accepted
  · rename_i allocated
    rw [if_neg allocated]
    split at accepted
    · rename_i other
      rw [if_pos other]
      exact ⟨_, rfl, rfl⟩
    · rename_i own
      rw [if_neg own]
      cases hook : env.hook with
      | none => exact ⟨_, rfl, rfl⟩
      | some ftpEnv =>
        rw [hook] at accepted
        exact ⟨_, rfl, natFtpPacket_seq inside accepted⟩

/-- The number that is kept for an accepted packet with data is the one behind it, moved by the
change of its length. -/
theorem help_lines (filled : tcpDataoff data < data.length)
    (whole : iphdrLen data 0 + tcphdrSize ≤ data.length)
    (accepted : (help env true ct dir lines natSeq data fresh).verdict = .accept) :
    ∃ kept, (help env true ct dir lines natSeq data fresh).lines = outUpdateNl data kept lines ∧
      kept + UInt32.ofNat data.length = ftpNextSeq data +
        UInt32.ofNat (help env true ct dir lines natSeq data fresh).data.length := by
  unfold help at accepted ⊢
  simp only [Bool.not_true, Bool.false_eq_true, if_false, if_neg (Nat.not_lt.mpr whole),
    if_neg (Nat.not_le.mpr filled)] at accepted ⊢
  split at accepted
  · rename_i elsewhere
    rw [if_pos elsewhere]
    exact ⟨_, rfl, rfl⟩
  · rename_i behind
    rw [if_neg behind]
    cases outcome : searchLoop dir (initArray (ct.tuplehash dir).src.ip) (fbPtr data) search with
    | none => exact ⟨_, rfl, rfl⟩
    | some found =>
      rw [outcome] at accepted
      obtain ⟨type, found⟩ := found
      cases found with
      | noMatch => exact ⟨_, rfl, rfl⟩
      | incomplete => cases accepted
      | matched matchoff matchlen array =>
        have inside := matched_inside (findPattern_of_searchLoop outcome)
        rw [fbPtr, List.length_drop] at inside
        exact helpMatched_lines (by omega) accepted

/-- Two packets of a direction in the order of their sequence numbers, of which the first ends a
line and is let through. If it keeps its length, the helper looks at the second one. If it does not,
the second one goes through without a look, unless its number was known before. -/
theorem next_line_looked_at {next : List UInt8} (filled : tcpDataoff data < data.length)
    (whole : iphdrLen data 0 + tcphdrSize ≤ data.length) (small : data.length ≤ 65535 ∧
      (help env true ct dir lines natSeq data fresh).data.length ≤ 65535)
    (accepted : (help env true ct dir lines natSeq data fresh).verdict = .accept)
    (ends : endsInNl data = true) (follows : ftpSeq next = ftpNextSeq data) :
    ((help env true ct dir lines natSeq data fresh).data.length = data.length →
      findNlSeq (ftpSeq next) (help env true ct dir lines natSeq data fresh).lines = true) ∧
    ((help env true ct dir lines natSeq data fresh).data.length ≠ data.length →
      findNlSeq (ftpSeq next) lines = false →
      ∀ env' natSeq' fresh', ∃ lines',
        help env' true ct dir (help env true ct dir lines natSeq data fresh).lines natSeq' next
          fresh' = ⟨.accept, lines', next, natSeq', none⟩) := by
  obtain ⟨kept, left, moved⟩ := help_lines filled whole accepted
  rw [outUpdateNl, if_pos ends] at left
  rw [left, follows]
  generalize (help env true ct dir lines natSeq data fresh).data.length = length at small moved ⊢
  constructor
  · intro same
    have exactly : kept = ftpNextSeq data := by
      rw [same] at moved
      exact (UInt32.add_left_inj _).mp moved
    rw [findNlSeq, List.contains_iff_mem, ← exactly]
    exact mem_updateNlSeq kept lines
  · intro changed unknown env' natSeq' fresh'
    have missed : findNlSeq (ftpNextSeq data) (updateNlSeq kept lines) = false := by
      rw [Bool.eq_false_iff]
      intro found
      rw [findNlSeq, List.contains_iff_mem] at found
      rcases eq_or_mem_of_updateNlSeq found with same | old
      · apply changed
        rw [same] at moved
        have words := (UInt32.add_right_inj _).mp moved
        have values := congrArg UInt32.toNat words
        rw [UInt32.toNat_ofNat', UInt32.toNat_ofNat'] at values
        omega
      · rw [findNlSeq, Bool.eq_false_iff] at unknown
        exact unknown (List.contains_iff_mem.mpr old)
    unfold help
    simp only [follows, missed]
    split
    · exact ⟨_, rfl⟩
    · split
      · exact ⟨_, rfl⟩
      · split
        · exact ⟨_, rfl⟩
        · exact ⟨_, rfl⟩

end Lines

/-- The command again, in the packet behind. -/
def nextCommand : List UInt8 := portCommand.set 27 0x7b

/-- A second announcement right behind the first one is let through as it is. -/
theorem next_line_looked_at_missed :
    ftpSeq nextCommand = ftpNextSeq portCommand ∧
      ∃ lines, help freeEnv true ftpControl .original
        (help freeEnv true ftpControl .original lineBefore ⟨0, 0, 0⟩ portCommand
          ⟨⟨.original, 0⟩, 0⟩).lines ⟨0, 0, 0⟩ nextCommand ⟨⟨.original, 0⟩, 0⟩ =
        ⟨.accept, lines, nextCommand, ⟨0, 0, 0⟩, none⟩ := by
  have left : (help freeEnv true ftpControl .original lineBefore ⟨0, 0, 0⟩ portCommand
      ⟨⟨.original, 0⟩, 0⟩).data.length = 59 := by decide +kernel
  have follows : ftpSeq nextCommand = ftpNextSeq portCommand := by decide +kernel
  have looked := next_line_looked_at (by decide) (by decide) ⟨by decide, by rw [left]; decide⟩
    (by decide +kernel) (by decide) follows
  exact ⟨follows, looked.2 (by rw [left]; decide) (by decide) _ _ _⟩

end Fvs318g.Verif.FtpLines
