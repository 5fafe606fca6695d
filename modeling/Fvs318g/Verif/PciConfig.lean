import Mathlib.Tactic.IntervalCases
import Fvs318g.Arch.PciConfig

/-!
# PCI configuration writes and their neighbours

A narrow write goes to the bytes it is meant for and writes the others of the word back as they were
read. That changes no plain and no read-only byte; a byte whose bits are cleared by ones is cleared
as a whole. So a write is local exactly when it is as wide as the word or has no such neighbour with
a bit set. What is written to plain bytes is read back in any case.
-/

namespace Fvs318g.Verif.PciConfig

open Lib Arch

/-! ## The address port -/

/-- The fields of the command word. -/
theorem configCmd_fields (bus devfn where_ : BitVec 8) :
    (configCmd bus devfn where_).getLsbD 31 = true ∧
      (configCmd bus devfn where_).extractLsb' 16 8 = bus ∧
      (configCmd bus devfn where_).extractLsb' 8 8 = devfn ∧
      (configCmd bus devfn where_).extractLsb' 2 6 = where_.extractLsb' 2 6 := by
  have bits {k : Nat} {x y : BitVec k} (same : ∀ i < k, x.getLsbD i = y.getLsbD i) : x = y :=
    BitVec.eq_of_getLsbD_eq same
  refine ⟨?_, bits ?_, bits ?_, bits ?_⟩
  · simp [configCmd]
  all_goals
    intro i inside
    interval_cases i <;> simp [configCmd]

/-- The word of a byte. -/
theorem extract_word_eq_iff (x y : BitVec 8) :
    x.extractLsb' 2 6 = y.extractLsb' 2 6 ↔ x.toNat / 4 = y.toNat / 4 := by
  rw [← BitVec.toNat_inj, BitVec.extractLsb'_toNat, BitVec.extractLsb'_toNat,
    Nat.shiftRight_eq_div_pow, Nat.shiftRight_eq_div_pow]
  have := x.isLt
  have := y.isLt
  omega

/-- A byte is in the word of a place. -/
def SameWord (bus devfn where_ : BitVec 8) (a : ConfigByte) : Prop :=
  a.bus = bus ∧ a.devfn = devfn ∧ a.offset.toNat / 4 = where_.toNat / 4

instance (bus devfn where_ : BitVec 8) (a : ConfigByte) : Decidable (SameWord bus devfn where_ a) :=
  inferInstanceAs (Decidable (_ ∧ _))

/-- The command word selects the word of its place. -/
theorem selects_configCmd_iff (h : PciHost) (bus devfn where_ : BitVec 8) (a : ConfigByte) :
    (h.writeAddr (configCmd bus devfn where_)).Selects a ↔ SameWord bus devfn where_ a := by
  obtain ⟨enabled, busField, devfnField, wordField⟩ := configCmd_fields bus devfn where_
  simp only [PciHost.Selects, PciHost.writeAddr, enabled, busField, devfnField, wordField,
    extract_word_eq_iff, true_and, SameWord]
  constructor
  · rintro ⟨sameBus, sameDevfn, sameWord⟩
    exact ⟨sameBus.symm, sameDevfn.symm, sameWord.symm⟩
  · rintro ⟨sameBus, sameDevfn, sameWord⟩
    exact ⟨sameBus.symm, sameDevfn.symm, sameWord.symm⟩

/-! ## Words and bytes -/

/-- A bit of a byte of a word. -/
theorem getLsbD_wordByte (v : Word) (k : Nat) {i : Nat} (below : i < 8) :
    (wordByte v k).getLsbD i = v.getLsbD (8 * k + i) := by
  rw [wordByte, BitVec.getLsbD_extractLsb', decide_eq_true below, Bool.true_and]

/-- The bytes of a word that is put together from four. -/
theorem wordByte_append (f : BitVec 2 → BitVec 8) (k : BitVec 2) :
    wordByte (f 3 ++ f 2 ++ f 1 ++ f 0) k.toNat = f k := by
  have four : k = 0 ∨ k = 1 ∨ k = 2 ∨ k = 3 := by
    revert k
    decide
  apply BitVec.eq_of_getLsbD_eq
  intro i below
  rw [getLsbD_wordByte _ _ below, BitVec.getLsbD_append, BitVec.getLsbD_append,
    BitVec.getLsbD_append]
  rcases four with zero | one | two | three
  · have index : 8 * k.toNat + i = i := by rw [zero]; exact Nat.zero_add i
    rw [index, if_pos below, zero]
  · have index : 8 * k.toNat + i = 8 + i := by rw [one]; rfl
    rw [index, if_neg (by omega), if_pos (by omega), one, Nat.add_sub_cancel_left]
  · have index : 8 * k.toNat + i = 8 + (8 + i) := by rw [two]; exact Nat.add_assoc 8 8 i
    rw [index, if_neg (by omega), Nat.add_sub_cancel_left, if_neg (by omega), if_pos (by omega),
      two, Nat.add_sub_cancel_left]
  · have index : 8 * k.toNat + i = 8 + (8 + (8 + i)) := by rw [three]; show 24 + i = _; omega
    rw [index, if_neg (by omega), Nat.add_sub_cancel_left, if_neg (by omega),
      Nat.add_sub_cancel_left, if_neg (by omega), three, Nat.add_sub_cancel_left]

/-- The bytes of a read of the data port. -/
theorem wordByte_readData (h : PciHost) (bus devfn where_ : BitVec 8) {a : ConfigByte}
    (word : SameWord bus devfn where_ a) :
    wordByte (h.writeAddr (configCmd bus devfn where_)).readData (a.offset.toNat % 4) =
      h.value a := by
  obtain ⟨enabled, busField, devfnField, wordField⟩ := configCmd_fields bus devfn where_
  obtain ⟨sameBus, sameDevfn, sameWord⟩ := word
  have chosen (k : BitVec 2) :
      (h.writeAddr (configCmd bus devfn where_)).selected k =
        h.value ⟨bus, devfn, where_.extractLsb' 2 6 ++ k⟩ := by
    rw [PciHost.selected, PciHost.writeAddr]
    simp only [busField, devfnField, wordField]
  have halves : ∀ x : BitVec 8, x.extractLsb' 2 6 ++ x.extractLsb' 0 2 = x := by decide
  have here : (⟨bus, devfn, where_.extractLsb' 2 6 ++ a.offset.extractLsb' 0 2⟩ : ConfigByte) =
      a := by
    rw [← (extract_word_eq_iff _ _).mpr sameWord, halves, ← sameBus, ← sameDevfn]
  have number : (a.offset.extractLsb' 0 2).toNat = a.offset.toNat % 4 := by
    rw [BitVec.extractLsb'_toNat, Nat.shiftRight_zero]
  have answers : (h.writeAddr (configCmd bus devfn where_)).configAddr.getLsbD 31 = true := enabled
  rw [PciHost.readData, if_pos answers, ← number, wordByte_append, chosen, here]

/-- A byte after a field of bytes was replaced. -/
theorem wordByte_setBits (v val : Word) {size place k : Nat} (fits : val.toNat < 2 ^ (8 * size))
    (inside : k < 4) :
    wordByte (setBits v (ones 32 (8 * size)) (8 * place) val) k =
      if place ≤ k ∧ k < place + size then wordByte val (k - place) else wordByte v k := by
  apply BitVec.eq_of_getLsbD_eq
  intro i below
  rw [getLsbD_wordByte _ _ below]
  split
  · rename_i field
    rw [getLsbD_wordByte _ _ below, getLsbD_setBits_from _ _ _ (by omega) (by omega),
      decide_eq_false (by omega), Bool.false_and, Bool.false_or]
    congr 1
    omega
  · rename_i outside
    rw [getLsbD_wordByte _ _ below]
    by_cases before : k < place
    · exact getLsbD_setBits_below _ _ _ (by omega)
    · rw [getLsbD_setBits_from _ _ _ (by omega) (by omega), decide_eq_true (by omega),
        Bool.true_and, getLsbD_of_fits fits (by omega), Bool.or_false]

/-! ## Writes -/

/-- A byte is one of those accessed. -/
def Accessed (bus devfn where_ : BitVec 8) (size : Nat) (a : ConfigByte) : Prop :=
  a.bus = bus ∧ a.devfn = devfn ∧ where_.toNat ≤ a.offset.toNat ∧
    a.offset.toNat < where_.toNat + size

instance (bus devfn where_ : BitVec 8) (size : Nat) (a : ConfigByte) :
    Decidable (Accessed bus devfn where_ size a) :=
  inferInstanceAs (Decidable (_ ∧ _))

/-- The configuration bytes after a direct write of the accessed bytes. -/
def directWrite (bus devfn where_ : BitVec 8) (size : Nat) (val : Word) (h : PciHost)
    (a : ConfigByte) : BitVec 8 :=
  if Accessed bus devfn where_ size a then
    (h.kind a).written (h.value a) (wordByte val (a.offset.toNat - where_.toNat))
  else h.value a

/-- The shift of an access is that of its first byte. -/
theorem pciShift_eq (where_ : BitVec 8) : pciShift where_ = 8 * (where_.toNat % 4) := by
  rw [pciShift, Nat.shiftLeft_eq, Nat.mul_comm]
  exact congrArg (8 * ·) (Nat.and_two_pow_sub_one_eq_mod where_.toNat 2)

/-- A write of one, two or four bytes at a multiple of its size, with a value of that size. -/
structure Access (where_ : BitVec 8) (size : Nat) (val : Word) : Prop where
  /-- The number of bytes. -/
  count : size = 1 ∨ size = 2 ∨ size = 4
  /-- The offset is a multiple of it. -/
  aligned : where_.toNat % size = 0
  /-- The value has that many bytes. -/
  fits : val.toNat < 2 ^ (8 * size)

section Access

variable {where_ : BitVec 8} {size : Nat} {val : Word} (access : Access where_ size val)
include access

/-- An aligned access stays in its word. -/
theorem Access.inside : where_.toNat % 4 + size ≤ 4 := by
  have aligned := access.aligned
  rcases access.count with one | two | four
  · omega
  · rw [two] at aligned ⊢
    omega
  · rw [four] at aligned ⊢
    omega

variable (bus devfn : BitVec 8)

/-- The accessed bytes are those of the word at the places of the access. -/
theorem Access.accessed_iff (a : ConfigByte) :
    Accessed bus devfn where_ size a ↔ SameWord bus devfn where_ a ∧
      where_.toNat % 4 ≤ a.offset.toNat % 4 ∧ a.offset.toNat % 4 < where_.toNat % 4 + size := by
  have inside := access.inside
  constructor
  · rintro ⟨bus, devfn, from_, below⟩
    refine ⟨⟨bus, devfn, ?_⟩, ?_, ?_⟩
    · omega
    · omega
    · omega
  · rintro ⟨⟨bus, devfn, word⟩, from_, below⟩
    refine ⟨bus, devfn, ?_, ?_⟩
    · omega
    · omega

/-- The word that a write puts into the data port has the value's bytes in the accessed places and
the old bytes in the others. -/
theorem Access.writeConfig_eq (h : PciHost) :
    ∃ v, str9100PciWriteConfig bus devfn where_ size val h =
        (h.writeAddr (configCmd bus devfn where_)).writeData v ∧
      ∀ a, SameWord bus devfn where_ a →
        wordByte v (a.offset.toNat % 4) =
          if Accessed bus devfn where_ size a then wordByte val (a.offset.toNat - where_.toNat)
          else h.value a := by
  have byte {a : ConfigByte} (word : SameWord bus devfn where_ a) :
      wordByte (setBits (h.writeAddr (configCmd bus devfn where_)).readData (ones 32 (8 * size))
          (8 * (where_.toNat % 4)) val) (a.offset.toNat % 4) =
        if Accessed bus devfn where_ size a then wordByte val (a.offset.toNat - where_.toNat)
        else h.value a := by
    rw [wordByte_setBits _ _ access.fits (Nat.mod_lt _ (by decide)), wordByte_readData h _ _ _ word]
    have sameWord := word.2.2
    have place : a.offset.toNat % 4 - where_.toNat % 4 = a.offset.toNat - where_.toNat := by omega
    simp only [access.accessed_iff, word, true_and, place]
  rcases access.count with one | two | four
  · subst one
    refine ⟨_, rfl, fun a word => ?_⟩
    rw [pciShift_eq]
    exact byte word
  · subst two
    refine ⟨_, rfl, fun a word => ?_⟩
    rw [pciShift_eq]
    exact byte word
  · subst four
    refine ⟨val, rfl, fun a word => ?_⟩
    have start : where_.toNat % 4 = 0 := access.aligned
    have sameWord := word.2.2
    have here : Accessed bus devfn where_ 4 a := ⟨word.1, word.2.1, by omega, by omega⟩
    have place : a.offset.toNat - where_.toNat = a.offset.toNat % 4 := by omega
    rw [if_pos here, place]

/-- The configuration bytes after a write. -/
theorem Access.writeConfig_value (h : PciHost) (a : ConfigByte) :
    (str9100PciWriteConfig bus devfn where_ size val h).value a =
      if SameWord bus devfn where_ a ∧ ¬ Accessed bus devfn where_ size a then
        (h.kind a).written (h.value a) (h.value a)
      else directWrite bus devfn where_ size val h a := by
  obtain ⟨v, written, bytes⟩ := access.writeConfig_eq bus devfn h
  rw [written, PciHost.writeData, directWrite]
  simp only [selects_configCmd_iff]
  have covered := (access.accessed_iff bus devfn a).mp
  by_cases word : SameWord bus devfn where_ a
  · rw [if_pos word, bytes a word]
    by_cases here : Accessed bus devfn where_ size a
    · rw [if_pos here, if_neg (fun both => both.2 here), if_pos here]
      rfl
    · rw [if_neg here, if_pos ⟨word, here⟩]
      rfl
  · have outside : ¬ Accessed bus devfn where_ size a := fun here => word (covered here).1
    rw [if_neg word, if_neg (fun both => word both.1), if_neg outside]
    rfl

/-- A read of bytes that are those of a value. -/
theorem Access.readConfig_eq {h : PciHost} (bytes : ∀ a, Accessed bus devfn where_ size a →
      h.value a = wordByte val (a.offset.toNat - where_.toNat))
    : (str9100PciReadConfig bus devfn where_ size h).1 = val := by
  have inside := access.inside
  -- bit by bit: the bit is in some accessed byte
  have bit (i : Nat) (below : i < 8 * size) :
      (h.writeAddr (configCmd bus devfn where_)).readData.getLsbD (8 * (where_.toNat % 4) + i) =
        val.getLsbD i := by
    let a : ConfigByte := ⟨bus, devfn, BitVec.ofNat 8 (where_.toNat + i / 8)⟩
    have offset : a.offset.toNat = where_.toNat + i / 8 := by
      have := where_.isLt
      exact Nat.mod_eq_of_lt (by omega)
    have here : Accessed bus devfn where_ size a := ⟨rfl, rfl, by omega, by omega⟩
    have read := wordByte_readData h bus devfn where_ ((access.accessed_iff bus devfn a).mp here).1
    rw [bytes a here] at read
    have same := congrArg (fun byte => byte.getLsbD (i % 8)) read
    simp only [getLsbD_wordByte _ _ (Nat.mod_lt i (by decide : 0 < 8))] at same
    have left : 8 * (a.offset.toNat % 4) + i % 8 = 8 * (where_.toNat % 4) + i := by omega
    have right : 8 * (a.offset.toNat - where_.toNat) + i % 8 = i := by omega
    rw [left, right] at same
    exact same
  have narrow : field (h.writeAddr (configCmd bus devfn where_)).readData (8 * (where_.toNat % 4))
      (8 * size) = val := by
    apply BitVec.eq_of_getLsbD_eq
    intro i _
    rw [getLsbD_field]
    by_cases below : i < 8 * size
    · rw [decide_eq_true below, Bool.true_and, bit i below]
    · rw [decide_eq_false below, Bool.false_and, getLsbD_of_fits access.fits (by omega)]
  rcases access.count with one | two | four
  · subst one
    rw [str9100PciReadConfig, pciShift_eq]
    exact narrow
  · subst two
    rw [str9100PciReadConfig, pciShift_eq]
    exact narrow
  · subst four
    have start : where_.toNat % 4 = 0 := access.aligned
    apply BitVec.eq_of_getLsbD_eq
    intro i below
    have same := bit i below
    rw [start, Nat.mul_zero, Nat.zero_add] at same
    exact same

/-- What is written to plain bytes is read back, whatever becomes of the others. -/
theorem Access.readBack (h : PciHost)
    (plain : ∀ a, Accessed bus devfn where_ size a → h.kind a = .readWrite) :
    (str9100PciReadConfig bus devfn where_ size
      (str9100PciWriteConfig bus devfn where_ size val h)).1 = val := by
  apply access.readConfig_eq bus devfn
  intro a here
  rw [access.writeConfig_value, if_neg (fun both => both.2 here), directWrite, if_pos here,
    plain a here, ByteKind.written]

end Access

/-! ## Local writes -/

/-- A write changes the accessed bytes as a direct write does and no others, and plain bytes are
read back. -/
structure WriteIsLocal (bus devfn where_ : BitVec 8) (size : Nat) (val : Word) (h : PciHost) :
    Prop where
  /-- The configuration bytes. -/
  direct : ∀ a, (str9100PciWriteConfig bus devfn where_ size val h).value a =
    directWrite bus devfn where_ size val h a
  /-- The value read back. -/
  readBack : (∀ a, Accessed bus devfn where_ size a → h.kind a = .readWrite) →
    (str9100PciReadConfig bus devfn where_ size
      (str9100PciWriteConfig bus devfn where_ size val h)).1 = val

/-- A byte that is written back as it was read. -/
theorem written_self_iff (kind : ByteKind) (old : BitVec 8) :
    kind.written old old = old ↔ (kind = .writeOneToClear → old = 0) := by
  cases kind with
  | readWrite => exact iff_of_true rfl nofun
  | readOnly => exact iff_of_true rfl nofun
  | writeOneToClear =>
    have cleared : old &&& ~~~old = 0 := BitVec.and_not_self old
    rw [ByteKind.written, cleared, eq_comm]
    exact ⟨fun zero _ => zero, fun zero => zero rfl⟩

/-- A write is local exactly when no other byte of its word has bits that are cleared by writing
them back. -/
theorem pci_write_local_iff (bus devfn where_ : BitVec 8) (size : Nat) (val : Word) (h : PciHost)
    (access : Access where_ size val) :
    WriteIsLocal bus devfn where_ size val h ↔
      ∀ a, SameWord bus devfn where_ a → ¬ Accessed bus devfn where_ size a →
        h.kind a = .writeOneToClear → h.value a = 0 := by
  constructor
  · intro isLocal a word outside
    have same := isLocal.direct a
    rw [access.writeConfig_value, if_pos ⟨word, outside⟩, directWrite, if_neg outside] at same
    exact (written_self_iff _ _).mp same
  · intro harmless
    have direct (a : ConfigByte) : (str9100PciWriteConfig bus devfn where_ size val h).value a =
        directWrite bus devfn where_ size val h a := by
      rw [access.writeConfig_value]
      split
      · rename_i neighbour
        rw [directWrite, if_neg neighbour.2]
        exact (written_self_iff _ _).mpr (harmless a neighbour.1 neighbour.2)
      · rfl
    exact ⟨direct, access.readBack bus devfn h⟩

/-- A function with a plain command register and a status register that is cleared by ones, in which
an error is reported. -/
def commandAndStatus : PciHost where
  configAddr := 0
  kind a := if a.offset = 6 ∨ a.offset = 7 then .writeOneToClear else .readWrite
  value a := if a.offset = 7 then 0x80 else 0

/-- A byte in a word without status bits. -/
theorem pci_write_local_line : WriteIsLocal 0 0x60 0x3c 1 0x0b commandAndStatus := by
  have access : Access 0x3c 1 0x0b := ⟨by decide, by decide, by decide⟩
  refine (pci_write_local_iff _ _ _ _ _ _ access).mpr ?_
  intro a word _ clears
  have elsewhere := word.2.2
  simp only [commandAndStatus] at clears
  split at clears
  · rename_i status
    rcases status with low | high
    · rw [low] at elsewhere
      exact absurd elsewhere (by decide)
    · rw [high] at elsewhere
      exact absurd elsewhere (by decide)
  · cases clears

/-- A write of the command register clears the error in the status register behind it. -/
theorem pci_write_clears_status :
    (str9100PciWriteConfig 0 0x60 0x04 2 0x7 commandAndStatus).value ⟨0, 0x60, 7⟩ = 0 ∧
      directWrite 0 0x60 0x04 2 0x7 commandAndStatus ⟨0, 0x60, 7⟩ = 0x80 := by
  decide

end Fvs318g.Verif.PciConfig
