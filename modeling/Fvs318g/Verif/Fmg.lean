import Fvs318g.Gsw.Fmg
import Mathlib.Data.List.GetD
import Mathlib.Tactic.Common

/-!
# What the environment lookup returns

The search for the name stays inside the block and finds the first occurrence. The search for the
end character has no bound, and it starts at the name: it finds a character inside the name, and
it runs out of the block when neither the end character nor a NUL follows.
-/

namespace Fvs318g.Verif.Fmg

open Lib Gsw

/-! ## The search for the end -/

/-- The search stops at this byte. -/
def Stops (c byte : UInt8) : Prop := byte = c ∨ byte = 0

instance (c byte : UInt8) : Decidable (Stops c byte) := inferInstanceAs (Decidable (_ ∨ _))

section Strchr

variable {c : UInt8} {passed : List UInt8}

/-- Bytes that do not stop the search are neither the character nor a NUL. -/
theorem not_mem_of_not_stops (none_ : ∀ byte ∈ passed, ¬ Stops c byte) : 0 ∉ passed ∧ c ∉ passed :=
  ⟨fun nul => none_ 0 nul (.inr rfl), fun here => none_ c here (.inl rfl)⟩

/-- The search finds the character behind them. -/
theorem strchr_passed (none_ : ∀ byte ∈ passed, ¬ Stops c byte) (rest : List UInt8) :
    strchr c (passed ++ c :: rest) = some (some passed.length) :=
  have absent := not_mem_of_not_stops none_
  strchr_found absent.1 absent.2 rest

/-- It ends without it at a NUL. -/
theorem strchr_nul (none_ : ∀ byte ∈ passed, ¬ Stops c byte) (other : c ≠ 0)
    (rest : List UInt8) : strchr c (passed ++ 0 :: rest) = some none := by
  have absent := not_mem_of_not_stops none_
  rw [strchr_append absent.1 absent.2, strchr, if_neg (Ne.symm other), if_pos rfl, Option.map_some,
    Option.map_none]

/-- It does not end in memory that has neither. -/
theorem strchr_none (none_ : ∀ byte ∈ passed, ¬ Stops c byte) : strchr c passed = none :=
  strchr_eq_none.mpr (not_mem_of_not_stops none_).symm

end Strchr

/-- The bytes up to the first one that stops the search. -/
theorem exists_first_stop {c : UInt8} {bytes : List UInt8} (stop : ∃ byte ∈ bytes, Stops c byte) :
    ∃ passed byte rest, bytes = passed ++ byte :: rest ∧ Stops c byte ∧
      ∀ other ∈ passed, ¬ Stops c other := by
  obtain ⟨byte, member, stops⟩ := stop
  have found : (bytes.find? fun byte => decide (Stops c byte)).isSome = true := by
    rw [List.find?_isSome]
    exact ⟨byte, member, decide_eq_true stops⟩
  obtain ⟨first, first_eq⟩ := Option.isSome_iff_exists.mp found
  obtain ⟨here, passed, rest, split, before⟩ := List.find?_eq_some_iff_append.mp first_eq
  refine ⟨passed, first, rest, split, of_decide_eq_true here, fun other inPassed => ?_⟩
  have passes := before other inPassed
  rw [Bool.not_eq_true', decide_eq_false_iff_not] at passes
  exact passes

/-! ## The search for the name -/

/-- The name stands at the start of the block or right behind a NUL. -/
def Occurs (block : List UInt8) (name : CString) (n : Nat) : Prop :=
  n + name.strlen ≤ block.length ∧ nameAt block name n = true ∧ (n = 0 ∨ block.getD (n - 1) 0 = 0)

/-- The first such place. -/
def OccursFirst (block : List UInt8) (name : CString) (n : Nat) : Prop :=
  Occurs block name n ∧ ∀ m, m < n → ¬ Occurs block name m

section Scan

variable {block behind : List UInt8} {name : CString} {n m left : Nat}

/-- A comparison inside the block does not see what is behind it. -/
theorem nameAt_append (inside : n + name.strlen ≤ block.length) :
    nameAt (block ++ behind) name n = nameAt block name n := by
  have room : name.strlen ≤ (block.drop n).length := by
    rw [List.length_drop]
    omega
  rw [nameAt, nameAt, List.drop_append_of_le_length (by omega), List.take_append_of_le_length room]

/-- Nor does the search loop. -/
theorem fmgScan_append (inside : n + left + name.strlen ≤ block.length) :
    fmgScan (block ++ behind) name n left = fmgScan block name n left := by
  induction left generalizing n with
  | zero => rfl
  | succ left ih =>
    rw [fmgScan, fmgScan, List.getD_append _ _ _ _ (by omega), nameAt_append (by omega),
      ih (by omega)]

/-- What the loop finds is a name behind a NUL, and the first one. -/
theorem fmgScan_some (found : fmgScan block name n left = some m) :
    n < m ∧ m ≤ n + left ∧ block.getD (m - 1) 0 = 0 ∧ nameAt block name m = true ∧
      ∀ k, n < k → k < m → block.getD (k - 1) 0 = 0 → nameAt block name k = false := by
  induction left generalizing n with
  | zero => simp only [fmgScan, reduceCtorEq] at found
  | succ left ih =>
    -- The next place is passed when it is no name or not behind a NUL.
    have next : (block.getD n 0 = 0 → nameAt block name (n + 1) = false) →
        fmgScan block name (n + 1) left = some m →
        n < m ∧ m ≤ n + (left + 1) ∧ block.getD (m - 1) 0 = 0 ∧ nameAt block name m = true ∧
          ∀ k, n < k → k < m → block.getD (k - 1) 0 = 0 → nameAt block name k = false := by
      intro passed found
      obtain ⟨above, below, nul, named, before⟩ := ih found
      refine ⟨by omega, by omega, nul, named, fun k from_ upTo nulBefore => ?_⟩
      by_cases here : k = n + 1
      · rw [here] at nulBefore ⊢
        exact passed nulBefore
      · exact before k (by omega) upTo nulBefore
    rw [fmgScan] at found
    by_cases nul : block.getD n 0 = 0
    · rw [if_pos nul] at found
      cases named : nameAt block name (n + 1) with
      | true =>
        rw [named, if_pos rfl, Option.some.injEq] at found
        rw [← found]
        exact ⟨by omega, by omega, nul, named, fun k from_ upTo => absurd upTo (by omega)⟩
      | false =>
        rw [named, if_neg Bool.false_ne_true] at found
        exact next (fun _ => named) found
    · rw [if_neg nul] at found
      exact next (fun isNul => absurd isNul nul) found

/-- When the loop finds nothing there is nothing to find. -/
theorem fmgScan_none (missing : fmgScan block name n left = none) (from_ : n < m)
    (below : m ≤ n + left) (nul : block.getD (m - 1) 0 = 0) : nameAt block name m = false := by
  induction left generalizing n with
  | zero => omega
  | succ left ih =>
    rw [fmgScan] at missing
    by_cases here : m = n + 1
    · rw [here, Nat.add_sub_cancel] at nul
      rw [if_pos nul, ← here] at missing
      cases named : nameAt block name m with
      | true =>
        rw [named, if_pos rfl] at missing
        exact absurd missing (Option.some_ne_none _)
      | false => rfl
    · refine ih (n := n + 1) ?_ (by omega) (by omega)
      split_ifs at missing <;> exact missing

/-- The search finds the first occurrence in the block, whatever is behind it. -/
theorem fmgFind_eq_some_iff {size : Nat} (length : block.length = size)
    (short : name.strlen ≤ size) :
    fmgFind size (block ++ behind) name = some n ↔ OccursFirst block name n := by
  rw [← length] at short ⊢
  have inside : 0 + (block.length - name.strlen) + name.strlen ≤ block.length := by omega
  rw [fmgFind, nameAt_append (by omega), fmgScan_append inside]
  cases start : nameAt block name 0 with
  | true =>
    have occurs : Occurs block name 0 := ⟨by omega, start, Or.inl rfl⟩
    rw [if_pos rfl, Option.some.injEq]
    constructor
    · intro zero
      rw [← zero]
      exact ⟨occurs, fun m below => absurd below (Nat.not_lt_zero m)⟩
    · intro first
      apply Classical.byContradiction
      intro other
      exact first.2 0 (by omega) occurs
  | false =>
    rw [if_neg Bool.false_ne_true]
    have notStart : ¬ Occurs block name 0 := by
      intro occurs
      exact absurd (start.symm.trans occurs.2.1) Bool.false_ne_true
    constructor
    · intro found
      obtain ⟨above, below, nul, named, before⟩ := fmgScan_some found
      refine ⟨⟨by omega, named, Or.inr nul⟩, fun m earlier occurs => ?_⟩
      rcases Nat.eq_zero_or_pos m with zero | positive
      · rw [zero] at occurs
        exact notStart occurs
      · have passed := before m positive earlier (occurs.2.2.resolve_left (by omega))
        exact absurd (passed.symm.trans occurs.2.1) Bool.false_ne_true
    · intro first
      have positive : 0 < n := by
        rcases Nat.eq_zero_or_pos n with zero | positive
        · rw [zero] at first
          exact absurd first.1 notStart
        · exact positive
      have nul := first.1.2.2.resolve_left (by omega)
      cases found : fmgScan block name 0 (block.length - name.strlen) with
      | none =>
        have missed := fmgScan_none found positive (by have := first.1.1; omega) nul
        exact absurd (missed.symm.trans first.1.2.1) Bool.false_ne_true
      | some m =>
        obtain ⟨above, below, nul', named, before⟩ := fmgScan_some found
        have notEarlier : ¬ m < n := fun earlier =>
          first.2 m earlier ⟨by omega, named, Or.inr nul'⟩
        have notLater : ¬ n < m := fun later =>
          absurd ((before n positive later nul).symm.trans first.1.2.1) Bool.false_ne_true
        rw [show m = n by omega]

/-- A byte behind a place. -/
theorem getD_drop (i : Nat) : (block.drop n).getD i 0 = block.getD (n + i) 0 := by
  rw [List.getD_eq_getElem?_getD, List.getD_eq_getElem?_getD, List.getElem?_drop]

/-- From an occurrence on, the block is the name and the rest. -/
theorem Occurs.drop_eq (occurs : Occurs block name n) :
    block.drop n = name.chars ++ block.drop (n + name.strlen) := by
  have named : (block.drop n).take name.strlen = name.chars := eq_of_beq occurs.2.1
  rw [← List.drop_drop, ← named, List.take_append_drop]

end Scan

/-! ## What a lookup has to do -/

/-- A value starts right behind the first occurrence of the name, and it and the end character that
closes it are inside the block and inside the same entry; everything else is an error. -/
def SoundResult (block : List UInt8) (valueEnd : UInt8) (name : CString) (result : FmgResult) :
    Prop :=
  (result.ret = 0 → ∃ n len : Nat, result.value = some (n + name.strlen, (len : Int)) ∧
    OccursFirst block name n ∧ n + name.strlen + len < block.length ∧
    block.getD (n + name.strlen + len) 0 = valueEnd ∧
    ∀ j, n ≤ j → j < n + name.strlen + len → block.getD j 0 ≠ 0) ∧
  (result.ret ≠ 0 → result.ret < 0)

/-- The lookup returns a sound result, whatever lies behind the block. -/
def StaysInside {size : Nat} (mtdBuf : Vector UInt8 size) (valueEnd : UInt8) (name : CString) :
    Prop :=
  ∃ result, (∀ behind, fmgGet mtdBuf behind valueEnd name = some result) ∧
    SoundResult mtdBuf.toList valueEnd name result

/-- If the name occurs, the end character is not part of it, and that character or a NUL follows
its first occurrence inside the block. -/
def LookupSafe (block : List UInt8) (valueEnd : UInt8) (name : CString) : Prop :=
  ∀ n, OccursFirst block name n → valueEnd ∉ name.chars ∧
    ∃ byte ∈ block.drop (n + name.strlen), Stops valueEnd byte

/-- A name without the end character does not stop the search. -/
theorem name_not_stops {valueEnd : UInt8} {name : CString} (apart : valueEnd ∉ name.chars) :
    ∀ byte ∈ name.chars, ¬ Stops valueEnd byte := by
  rintro byte named (same | nul)
  · exact apart (same ▸ named)
  · exact name.nonzero (nul ▸ named)

section Lookup

variable {size : Nat} {mtdBuf : Vector UInt8 size} {valueEnd : UInt8} {name : CString} {n : Nat}

/-- A name that does not occur is not found. -/
theorem fmgGet_missing (short : name.strlen < size)
    (missing : ∀ n, ¬ OccursFirst mtdBuf.toList name n) (behind : List UInt8) :
    fmgGet mtdBuf behind valueEnd name = some ⟨-1, none⟩ := by
  have length : mtdBuf.toList.length = size := Vector.length_toList
  have find : ∀ n, fmgFind size (mtdBuf.toList ++ behind) name ≠ some n := by
    intro n found
    exact missing n ((fmgFind_eq_some_iff length (Nat.le_of_lt short)).mp found)
  simp only [fmgGet]
  cases found : fmgFind size (mtdBuf.toList ++ behind) name with
  | none => rfl
  | some n => exact absurd found (find n)

/-- From the first occurrence on, the end is searched over the name and what follows. -/
theorem fmgGet_found (short : name.strlen < size) (first : OccursFirst mtdBuf.toList name n)
    (behind : List UInt8) :
    fmgGet mtdBuf behind valueEnd name =
      (strchr valueEnd (name.chars ++ (mtdBuf.toList.drop (n + name.strlen) ++ behind))).map
        (fmgResult name n) := by
  have length : mtdBuf.toList.length = size := Vector.length_toList
  have found : fmgFind size (mtdBuf.toList ++ behind) name = some n :=
    (fmgFind_eq_some_iff length (Nat.le_of_lt short)).mpr first
  have inside := first.1.1
  simp only [fmgGet, found]
  rw [List.drop_append_of_le_length (by omega), first.1.drop_eq, List.append_assoc]

/-- With the end character in the name the length is negative. -/
theorem not_staysInside_of_mem (short : name.strlen < size)
    (first : OccursFirst mtdBuf.toList name n) (member : valueEnd ∈ name.chars) :
    ¬ StaysInside mtdBuf valueEnd name := by
  rintro ⟨result, returned, sound⟩
  obtain ⟨passed, byte, rest, split, stops, none_⟩ :=
    exists_first_stop ⟨valueEnd, member, Or.inl rfl⟩
  have isEnd : byte = valueEnd := by
    refine stops.resolve_right fun nul => name.nonzero ?_
    rw [← nul, split]
    exact List.mem_append_right _ List.mem_cons_self
  have early : passed.length < name.strlen := by
    rw [CString.strlen, split, List.length_append, List.length_cons]
    omega
  have result_eq := returned []
  rw [fmgGet_found short first, split, isEnd, List.append_assoc, List.cons_append,
    strchr_passed none_, Option.map_some, Option.some.injEq] at result_eq
  rw [← result_eq, fmgResult] at sound
  obtain ⟨m, len, value, _⟩ := sound.1 rfl
  simp only [Option.some.injEq, Prod.mk.injEq] at value
  omega

/-- Without an end in the block the search leaves it. -/
theorem not_staysInside_of_open (short : name.strlen < size)
    (first : OccursFirst mtdBuf.toList name n) (apart : valueEnd ∉ name.chars)
    (open_ : ∀ byte ∈ mtdBuf.toList.drop (n + name.strlen), ¬ Stops valueEnd byte) :
    ¬ StaysInside mtdBuf valueEnd name := by
  rintro ⟨result, returned, _⟩
  have none_ : ∀ byte ∈ name.chars ++ mtdBuf.toList.drop (n + name.strlen),
      ¬ Stops valueEnd byte := by
    intro byte member
    rcases List.mem_append.mp member with named | later
    · exact name_not_stops apart byte named
    · exact open_ byte later
  have result_eq := returned []
  rw [fmgGet_found short first, List.append_nil, strchr_none none_] at result_eq
  exact absurd result_eq (Option.some_ne_none _).symm

/-- A value in front of an end character is a sound result. -/
theorem soundResult_value (first : OccursFirst mtdBuf.toList name n) {passed rest : List UInt8}
    (entry : mtdBuf.toList.drop n = (name.chars ++ passed) ++ valueEnd :: rest)
    (noneBefore : ∀ byte ∈ name.chars ++ passed, ¬ Stops valueEnd byte) :
    SoundResult mtdBuf.toList valueEnd name
      ⟨0, some (n + name.strlen, passed.length)⟩ := by
  have reach : (name.chars ++ passed).length = name.strlen + passed.length := List.length_append
  refine ⟨fun _ => ⟨n, passed.length, rfl, first, ?_, ?_, fun j above below => ?_⟩,
    fun nonzero => absurd rfl nonzero⟩
  · have total := congrArg List.length entry
    rw [List.length_drop, List.length_append, reach, List.length_cons] at total
    omega
  · have here := List.getD_append_right (name.chars ++ passed) (valueEnd :: rest) 0
      (name.strlen + passed.length) (by omega)
    rw [← entry, reach, Nat.sub_self, List.getD_cons_zero, getD_drop] at here
    rw [Nat.add_assoc]
    exact here
  · have inside : j - n < (name.chars ++ passed).length := by omega
    have here := List.getD_append (name.chars ++ passed) (valueEnd :: rest) 0 (j - n) inside
    rw [← entry, getD_drop, Nat.add_sub_cancel' above, List.getD_eq_getElem _ _ inside] at here
    rw [here]
    exact fun nul => noneBefore _ (List.getElem_mem inside) (Or.inr nul)

/-- With an end behind the name the lookup returns a value or an error. -/
theorem staysInside_of_closed (short : name.strlen < size)
    (first : OccursFirst mtdBuf.toList name n) (apart : valueEnd ∉ name.chars)
    (closed : ∃ byte ∈ mtdBuf.toList.drop (n + name.strlen), Stops valueEnd byte) :
    StaysInside mtdBuf valueEnd name := by
  obtain ⟨passed, byte, rest, split, stops, none_⟩ := exists_first_stop closed
  have noneBefore : ∀ other ∈ name.chars ++ passed, ¬ Stops valueEnd other := by
    intro other member
    rcases List.mem_append.mp member with named | later
    · exact name_not_stops apart other named
    · exact none_ other later
  have search : ∀ behind, fmgGet mtdBuf behind valueEnd name =
      (strchr valueEnd ((name.chars ++ passed) ++ byte :: (rest ++ behind))).map
        (fmgResult name n) := by
    intro behind
    rw [fmgGet_found short first, split]
    simp only [List.append_assoc, List.cons_append]
  by_cases isEnd : byte = valueEnd
  · have entry : mtdBuf.toList.drop n = (name.chars ++ passed) ++ valueEnd :: rest := by
      rw [first.1.drop_eq, split, isEnd, List.append_assoc]
    have length : ((name.chars ++ passed).length : Int) - name.strlen = passed.length := by
      rw [List.length_append, CString.strlen]
      omega
    refine ⟨_, fun behind => ?_, soundResult_value first entry noneBefore⟩
    rw [search, isEnd, strchr_passed noneBefore, Option.map_some, fmgResult, length]
  · have nul : byte = 0 := stops.resolve_left isEnd
    have other : valueEnd ≠ 0 := fun zero => isEnd (nul.trans zero.symm)
    refine ⟨⟨-2, none⟩, fun behind => ?_, fun zero => ?_, fun _ => ?_⟩
    · rw [search, nul, strchr_nul noneBefore other, Option.map_some, fmgResult]
    · exact absurd zero (by decide)
    · decide

end Lookup

/-- For every block and every name that is shorter, the lookup stays inside the block if and only
if it is a safe one. -/
theorem fmgGet_staysInside_iff {size : Nat} (mtdBuf : Vector UInt8 size) (valueEnd : UInt8)
    (name : CString) (short : name.strlen < size) :
    StaysInside mtdBuf valueEnd name ↔ LookupSafe mtdBuf.toList valueEnd name := by
  constructor
  · intro inside n first
    have apart : valueEnd ∉ name.chars := fun member =>
      not_staysInside_of_mem short first member inside
    refine ⟨apart, Classical.byContradiction fun open_ => ?_⟩
    refine not_staysInside_of_open short first apart (fun byte member stops => ?_) inside
    exact open_ ⟨byte, member, stops⟩
  · intro safe
    by_cases occurs : ∃ n, OccursFirst mtdBuf.toList name n
    · obtain ⟨n, first⟩ := occurs
      obtain ⟨apart, closed⟩ := safe n first
      exact staysInside_of_closed short first apart closed
    · refine ⟨⟨-1, none⟩, fmgGet_missing short fun n first => occurs ⟨n, first⟩, ?_, ?_⟩
      · intro zero
        exact absurd zero (by decide)
      · intro _
        decide

/-- The characters `ethaddr=`. -/
def ethaddrChars : List UInt8 := [101, 116, 104, 97, 100, 100, 114, 61]

/-- None of them is NUL. -/
theorem ethaddrChars_nonzero : 0 ∉ ethaddrChars := by decide

/-- `CONFIG_STAR_NIC_PARAM_MAC_KEYWORD`. -/
def ethaddr : CString := ⟨ethaddrChars, ethaddrChars_nonzero⟩

/-- A block with a closed entry for it: `ethaddr=0A1B` and NULs. -/
def closedBlock : Vector UInt8 16 :=
  #v[101, 116, 104, 97, 100, 100, 114, 61, 48, 65, 49, 66, 0, 0, 0, 0]

/-- In it the lookup stays inside. -/
theorem fmgGet_closedBlock : StaysInside closedBlock 0 ethaddr := by
  refine (fmgGet_staysInside_iff closedBlock 0 ethaddr (by decide)).mpr fun n first => ?_
  have start : Occurs closedBlock.toList ethaddr 0 := ⟨by decide, by decide, Or.inl rfl⟩
  have zero : n = 0 := Nat.eq_zero_of_not_pos fun later => first.2 0 later start
  refine ⟨by decide, 0, ?_, Or.inl rfl⟩
  rw [zero]
  decide

/-- A block that the entry fills to its end: `ethaddr=0A1B2C3D`. -/
def openBlock : Vector UInt8 16 :=
  #v[101, 116, 104, 97, 100, 100, 114, 61, 48, 65, 49, 66, 50, 67, 51, 68]

/-- Here the end of the value is found behind the block. -/
theorem fmgGet_openBlock :
    fmgGet openBlock [0] 0 ethaddr = some ⟨0, some (8, 8)⟩ ∧
      fmgGet openBlock [49, 0] 0 ethaddr = some ⟨0, some (8, 9)⟩ ∧
      ¬ StaysInside openBlock 0 ethaddr := by
  have eight : fmgGet openBlock [0] 0 ethaddr = some ⟨0, some (8, 8)⟩ := by decide
  have nine : fmgGet openBlock [49, 0] 0 ethaddr = some ⟨0, some (8, 9)⟩ := by decide
  refine ⟨eight, nine, ?_⟩
  rintro ⟨result, returned, _⟩
  have same := (eight.symm.trans (returned [0])).trans ((returned [49, 0]).symm.trans nine)
  exact absurd same (by decide)

end Fvs318g.Verif.Fmg
