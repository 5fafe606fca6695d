import Mathlib.Data.List.TakeWhile

/-!
# Strings in arrays of fixed size

Loops over character arrays, with every access checked: an index beyond an array is `none`. A scan
goes on while a test of the current character holds and its index is below a bound, and reads the
character before it looks at the bound. Each loop is given by what it finds as a list, so that what
follows from its bounds is a fact about lengths.
-/

namespace Fvs318g.Lib

/-! ## Loops -/

/-- Store a character. -/
def putChar (a : List UInt8) (i : Nat) (c : UInt8) : Option (List UInt8) :=
  if i < a.length then some (a.set i c) else none

/-- `while (keep(a[i]) && i < bound) i++`, where the bound is `n` away from `i`. -/
def skipWhile (keep : UInt8 → Bool) (a : List UInt8) (i : Nat) : Nat → Option Nat
  | 0 => a[i]?.map fun _ => i
  | n + 1 => a[i]?.bind fun c => if keep c then skipWhile keep a (i + 1) n else some i

/-- `while (keep(src[i]) && i < bound) dst[m++] = src[i++]`, where the bound is `n` away from `i`:
both indices and the destination. -/
def copyWhile (keep : UInt8 → Bool) (src : List UInt8) (i : Nat) (dst : List UInt8) (m : Nat) :
    Nat → Option (Nat × Nat × List UInt8)
  | 0 => src[i]?.map fun _ => (i, m, dst)
  | n + 1 => src[i]?.bind fun c =>
    if keep c then (putChar dst m c).bind fun dst => copyWhile keep src (i + 1) dst (m + 1) n
    else some (i, m, dst)

/-- `strcpy` to `dst + m`. -/
def strcpy (dst : List UInt8) (m : Nat) : List UInt8 → Option (List UInt8)
  | [] => none
  | c :: rest =>
    (putChar dst m c).bind fun dst => if c = 0 then some dst else strcpy dst (m + 1) rest

/-- `strlen`. -/
def strlen : List UInt8 → Option Nat
  | [] => none
  | c :: rest => if c = 0 then some 0 else (strlen rest).map (· + 1)

/-! ## What they find -/

/-- The string at the beginning of an array. -/
def text (a : List UInt8) : List UInt8 := a.takeWhile (· != 0)

/-- An array with some characters replaced. -/
def overwrite (a : List UInt8) (m : Nat) (w : List UInt8) : List UInt8 :=
  a.take m ++ w ++ a.drop (m + w.length)

/-- Nothing is replaced. -/
@[simp]
theorem overwrite_nil (a : List UInt8) (m : Nat) : overwrite a m [] = a := by
  simp [overwrite]

variable {a : List UInt8}

/-- One character, then more behind it. -/
theorem overwrite_set {m : Nat} (inside : m < a.length) (c : UInt8) (w : List UInt8) :
    overwrite (a.set m c) (m + 1) w = overwrite a m (c :: w) := by
  have front : (a.set m c).take (m + 1) = a.take m ++ [c] := by
    rw [List.take_add_one, List.take_set_of_le (Nat.le_refl m), List.getElem?_set_self inside]
    rfl
  have behind : (a.set m c).drop (m + 1 + w.length) = a.drop (m + (c :: w).length) := by
    rw [List.drop_set_of_lt (by omega), List.length_cons]
    congr 1
    omega
  rw [overwrite, overwrite, front, behind, List.append_assoc (a.take m), List.singleton_append]

/-- Where a scan ends. -/
theorem skipWhile_eq (keep : UInt8 → Bool) (a : List UInt8) (i n : Nat) :
    skipWhile keep a i n =
      if i + (((a.drop i).take n).takeWhile keep).length < a.length then
        some (i + (((a.drop i).take n).takeWhile keep).length)
      else none := by
  induction n generalizing i with
  | zero =>
    rw [List.take_zero, List.takeWhile_nil, List.length_nil, Nat.add_zero, skipWhile]
    split
    · rename_i inside
      rw [List.getElem?_eq_getElem inside, Option.map_some]
    · rename_i beyond
      rw [List.getElem?_eq_none (by omega), Option.map_none]
  | succ n later =>
    rw [skipWhile]
    by_cases inside : i < a.length
    · have split : (a.drop i).take (n + 1) = a[i] :: (a.drop (i + 1)).take n := by
        rw [List.drop_eq_getElem_cons inside, List.take_succ_cons]
      rw [List.getElem?_eq_getElem inside, Option.bind_some, split, List.takeWhile_cons]
      by_cases goes : keep a[i] = true
      · rw [if_pos goes, later, if_pos goes, List.length_cons, Nat.add_right_comm, Nat.add_assoc]
      · rw [if_neg goes, if_neg goes, List.length_nil, Nat.add_zero, if_pos inside]
    · have empty : a.drop i = [] := List.drop_eq_nil_of_le (by omega)
      rw [List.getElem?_eq_none (by omega), Option.bind_none, empty, List.take_nil,
        List.takeWhile_nil, List.length_nil, Nat.add_zero, if_neg inside]

/-- What a copying scan copies, and where it ends. -/
theorem copyWhile_eq (keep : UInt8 → Bool) (src : List UInt8) (i n : Nat) {dst : List UInt8}
    {m : Nat} (room : m ≤ dst.length) :
    copyWhile keep src i dst m n =
      let w := ((src.drop i).take n).takeWhile keep
      if i + w.length < src.length ∧ m + w.length ≤ dst.length then
        some (i + w.length, m + w.length, overwrite dst m w)
      else none := by
  induction n generalizing i dst m with
  | zero =>
    simp only [copyWhile, List.take_zero, List.takeWhile_nil, List.length_nil, Nat.add_zero,
      overwrite_nil]
    split
    · rename_i inside
      rw [List.getElem?_eq_getElem inside.1, Option.map_some]
    · rename_i beyond
      rw [List.getElem?_eq_none (by omega), Option.map_none]
  | succ n later =>
    rw [copyWhile]
    by_cases inside : i < src.length
    · have split : (src.drop i).take (n + 1) = src[i] :: (src.drop (i + 1)).take n := by
        rw [List.drop_eq_getElem_cons inside, List.take_succ_cons]
      rw [List.getElem?_eq_getElem inside, Option.bind_some, split, List.takeWhile_cons]
      by_cases goes : keep src[i] = true
      · rw [if_pos goes, if_pos goes, putChar]
        by_cases fits : m < dst.length
        · have stored : m + 1 ≤ (dst.set m src[i]).length := by
            rw [List.length_set]
            exact fits
          rw [if_pos fits, Option.bind_some, later (i + 1) stored]
          simp only [List.length_cons, overwrite_set fits, List.length_set, Nat.add_assoc,
            Nat.add_comm 1]
        · rw [if_neg fits, Option.bind_none]
          simp only [List.length_cons]
          rw [if_neg (by omega)]
      · simp only [if_neg goes, List.length_nil, Nat.add_zero, overwrite_nil]
        rw [if_pos ⟨inside, room⟩]
    · have empty : src.drop i = [] := List.drop_eq_nil_of_le (by omega)
      simp only [List.getElem?_eq_none (Nat.le_of_not_lt inside), Option.bind_none, empty,
        List.take_nil, List.takeWhile_nil, List.length_nil, Nat.add_zero]
      rw [if_neg (fun both => inside both.1)]

/-- What `strcpy` copies. -/
theorem strcpy_eq (src : List UInt8) (dst : List UInt8) (m : Nat) :
    strcpy dst m src =
      if 0 ∈ src ∧ m + (text src).length < dst.length then
        some (overwrite dst m (text src ++ [0]))
      else none := by
  induction src generalizing dst m with
  | nil => rw [strcpy, if_neg (fun both => List.not_mem_nil both.1)]
  | cons c rest later =>
    rw [strcpy, putChar]
    by_cases fits : m < dst.length
    · rw [if_pos fits, Option.bind_some]
      by_cases last : c = 0
      · have empty : text (c :: rest) = [] := by simp [text, last]
        rw [if_pos last, empty, if_pos ⟨last ▸ List.mem_cons_self, fits⟩, List.nil_append,
          ← overwrite_set fits, overwrite_nil, last]
      · have more : text (c :: rest) = c :: text rest := by simp [text, last]
        have among : 0 ∈ c :: rest ↔ 0 ∈ rest := by simp [Ne.symm last]
        rw [if_neg last, later]
        simp only [among, more, List.length_cons, List.length_set, List.cons_append,
          overwrite_set fits, Nat.add_assoc, Nat.add_comm 1]
    · rw [if_neg fits, Option.bind_none, if_neg (by omega)]

/-- What `strlen` counts. -/
theorem strlen_eq (a : List UInt8) : strlen a = if 0 ∈ a then some (text a).length else none := by
  induction a with
  | nil => rw [strlen, if_neg List.not_mem_nil]
  | cons c rest later =>
    rw [strlen]
    by_cases last : c = 0
    · have empty : text (c :: rest) = [] := by simp [text, last]
      rw [if_pos last, empty, if_pos (last ▸ List.mem_cons_self), List.length_nil]
    · have more : text (c :: rest) = c :: text rest := by simp [text, last]
      have among : 0 ∈ c :: rest ↔ 0 ∈ rest := by simp [Ne.symm last]
      rw [if_neg last, later]
      simp only [among, more, List.length_cons]
      split
      · rfl
      · rfl

/-! ## Strings followed by zeros -/

/-- An array with a string at its beginning, and zeros. -/
def padded (size : Nat) (w : List UInt8) : List UInt8 := w ++ List.replicate (size - w.length) 0

/-- Zeros behind an array do not change its string. -/
theorem text_append_zeros (a : List UInt8) (n : Nat) : text (a ++ List.replicate n 0) = text a := by
  rw [text, List.takeWhile_append]
  split
  · rename_i whole
    have stops : (List.replicate n (0 : UInt8)).takeWhile (· != 0) = [] := by
      cases n with
      | zero => rfl
      | succ n => rfl
    rw [stops, List.append_nil]
    exact (List.takeWhile_prefix _).eq_of_length whole |>.symm
  · rfl

/-- A string has no zero. -/
theorem zero_not_mem_text (a : List UInt8) : (0 : UInt8) ∉ text a := by
  intro member
  have nonzero := List.mem_takeWhile_imp member
  exact absurd nonzero (by decide)

variable {w : List UInt8}

/-- A list without a zero is its own string. -/
theorem text_of_not_mem (clean : (0 : UInt8) ∉ w) : text w = w := by
  rw [text, List.takeWhile_eq_self_iff]
  intro c member
  exact bne_iff_ne.mpr fun zero => clean (zero ▸ member)

/-- The string at the beginning of a padded array. -/
theorem text_padded (size : Nat) (clean : (0 : UInt8) ∉ w) : text (padded size w) = w := by
  rw [padded, text_append_zeros, text_of_not_mem clean]

/-- A padded array is terminated when the string leaves room. -/
theorem zero_mem_padded {size : Nat} (room : w.length < size) : (0 : UInt8) ∈ padded size w := by
  apply List.mem_append_right
  rw [List.mem_replicate]
  exact ⟨by omega, rfl⟩

/-- The terminating zero of a string is one of the zeros behind it. -/
theorem padded_terminated {size : Nat} (room : w.length < size) :
    padded size (w ++ [0]) = padded size w := by
  have more : size - w.length = size - (w.length + 1) + 1 := by omega
  rw [padded, padded, more, List.replicate_succ, List.length_append, List.append_assoc]
  rfl

/-- Overwriting the beginning of zeros. -/
theorem overwrite_zeros {size : Nat} : overwrite (List.replicate size 0) 0 w = padded size w := by
  rw [overwrite, List.take_zero, List.nil_append, Nat.zero_add, List.drop_replicate, padded]

/-- The length of a padded array. -/
theorem length_padded {size : Nat} (fits : w.length ≤ size) : (padded size w).length = size := by
  rw [padded, List.length_append, List.length_replicate]
  omega

/-- A zero behind a string that is followed by zeros. -/
theorem putChar_padded {size : Nat} (fits : w.length ≤ size) : putChar (padded size w) w.length 0 =
      if w.length < size then some (padded size w) else none := by
  rw [putChar, length_padded fits]
  split
  · rename_i room
    congr 1
    apply List.ext_getElem?
    intro i
    rw [List.getElem?_set]
    split
    · rename_i here
      have inside : w.length < (padded size w).length := by
        rw [length_padded fits]
        exact room
      rw [if_pos inside, ← here, padded, List.getElem?_append_right (Nat.le_refl _), Nat.sub_self,
        List.getElem?_replicate, if_pos (by omega)]
    · rfl
  · rfl

/-- A scan of a string that is followed by zeros, when it does not keep zeros or has to stop
before them. -/
theorem takeWhile_take_zeros {keep : UInt8 → Bool} {n k : Nat} (bound : w.length ≤ k)
    (stops : keep 0 = false ∨ ∃ c ∈ w, keep c = false) :
    ((w ++ List.replicate n 0).take k).takeWhile keep = w.takeWhile keep := by
  rw [List.take_append, List.take_of_length_le bound, List.take_replicate, List.takeWhile_append]
  split
  · rename_i whole
    have all : w.takeWhile keep = w := (List.takeWhile_prefix _).eq_of_length whole
    rcases stops with zero | ⟨c, member, drops⟩
    · have none : (List.replicate (min (k - w.length) n) (0 : UInt8)).takeWhile keep = [] := by
        cases min (k - w.length) n with
        | zero => rfl
        | succ j =>
          rw [List.replicate_succ, List.takeWhile_cons, zero]
          rfl
      rw [none, List.append_nil, all]
    · have kept := List.takeWhile_eq_self_iff.mp all c member
      rw [drops] at kept
      cases kept
  · rfl

/-- What is behind the part that a scan goes over. -/
theorem drop_takeWhile_append (keep : UInt8 → Bool) (w rest : List UInt8) :
    (w ++ rest).drop (w.takeWhile keep).length = w.dropWhile keep ++ rest := by
  have parts : w ++ rest = w.takeWhile keep ++ (w.dropWhile keep ++ rest) := by
    rw [← List.append_assoc, List.takeWhile_append_dropWhile]
  rw [parts, List.drop_left]

/-! ## Comparison -/

/-- `strcmp`. -/
def strcmp : List UInt8 → List UInt8 → Option Int8
  | c :: a, d :: b =>
    if (c - d).toInt8 ≠ 0 then some (c - d).toInt8 else if c = 0 then some 0 else strcmp a b
  | _, _ => none

/-- Two strings compare equal when they are. -/
theorem strcmp_eq {a b : List UInt8} (first : 0 ∈ a) (second : 0 ∈ b) :
    ∃ order, strcmp a b = some order ∧ (order = 0 ↔ text a = text b) := by
  induction a generalizing b with
  | nil => exact absurd first List.not_mem_nil
  | cons c a later =>
    cases b with
    | nil => exact absurd second List.not_mem_nil
    | cons d b =>
      have same : (c - d).toInt8 = 0 ↔ c = d := by
        constructor
        · intro zero
          have difference : c - d = 0 := congrArg Int8.toUInt8 zero
          rwa [UInt8.sub_eq_iff_eq_add, UInt8.zero_add] at difference
        · intro equal
          rw [equal, UInt8.sub_self]
          rfl
      rw [strcmp]
      by_cases equal : c = d
      · subst equal
        rw [if_neg (not_not.mpr (same.mpr rfl))]
        by_cases last : c = 0
        · rw [if_pos last]
          exact ⟨0, rfl, iff_of_true rfl (by simp [text, last])⟩
        · have ⟨order, compared, zero⟩ := later
            ((List.mem_cons.mp first).resolve_left (Ne.symm last))
            ((List.mem_cons.mp second).resolve_left (Ne.symm last))
          rw [if_neg last]
          refine ⟨order, compared, zero.trans ?_⟩
          simp [text, last]
      · rw [if_pos (fun zero => equal (same.mp zero))]
        refine ⟨_, rfl, iff_of_false (fun zero => equal (same.mp zero)) ?_⟩
        intro texts
        by_cases firstLast : c = 0
        · by_cases secondLast : d = 0
          · exact equal (firstLast.trans secondLast.symm)
          · simp [text, firstLast, secondLast] at texts
        · by_cases secondLast : d = 0
          · simp [text, firstLast, secondLast] at texts
          · simp [text, firstLast, secondLast, equal] at texts

/-! ## Searching -/

/-- `memcmp` against a string: whether it is at the beginning of the array. -/
def memcmp : List UInt8 → List UInt8 → Option Bool
  | _, [] => some true
  | [], _ :: _ => none
  | c :: a, d :: w => if c = d then memcmp a w else some false

/-- `strchr`. -/
def strchr (c : UInt8) : List UInt8 → Option (Option Nat)
  | [] => none
  | d :: a =>
    if d = c then some (some 0) else if d = 0 then some none
    else (strchr c a).map fun found => found.map (· + 1)

/-- The loop of `strstr` at `s`, with `l1` characters to come. The string that is searched for is
not empty, so the loop ends when none are to come. -/
def strstrLoop (a w : List UInt8) : Nat → Nat → Option (Option Nat)
  | _, 0 => some none
  | s, l1 + 1 =>
    if w.length ≤ l1 + 1 then
      (memcmp (a.drop s) w).bind fun same =>
        if same then some (some s) else strstrLoop a w (s + 1) l1
    else some none

/-- `strstr` of the string at `s`. -/
def strstr (a : List UInt8) (s : Nat) (w : List UInt8) : Option (Option Nat) :=
  if w.length = 0 then some (some s)
  else (strlen (a.drop s)).bind fun l1 => strstrLoop a w s l1

/-- The string occurs at a place of the array. -/
def Occurs (a w : List UInt8) (i : Nat) : Prop := w <+: a.drop i

/-- The first place from `s` on where the string occurs. -/
structure FirstAt (a w : List UInt8) (s i : Nat) : Prop where
  /-- It is not before. -/
  start_le : s ≤ i
  /-- The string occurs there. -/
  occurs : Occurs a w i
  /-- It does not occur in between. -/
  before : ∀ k, s ≤ k → k < i → ¬ Occurs a w k

variable {a w : List UInt8}

/-- There is one first place. -/
theorem FirstAt.unique {s i j : Nat} (first : FirstAt a w s i) (second : FirstAt a w s j) :
    i = j := by
  rcases Nat.lt_trichotomy i j with less | same | more
  · exact absurd first.occurs (second.before i first.start_le less)
  · exact same
  · exact absurd second.occurs (first.before j second.start_le more)

/-- The first place is the next one if it is not here. -/
theorem FirstAt.succ {s i : Nat} (first : FirstAt a w s i) (later : ¬ Occurs a w s) :
    FirstAt a w (s + 1) i where
  start_le := by
    have apart : s ≠ i := fun same => later (same ▸ first.occurs)
    have bound := first.start_le
    omega
  occurs := first.occurs
  before k low high := first.before k (by omega) high

/-- The first place from the next one on is that from here on. -/
theorem FirstAt.pred {s i : Nat} (first : FirstAt a w (s + 1) i) (later : ¬ Occurs a w s) :
    FirstAt a w s i where
  start_le := Nat.le_of_succ_le first.start_le
  occurs := first.occurs
  before k low high := by
    by_cases here : k = s
    · rw [here]
      exact later
    · exact first.before k (by omega) high

/-- The comparison of enough characters has a result, which says whether the string is there. -/
theorem memcmp_eq (enough : w.length ≤ a.length) :
    ∃ same, memcmp a w = some same ∧ (same = true ↔ w <+: a) := by
  induction w generalizing a with
  | nil => exact ⟨true, by cases a <;> rfl, iff_of_true rfl (List.nil_prefix)⟩
  | cons d w later =>
    cases a with
    | nil => exact absurd enough (Nat.not_succ_le_zero _)
    | cons c a =>
      rw [memcmp]
      by_cases equal : c = d
      · obtain ⟨same, compared, found⟩ := later (Nat.le_of_succ_le_succ enough)
        rw [if_pos equal, compared, equal]
        refine ⟨same, rfl, found.trans ?_⟩
        rw [List.cons_prefix_cons]
        simp
      · rw [if_neg equal]
        refine ⟨false, rfl, iff_of_false Bool.false_ne_true ?_⟩
        intro front
        exact equal (List.cons_prefix_cons.mp front).1.symm

/-- A string that is at the beginning of the array is part of the string there. -/
theorem length_le_strlen {n : Nat} (clean : (0 : UInt8) ∉ w) (front : w <+: a)
    (length : strlen a = some n) : w.length ≤ n := by
  obtain ⟨rest, rfl⟩ := front
  rw [strlen_eq] at length
  have texts : text (w ++ rest) = w ++ text rest := by
    apply List.takeWhile_append_of_pos
    intro c member
    exact bne_iff_ne.mpr fun zero => clean (zero ▸ member)
  have same := Option.some.inj (Option.ite_none_right_eq_some.mp length).2
  rw [← same, texts, List.length_append]
  exact Nat.le_add_right _ _

/-- A string is not longer than its array. -/
theorem strlen_le {n : Nat} (length : strlen a = some n) : n ≤ a.length := by
  rw [strlen_eq] at length
  have same := Option.some.inj (Option.ite_none_right_eq_some.mp length).2
  rw [← same]
  exact (List.takeWhile_prefix _).length_le

/-- An array whose string has a length has a zero. -/
theorem zero_mem_of_strlen {n : Nat} (length : strlen a = some n) : 0 ∈ a := by
  rw [strlen_eq] at length
  exact (Option.ite_none_right_eq_some.mp length).1

/-- The string at a place, and the one behind its first character. -/
theorem strlen_drop_succ {s n : Nat} (length : strlen (a.drop s) = some (n + 1)) :
    strlen (a.drop (s + 1)) = some n := by
  rw [← List.tail_drop]
  cases here : a.drop s with
  | nil =>
    rw [here] at length
    cases length
  | cons c rest =>
    rw [here, strlen] at length
    by_cases zero : c = 0
    · rw [if_pos zero] at length
      cases length
    · rw [if_neg zero] at length
      obtain ⟨m, found, same⟩ := Option.map_eq_some_iff.mp length
      rw [List.tail_cons, found, Nat.succ.inj same]

/-- The loop finds the first place, if the string is in the rest of the string that is searched. -/
theorem strstrLoop_eq {s l1 : Nat} (clean : (0 : UInt8) ∉ w) (nonempty : w ≠ [])
    (length : strlen (a.drop s) = some l1) : ∃ found, strstrLoop a w s l1 = some found ∧
      (∀ i, found = some i → FirstAt a w s i ∧ 0 ∈ a.drop i) ∧
      (found = none → ¬ Occurs a w s) := by
  induction l1 generalizing s with
  | zero =>
    refine ⟨none, rfl, (fun i found => by cases found), fun _ occurs => ?_⟩
    have short := length_le_strlen clean occurs length
    exact nonempty (List.eq_nil_of_length_eq_zero (Nat.le_zero.mp short))
  | succ l1 later =>
    rw [strstrLoop]
    by_cases room : w.length ≤ l1 + 1
    · obtain ⟨same, compared, there⟩ := memcmp_eq (room.trans (strlen_le length))
      rw [if_pos room, compared, Option.bind_some]
      cases same with
      | true =>
        refine ⟨some s, rfl, fun i found => ?_, fun found => by cases found⟩
        cases found
        exact ⟨⟨le_refl s, there.mp rfl, fun k low high => absurd high (Nat.not_lt.mpr low)⟩,
          zero_mem_of_strlen length⟩
      | false =>
        have absent : ¬ Occurs a w s := fun occurs => Bool.false_ne_true (there.mpr occurs)
        obtain ⟨found, searched, first, none_⟩ := later (strlen_drop_succ length)
        refine ⟨found, searched, fun i place => ?_, fun _ => absent⟩
        exact ⟨(first i place).1.pred absent, (first i place).2⟩
    · rw [if_neg room]
      refine ⟨none, rfl, (fun i found => by cases found), fun _ occurs => ?_⟩
      exact room (length_le_strlen clean occurs length)

/-- What `strstr` can return: it has read beyond the array, or it has found the first place, or the
string does not occur at the start. -/
theorem strstr_cases (clean : (0 : UInt8) ∉ w) (s : Nat) :
    strstr a s w = none ∧ w ≠ [] ∧ 0 ∉ a.drop s ∨
      (∃ i, strstr a s w = some (some i) ∧ FirstAt a w s i ∧ (w = [] ∨ 0 ∈ a.drop i)) ∨
      strstr a s w = some none ∧ ¬ Occurs a w s ∧ 0 ∈ a.drop s := by
  unfold strstr
  by_cases empty : w = []
  · right
    left
    rw [empty, if_pos List.length_nil]
    exact ⟨s, rfl, ⟨le_refl s, List.nil_prefix, fun k low high => absurd high (Nat.not_lt.mpr low)⟩,
      .inl rfl⟩
  · have some_ : ¬ w.length = 0 := fun zero => empty (List.eq_nil_of_length_eq_zero zero)
    rw [if_neg some_]
    by_cases terminated : 0 ∈ a.drop s
    · right
      have length : strlen (a.drop s) = some (text (a.drop s)).length := by
        rw [strlen_eq, if_pos terminated]
      obtain ⟨found, searched, first, absent⟩ := strstrLoop_eq clean empty length
      rw [length, Option.bind_some, searched]
      cases found with
      | none => exact .inr ⟨rfl, absent rfl, terminated⟩
      | some i => exact .inl ⟨i, rfl, (first i rfl).1, .inr (first i rfl).2⟩
    · left
      rw [strlen_eq, if_neg terminated]
      exact ⟨rfl, empty, terminated⟩

/-- `strchr` reads beyond the array only if it has neither the character nor a zero. -/
theorem strchr_eq_none {c : UInt8} : strchr c a = none ↔ c ∉ a ∧ 0 ∉ a := by
  induction a with
  | nil => simp [strchr]
  | cons d a later =>
    rw [strchr]
    by_cases here : d = c
    · simp [here]
    · by_cases zero : d = 0
      · rw [if_neg here, if_pos zero]
        simp [zero]
      · rw [if_neg here, if_neg zero, Option.map_eq_none_iff, later]
        simp [Ne.symm here, Ne.symm zero]

/-- `strchr` finds the character where it is the first in the string. -/
theorem strchr_some {c : UInt8} {j : Nat} (found : strchr c a = some (some j)) :
    a[j]? = some c ∧ ∀ k < j, a[k]? ≠ some c ∧ a[k]? ≠ some 0 := by
  induction a generalizing j with
  | nil => cases found
  | cons d a later =>
    rw [strchr] at found
    by_cases here : d = c
    · rw [if_pos here] at found
      obtain rfl := Option.some.inj (Option.some.inj found)
      exact ⟨by rw [here]; rfl, fun k less => absurd less (Nat.not_lt_zero k)⟩
    · rw [if_neg here] at found
      by_cases zero : d = 0
      · rw [if_pos zero] at found
        cases found
      · rw [if_neg zero] at found
        obtain ⟨place, searched, same⟩ := Option.map_eq_some_iff.mp found
        obtain ⟨j', rfl, rfl⟩ := Option.map_eq_some_iff.mp same
        have rest := later searched
        refine ⟨rest.1, fun k less => ?_⟩
        cases k with
        | zero =>
          simp only [List.getElem?_cons_zero, ne_eq, Option.some.injEq]
          exact ⟨here, zero⟩
        | succ k => exact rest.2 k (Nat.lt_of_succ_lt_succ less)

/-- `strchr` finds nothing if the character is not in the string. -/
theorem strchr_none_iff {c : UInt8} (nonzero : c ≠ 0) :
    strchr c a = some none ↔ 0 ∈ a ∧ c ∉ text a := by
  induction a with
  | nil => simp [strchr]
  | cons d a later =>
    rw [strchr]
    by_cases here : d = c
    · simp [here, text, nonzero]
    · by_cases zero : d = 0
      · simp [zero, text, Ne.symm nonzero]
      · rw [if_neg here, if_neg zero, Option.map_eq_some_iff]
        simp only [Option.map_eq_none_iff, exists_eq_right, later, text, List.mem_cons,
          List.takeWhile_cons, bne_iff_ne, ne_eq, zero, Ne.symm here, Ne.symm zero,
          not_false_eq_true, if_true, false_or]

/-- `strchr` goes on over a string without the character. -/
theorem strchr_append {c : UInt8} {w : List UInt8} (clean : (0 : UInt8) ∉ w) (plain : c ∉ w)
    (rest : List UInt8) :
    strchr c (w ++ rest) = (strchr c rest).map (Option.map (· + w.length)) := by
  induction w with
  | nil =>
    rw [List.nil_append, List.length_nil]
    cases strchr c rest with
    | none => rfl
    | some found => cases found <;> rfl
  | cons d w later =>
    rw [List.mem_cons, not_or] at clean plain
    rw [List.cons_append, strchr, if_neg (Ne.symm plain.1), if_neg (Ne.symm clean.1),
      later clean.2 plain.2, List.length_cons]
    cases strchr c rest with
    | none => rfl
    | some found =>
      cases found with
      | none => rfl
      | some k =>
        simp only [Option.map_some, Option.some.injEq]
        omega

/-- `strchr` finds the character behind such a string. -/
theorem strchr_found {c : UInt8} {w : List UInt8} (clean : (0 : UInt8) ∉ w) (plain : c ∉ w)
    (rest : List UInt8) : strchr c (w ++ c :: rest) = some (some w.length) := by
  rw [strchr_append clean plain, strchr, if_pos rfl, Option.map_some, Option.map_some, Nat.zero_add]

end Fvs318g.Lib
