import Fvs318g.Star.FlashEnv

/-!
# What the search of the environment finds

The search stops at the first place where the characters of the name occur, be it the start of an
entry or not, and takes the next `=` for the one of the entry. If they do not occur, it does not
stop before it reads beyond the area: the test that should end it looks at a pointer that is null.
-/

namespace Fvs318g.Verif.FlashEnv

open Lib Fvs318g.Star

/-! ## What is asked for -/

/-- An entry of the given name starts at a place: the place is the first of the area or behind a
zero, and the name and a `=` are there. The name of an entry ends at its first `=`. -/
structure EntryAt (area : EnvArea) (name : EnvName) (s : Nat) : Prop where
  /-- Entries are separated by zeros. -/
  start : s = 0 ∨ area.bytes[s - 1]? = some 0
  /-- The name is there. -/
  occurs : Occurs area.bytes name.chars s
  /-- A `=` is behind it. -/
  assigned : area.bytes[s + name.chars.length]? = some assign
  /-- It is the first one of the entry. -/
  plain : assign ∉ name.chars

/-- The right answer: the address of the value of the first entry with the name, or null if there
is none. -/
def Answers (area : EnvArea) (name : EnvName) : Option Nat → Prop
  | some value => ∃ s, value = s + name.chars.length + 1 ∧ EntryAt area name s ∧
      ∀ s' < s, ¬ EntryAt area name s'
  | none => ∀ s, ¬ EntryAt area name s

/-- The search ends without a read beyond the area, with the right answer. -/
def FindsRight (area : EnvArea) (name : EnvName) : Prop :=
  ∃ rounds answer, getFlashEnv area name rounds = .returned answer ∧ Answers area name answer

/-! ## What the search returns -/

variable {area : EnvArea} {name : EnvName}

/-- The search can read on from a place where the name occurs: `strstr` needs the end of the string
there, unless the name is empty. -/
def Searchable (area : EnvArea) (name : EnvName) (i : Nat) : Prop :=
  name.chars = [] ∨ 0 ∈ area.bytes.drop i

/-- What the search returns comes from the first place where the name occurs. -/
theorem searchEnv_returned {rounds begP : Nat} {answer : Option Nat}
    (ended : searchEnv area name rounds begP = .returned answer) :
    ∃ i found, FirstAt area.bytes name.chars begP i ∧ Searchable area name i ∧
      strchr assign (area.bytes.drop i) = some found ∧ answer = found.map (i + · + 1) := by
  induction rounds generalizing begP with
  | zero => cases ended
  | succ rounds later =>
    rw [searchEnv] at ended
    rcases strstr_cases name.clean begP with ⟨outside, _⟩ | ⟨i, searched, first, readable⟩ |
      ⟨searched, absent, _⟩
    · rw [outside] at ended
      cases ended
    · rw [searched] at ended
      cases found : strchr assign (area.bytes.drop i) with
      | none =>
        simp only [found] at ended
        cases ended
      | some place =>
        refine ⟨i, place, first, readable, found, ?_⟩
        cases place with
        | none =>
          simp only [found] at ended
          cases ended
          rfl
        | some j =>
          simp only [found] at ended
          cases ended
          rfl
    · rw [searched] at ended
      obtain ⟨i, found, first, rest⟩ := later ended
      exact ⟨i, found, first.pred absent, rest⟩

/-- The zero behind a place is behind the places before it. -/
theorem Searchable.mono {i j : Nat} (readable : Searchable area name j) (before : i ≤ j) :
    Searchable area name i := by
  apply readable.imp_right
  intro terminated
  rw [← Nat.add_sub_cancel' before, ← List.drop_drop] at terminated
  exact List.mem_of_mem_drop terminated

/-- A round at the place where the name occurs first returns. -/
theorem searchEnv_found {rounds begP i : Nat} {found : Option Nat}
    (searched : strstr area.bytes begP name.chars = some (some i))
    (assigned : strchr assign (area.bytes.drop i) = some found) :
    searchEnv area name (rounds + 1) begP = .returned (found.map (i + · + 1)) := by
  rw [searchEnv, searched]
  cases found with
  | none => simp only [assigned, Option.map_none]
  | some j => simp only [assigned, Option.map_some]

/-- Before the first place where the name occurs, a round goes on; there, it returns. -/
theorem searchEnv_round (rounds : Nat) {begP i : Nat} {found : Option Nat}
    (first : FirstAt area.bytes name.chars begP i) (readable : Searchable area name i)
    (assigned : strchr assign (area.bytes.drop i) = some found) :
    searchEnv area name (rounds + 1) begP = .returned (found.map (i + · + 1)) ∨
      ¬ Occurs area.bytes name.chars begP ∧
        searchEnv area name (rounds + 1) begP = searchEnv area name rounds (begP + 1) := by
  rcases strstr_cases name.clean begP with ⟨_, nonempty, open_⟩ | ⟨place, searched, here, _⟩ |
    ⟨searched, absent, _⟩
  · have terminated := readable.mono first.start_le
    exact absurd (terminated.resolve_left nonempty) open_
  · left
    rw [here.unique first] at searched
    exact searchEnv_found searched assigned
  · right
    apply And.intro absent
    rw [searchEnv, searched]
    rfl

/-- The search returns if it comes to a place where the name occurs and can read on from there. -/
theorem searchEnv_of_first {n begP : Nat} {found : Option Nat}
    (first : FirstAt area.bytes name.chars begP (begP + n))
    (readable : Searchable area name (begP + n))
    (assigned : strchr assign (area.bytes.drop (begP + n)) = some found) :
    searchEnv area name (n + 1) begP = .returned (found.map (begP + n + · + 1)) := by
  induction n generalizing begP with
  | zero =>
    rcases searchEnv_round 0 first readable assigned with returned | ⟨absent, _⟩
    · exact returned
    · exact absurd first.occurs absent
  | succ n later =>
    rcases searchEnv_round (n + 1) first readable assigned with returned | ⟨absent, next⟩
    · exact returned
    · have shift : begP + (n + 1) = begP + 1 + n := by omega
      rw [next]
      rw [shift] at first readable assigned ⊢
      exact later (first.succ absent) readable assigned

/-- The search for a name that does not occur reads beyond the area. -/
theorem searchEnv_absent (absent : ∀ i, ¬ Occurs area.bytes name.chars i) {n begP : Nat}
    (rest : begP + n = area.bytes.length) : searchEnv area name (n + 1) begP = .outside := by
  induction n generalizing begP with
  | zero =>
    rcases strstr_cases name.clean begP with ⟨outside, _⟩ | ⟨i, _, first, _⟩ | ⟨_, _, terminated⟩
    · rw [searchEnv, outside]
    · exact absurd first.occurs (absent i)
    · rw [List.drop_of_length_le (by omega)] at terminated
      exact absurd terminated List.not_mem_nil
  | succ n later =>
    rcases strstr_cases name.clean begP with ⟨outside, _⟩ | ⟨i, _, first, _⟩ | ⟨searched, _, _⟩
    · rw [searchEnv, outside]
    · exact absurd first.occurs (absent i)
    · rw [searchEnv, searched]
      exact later (by omega)

/-! ## The right answer -/

/-- Both searches can read on from a place: `strstr` needs the end of the string there, and for an
empty name `strchr` needs that end or a `=`. -/
def Readable (area : EnvArea) (name : EnvName) (i : Nat) : Prop :=
  0 ∈ area.bytes.drop i ∨ name.chars = [] ∧ assign ∈ area.bytes.drop i

/-- Where `strstr` and `strchr` read on. -/
theorem readable_iff (i : Nat) : Readable area name i ↔
    Searchable area name i ∧ ∃ found, strchr assign (area.bytes.drop i) = some found := by
  rw [← Option.ne_none_iff_exists', ne_eq, strchr_eq_none]
  unfold Readable Searchable
  by_cases terminated : 0 ∈ area.bytes.drop i
  · simp [terminated]
  · simp [terminated]

/-- At the start of the entry the `=` is found behind the name. -/
theorem EntryAt.strchr {i : Nat} (entry : EntryAt area name i) :
    strchr assign (area.bytes.drop i) = some (some name.chars.length) := by
  obtain ⟨rest, front⟩ := entry.occurs
  have behind : (name.chars ++ rest)[name.chars.length]? = some assign := by
    rw [front, List.getElem?_drop]
    exact entry.assigned
  rw [List.getElem?_append_right (Nat.le_refl _), Nat.sub_self, ← List.head?_eq_getElem?] at behind
  obtain ⟨rest', rfl⟩ := List.head?_eq_some_iff.mp behind
  rw [← front]
  exact strchr_found name.clean entry.plain rest'

/-- An entry whose `=` is the next one behind the first place where the name occurs starts at that
place: no zero is in between. -/
theorem EntryAt.start_eq {i s j : Nat} (entry : EntryAt area name s)
    (first : FirstAt area.bytes name.chars 0 i)
    (found : Lib.strchr assign (area.bytes.drop i) = some (some j))
    (value : i + j + 1 = s + name.chars.length + 1) : i = s := by
  have after : i ≤ s := by
    by_contra before
    exact first.before s (Nat.zero_le s) (by omega) entry.occurs
  by_contra apart
  have between := ((strchr_some found).2 (s - 1 - i) (by omega)).2
  rw [List.getElem?_drop, show i + (s - 1 - i) = s - 1 by omega] at between
  exact between (entry.start.resolve_left (by omega))

/-- The search ends inside the area with the right answer exactly if the first place where the name
occurs can be read on from, and is the start of the entry, or is followed by no `=` in its string
while no entry has the name. -/
theorem getFlashEnv_iff (area : EnvArea) (name : EnvName) :
    FindsRight area name ↔
      ∃ i, FirstAt area.bytes name.chars 0 i ∧ Readable area name i ∧
        (EntryAt area name i ∨
          (∀ s, ¬ EntryAt area name s) ∧ assign ∉ text (area.bytes.drop i)) := by
  constructor
  · rintro ⟨rounds, answer, ended, right_⟩
    obtain ⟨i, found, first, readable, assigned, rfl⟩ := searchEnv_returned ended
    refine ⟨i, first, (readable_iff i).mpr ⟨readable, found, assigned⟩, ?_⟩
    cases found with
    | none => exact .inr ⟨right_, ((strchr_none_iff (by decide)).mp assigned).2⟩
    | some j =>
      obtain ⟨s, value, entry, _⟩ := right_
      rw [entry.start_eq first assigned value]
      exact .inl entry
  · rintro ⟨i, first, readable, place⟩
    have searchable := ((readable_iff i).mp readable).1
    rw [← Nat.zero_add i] at first searchable
    rcases place with entry | ⟨none_, plain⟩
    · have assigned := entry.strchr
      rw [← Nat.zero_add i] at assigned
      refine ⟨i + 1, _, searchEnv_of_first first searchable assigned, i, ?_, entry, ?_⟩
      · simp only [Nat.zero_add]
      · intro s before earlier
        exact first.before s (Nat.zero_le s) (by omega) earlier.occurs
    · have terminated : 0 ∈ area.bytes.drop i := by
        by_contra open_
        rw [text_of_not_mem open_] at plain
        exact plain (readable.resolve_left open_).2
      have assigned := (strchr_none_iff (show assign ≠ 0 by decide)).mpr ⟨terminated, plain⟩
      rw [← Nat.zero_add i] at assigned
      exact ⟨i + 1, _, searchEnv_of_first first searchable assigned, none_⟩

/-- An empty environment. -/
def emptyArea : EnvArea := ⟨List.replicate envSize 0, List.length_replicate⟩

/-- The name that the switch driver looks for, `ethaddr`. -/
def ethaddr : EnvName := ⟨[0x65, 0x74, 0x68, 0x61, 0x64, 0x64, 0x72], by decide⟩

/-- It does not occur in an empty environment. -/
theorem ethaddr_absent (i : Nat) : ¬ Occurs emptyArea.bytes ethaddr.chars i := by
  intro occurs
  have member := List.mem_of_mem_drop (occurs.subset (List.mem_cons_self ..))
  exact absurd (List.eq_of_mem_replicate member) (by decide)

/-- The search of an empty environment reads beyond the area, where null is the right answer. -/
theorem emptyArea_outside :
    getFlashEnv emptyArea ethaddr (envSize + 1) = .outside ∧ Answers emptyArea ethaddr none ∧
      ¬ FindsRight emptyArea ethaddr := by
  refine ⟨?_, ?_, ?_⟩
  · exact searchEnv_absent ethaddr_absent ((Nat.zero_add _).trans emptyArea.size.symm)
  · exact fun s entry => ethaddr_absent s entry.occurs
  · rintro ⟨rounds, answer, ended, _⟩
    obtain ⟨i, found, first, _⟩ := searchEnv_returned ended
    exact ethaddr_absent i first.occurs

end Fvs318g.Verif.FlashEnv
