import Fvs318g.Netfilter.Cleanup
import Mathlib.Algebra.BigOperators.Group.Finset.Basic
import Mathlib.Algebra.Order.BigOperators.Group.Finset

/-!
# The hash during a flush

Each connection of the table stands in the hash with both of its tuples. `clean_from_lists` takes
out the two entries of one connection, and `get_next_corpse` finds the first bucket with a
selected connection.
-/

namespace Fvs318g.Verif.Cleanup

open Netfilter

variable {Conn : Type} [DecidableEq Conn]

/-- Every entry stands once, in the bucket of its tuple, and both entries of a connection stand
in the hash together. -/
structure Hashed (env : FlushEnv Conn) (hash : Nat → List (Conn × Dir)) : Prop where
  /-- No entry stands twice. -/
  nodup : ∀ b, (hash b).Nodup
  /-- The bucket of an entry. -/
  bucket_eq : ∀ b ct dir, (ct, dir) ∈ hash b → b = env.hashConntrack ct dir
  /-- The other entry of the connection. -/
  paired : ∀ b ct dir, (ct, dir) ∈ hash b → ∀ dir', (ct, dir') ∈ hash (env.hashConntrack ct dir')

section Hash

variable {env : FlushEnv Conn} {hash : Nat → List (Conn × Dir)} {s : FlushState Conn}

/-- The entries behind a deletion. -/
theorem mem_update_erase (nodup : ∀ b, (hash b).Nodup) (place : Nat) (entry : Conn × Dir)
    (b : Nat) (h : Conn × Dir) :
    h ∈ Function.update hash place ((hash place).erase entry) b ↔
      h ∈ hash b ∧ (b = place → h ≠ entry) := by
  by_cases here : b = place
  · rw [here, Function.update_self, (nodup place).mem_erase_iff, and_comm]
    simp
  · rw [Function.update_of_ne here]
    simp [here]

/-- A deletion leaves no entry twice. -/
theorem nodup_update_erase (nodup : ∀ b, (hash b).Nodup) (place : Nat)
    (entry : Conn × Dir) (b : Nat) :
    (Function.update hash place ((hash place).erase entry) b).Nodup := by
  by_cases here : b = place
  · rw [here, Function.update_self]
    exact (nodup place).erase entry
  · rw [Function.update_of_ne here]
    exact nodup b

/-- `clean_from_lists` removes the entries of its connection and no others. -/
theorem mem_cleanFromLists (hashed : Hashed env hash) (c : Conn) (b : Nat) (ct : Conn) (dir : Dir) :
    (ct, dir) ∈ cleanFromLists env c hash b ↔ (ct, dir) ∈ hash b ∧ ct ≠ c := by
  unfold cleanFromLists
  rw [mem_update_erase (nodup_update_erase hashed.nodup _ _), mem_update_erase hashed.nodup]
  constructor
  · rintro ⟨⟨member, first⟩, second⟩
    apply And.intro member
    intro same
    subst same
    have place := hashed.bucket_eq b ct dir member
    cases dir with
    | original => exact first place rfl
    | reply => exact second place rfl
  · rintro ⟨member, other⟩
    exact ⟨⟨member, fun _ same => other (congrArg Prod.fst same)⟩,
      fun _ same => other (congrArg Prod.fst same)⟩

/-- The hash is in order behind it. -/
theorem hashed_cleanFromLists (hashed : Hashed env hash) (c : Conn) :
    Hashed env (cleanFromLists env c hash) := by
  apply Hashed.mk
  · exact nodup_update_erase (nodup_update_erase hashed.nodup _ _) _ _
  · intro b ct dir member
    exact hashed.bucket_eq b ct dir ((mem_cleanFromLists hashed c b ct dir).mp member).1
  · intro b ct dir member dir'
    have before := (mem_cleanFromLists hashed c b ct dir).mp member
    exact (mem_cleanFromLists hashed c _ ct dir').mpr
      ⟨hashed.paired b ct dir before.1 dir', before.2⟩

/-- A connection is listed if one of its entries stands in the hash. -/
theorem listed_iff (hashed : Hashed env s.hash) (ct : Conn) :
    s.listed env ct = true ↔ ∃ b dir, (ct, dir) ∈ s.hash b := by
  unfold FlushState.listed
  rw [decide_eq_true_iff]
  constructor
  · intro member
    exact ⟨_, _, member⟩
  · rintro ⟨b, dir, member⟩
    exact hashed.paired b ct dir member .original

/-- Selected entries in the hash. -/
def selectedLeft (env : FlushEnv Conn) (hash : Nat → List (Conn × Dir)) : Nat :=
  ∑ b ∈ Finset.range env.htableSize, (hash b).countP (fun h => env.iter h.1)

/-- A deletion leaves no more selected entries in any bucket. -/
theorem countP_update_erase_le (iter : Conn → Bool) (hash : Nat → List (Conn × Dir))
    (place : Nat) (entry : Conn × Dir) (b : Nat) :
    (Function.update hash place ((hash place).erase entry) b).countP (fun h => iter h.1) ≤
      (hash b).countP (fun h => iter h.1) := by
  by_cases here : b = place
  · rw [here, Function.update_self]
    exact List.erase_sublist.countP_le
  · rw [Function.update_of_ne here]

/-- Deleting a selected connection leaves fewer selected entries. -/
theorem selectedLeft_clean (inRange : ∀ ct dir, env.hashConntrack ct dir < env.htableSize)
    {hash : Nat → List (Conn × Dir)} {c : Conn} (selected : env.iter c = true)
    (listed : (c, Dir.original) ∈ hash (env.hashConntrack c .original)) :
    selectedLeft env (cleanFromLists env c hash) < selectedLeft env hash := by
  have some_ : 0 < (hash (env.hashConntrack c .original)).countP (fun h => env.iter h.1) :=
    List.countP_pos_iff.mpr ⟨_, listed, selected⟩
  unfold selectedLeft cleanFromLists
  apply lt_of_le_of_lt
  · exact Finset.sum_le_sum fun b _ => countP_update_erase_le env.iter _ _ _ b
  · apply Finset.sum_lt_sum
    · exact fun b _ => countP_update_erase_le env.iter hash _ _ b
    · apply Exists.intro (env.hashConntrack c .original)
      apply And.intro (Finset.mem_range.mpr (inRange c .original))
      rw [Function.update_self, List.countP_erase, if_pos ⟨listed, selected⟩]
      omega

end Hash

/-! ## The search -/

section Search

variable {α : Type} {hash : Nat → List (α × Dir)}

/-- The search stops at a selected connection of the first bucket that has one. -/
theorem nextBucket_some {iter : α → Bool} {left b b' : Nat} {ct : α}
    (found : nextBucket iter hash left b = (b', some ct)) :
    (∃ dir, (ct, dir) ∈ hash b') ∧ iter ct = true ∧
      ∀ k, b ≤ k → k < b' → ∀ h ∈ hash k, iter h.1 = false := by
  induction left generalizing b with
  | zero => cases found
  | succ left ih =>
    rw [nextBucket] at found
    cases here : (hash b).find? (fun h => iter h.1) with
    | some h =>
      rw [here] at found
      obtain ⟨rfl, same⟩ := Prod.mk.inj found
      cases same
      have member := List.mem_of_find?_eq_some here
      have selected := List.find?_some here
      exact ⟨⟨h.2, member⟩, selected, fun k low high => absurd high (by omega)⟩
    | none =>
      rw [here] at found
      have behind := ih found
      apply And.intro behind.1
      apply And.intro behind.2.1
      intro k low high h member
      by_cases first : k = b
      · rw [first] at member
        exact Bool.eq_false_iff.mpr (List.find?_eq_none.mp here h member)
      · exact behind.2.2 k (by omega) high h member

/-- The search that finds nothing has seen all buckets that were left. -/
theorem nextBucket_none {iter : α → Bool} {left b b' : Nat}
    (missed : nextBucket iter hash left b = (b', none)) :
    b' = b + left ∧ ∀ k, b ≤ k → k < b' → ∀ h ∈ hash k, iter h.1 = false := by
  induction left generalizing b with
  | zero =>
    obtain ⟨rfl, _⟩ := Prod.mk.inj missed
    exact ⟨rfl, fun k low high => absurd high (by omega)⟩
  | succ left ih =>
    rw [nextBucket] at missed
    cases here : (hash b).find? (fun h => iter h.1) with
    | some h =>
      rw [here] at missed
      cases missed
    | none =>
      rw [here] at missed
      have behind := ih missed
      apply And.intro (by omega)
      intro k low high h member
      by_cases first : k = b
      · rw [first] at member
        exact Bool.eq_false_iff.mpr (List.find?_eq_none.mp here h member)
      · exact behind.2 k (by omega) high h member

end Search

end Fvs318g.Verif.Cleanup
