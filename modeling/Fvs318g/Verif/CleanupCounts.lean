import Fvs318g.Netfilter.Cleanup

/-!
# The references on a connection

The use count of a connection is compared with the references that are there: that of the table,
those of the flush at its place and those of the other holders. Each way in which a step can move
a reference or the surplus of 60000 keeps them equal.
-/

namespace Fvs318g.Verif.Cleanup

open Netfilter

variable {Conn : Type} [DecidableEq Conn]

/-- References on a connection that the flush has at a place: its own, and that of the table
while it is being put. -/
def flushRefs : FlushPc Conn → Conn → Nat
  | .search, _ | .done, _ => 0
  | .deathPut c, ct => if ct = c then 2 else 0
  | .delTimer c, ct | .readAdd c, ct | .setAdd c _, ct | .hook c, ct | .readSub c, ct
  | .setSub c _, ct | .test c, ct | .repair c, ct | .lastPut c, ct => if ct = c then 1 else 0

/-- The surplus in the count at a place. -/
def surplus : FlushPc Conn → Conn → Int
  | .hook c, ct | .deathPut c, ct | .readSub c, ct | .setSub c _, ct =>
    if ct = c then 60000 else 0
  | _, _ => 0

/-- All references on a connection. -/
def holders (env : FlushEnv Conn) (s : FlushState Conn) (ct : Conn) : Nat :=
  (if s.listed env ct then 1 else 0) + flushRefs s.pc ct + s.others ct

/-- A surplus is there only while the flush holds a reference. -/
theorem surplus_cases (pc : FlushPc Conn) (ct : Conn) :
    surplus pc ct = 0 ∨ surplus pc ct = 60000 ∧ 1 ≤ flushRefs pc ct := by
  cases pc with
  | hook c | deathPut c | readSub c | setSub c _ =>
    by_cases same : ct = c
    · right
      simp [surplus, flushRefs, same]
    · left
      simp [surplus, same]
  | _ => exact Or.inl rfl

/-- The counts agree with the references, and a connection of the table has been destroyed once if
it has none. -/
structure Counted (env : FlushEnv Conn) (initial s : FlushState Conn) : Prop where
  /-- The use count. -/
  use_eq : ∀ ct, s.use ct = holders env s ct + surplus s.pc ct
  /-- The end of the connection. -/
  destroyed_eq : ∀ ct, initial.listed env ct = true →
    s.destroyed ct = if holders env s ct = 0 then 1 else 0
  /-- No zero count has been repaired. -/
  repaired_eq : s.repaired = false

section Counts

variable {env : FlushEnv Conn} {initial s s' : FlushState Conn} {c : Conn}

/-- A step that concerns one connection. -/
theorem Counted.move (counted : Counted env initial s)
    (elsewhere : ∀ ct, ct ≠ c → s'.use ct = s.use ct ∧ s'.destroyed ct = s.destroyed ct ∧
      holders env s' ct = holders env s ct ∧ surplus s'.pc ct = surplus s.pc ct)
    (use : s'.use c = holders env s' c + surplus s'.pc c) (ended : initial.listed env c = true →
      s'.destroyed c = if holders env s' c = 0 then 1 else 0)
    (repaired : s'.repaired = s.repaired) : Counted env initial s' := by
  apply Counted.mk
  · intro ct
    by_cases same : ct = c
    · rw [same]
      exact use
    · have kept := elsewhere ct same
      rw [kept.1, kept.2.2.1, kept.2.2.2]
      exact counted.use_eq ct
  · intro ct listed
    by_cases same : ct = c
    · rw [same] at listed ⊢
      exact ended listed
    · have kept := elsewhere ct same
      rw [kept.2.1, kept.2.2.1]
      exact counted.destroyed_eq ct listed
  · rw [repaired]
    exact counted.repaired_eq

/-- Putting a reference ends the connection if it was the last one. -/
theorem destroyed_put {left : Nat} {extra : Int} (use : s.use c = (left + 1 : Nat) + extra)
    (known : extra = 0 ∨ extra = 60000 ∧ 1 ≤ left) (alive : s.destroyed c = 0) :
    (s.put c).destroyed c = if left = 0 then 1 else 0 := by
  by_cases last : left = 0
  · have zero : s.use c - 1 = 0 := by omega
    simp only [FlushState.put, if_pos zero, if_pos last, Function.update_self, alive]
  · have more : ¬ s.use c - 1 = 0 := by omega
    simp only [FlushState.put, if_neg more, if_neg last, alive]

/-- Putting a reference leaves the other connections. -/
theorem put_elsewhere {ct : Conn} (other : ct ≠ c) :
    (s.put c).use ct = s.use ct ∧ (s.put c).destroyed ct = s.destroyed ct := by
  apply And.intro (Function.update_of_ne other _ _)
  simp only [FlushState.put]
  split
  · exact Function.update_of_ne other _ _
  · rfl

/-- A holder puts a reference: the count goes down with the references. -/
theorem Counted.put (counted : Counted env initial s)
    (use : s'.use = (s.put c).use) (destroyed : s'.destroyed = (s.put c).destroyed)
    (elsewhere : ∀ ct, ct ≠ c → holders env s' ct = holders env s ct ∧
      surplus s'.pc ct = surplus s.pc ct)
    (less : holders env s c = holders env s' c + 1) (extra : surplus s'.pc c = surplus s.pc c)
    (repaired : s'.repaired = s.repaired) : Counted env initial s' := by
  have count := counted.use_eq c
  apply counted.move
  · intro ct other
    have kept := put_elsewhere (s := s) other
    have same := elsewhere ct other
    rw [use, destroyed]
    exact ⟨kept.1, kept.2, same.1, same.2⟩
  · rw [use, extra]
    simp only [FlushState.put, Function.update_self]
    omega
  · intro listed
    have alive : s.destroyed c = 0 := by rw [counted.destroyed_eq c listed, if_neg (by omega)]
    rw [destroyed]
    rw [less] at count
    apply destroyed_put count _ alive
    rcases surplus_cases s'.pc c with none | raised
    · rw [← extra]
      exact Or.inl none
    · rw [← extra]
      have held : flushRefs s'.pc c ≤ holders env s' c := by
        unfold holders
        omega
      exact Or.inr ⟨raised.1, by omega⟩
  · exact repaired

/-- A holder gets a reference: the count goes up with the references. -/
theorem Counted.get (counted : Counted env initial s) (use : s'.use = (s.get c).use)
    (destroyed : s'.destroyed = s.destroyed)
    (elsewhere : ∀ ct, ct ≠ c → holders env s' ct = holders env s ct ∧
      surplus s'.pc ct = surplus s.pc ct)
    (alive : 1 ≤ holders env s c) (more : holders env s' c = holders env s c + 1)
    (extra : surplus s'.pc c = surplus s.pc c) (repaired : s'.repaired = s.repaired) :
    Counted env initial s' := by
  have count := counted.use_eq c
  apply counted.move
  · intro ct other
    have same := elsewhere ct other
    rw [use, destroyed]
    exact ⟨Function.update_of_ne other _ _, rfl, same.1, same.2⟩
  · rw [use, extra]
    simp only [FlushState.get, Function.update_self]
    omega
  · intro listed
    rw [destroyed, counted.destroyed_eq c listed, if_neg (by omega), if_neg (by omega)]
  · exact repaired

/-- The flush sets a count: the surplus comes or goes. -/
theorem Counted.set (counted : Counted env initial s) {value : Int}
    (use : s'.use = Function.update s.use c value) (destroyed : s'.destroyed = s.destroyed)
    (same : ∀ ct, holders env s' ct = holders env s ct)
    (elsewhere : ∀ ct, ct ≠ c → surplus s'.pc ct = surplus s.pc ct)
    (extra : value - s.use c = surplus s'.pc c - surplus s.pc c)
    (repaired : s'.repaired = s.repaired) : Counted env initial s' := by
  have count := counted.use_eq c
  apply counted.move
  · intro ct other
    rw [use, destroyed]
    exact ⟨Function.update_of_ne other _ _, rfl, same ct, elsewhere ct other⟩
  · rw [use, Function.update_self, same]
    omega
  · intro listed
    rw [destroyed, counted.destroyed_eq c listed, same]
  · exact repaired

/-- A step that moves no reference. -/
theorem Counted.stay (counted : Counted env initial s) (use : s'.use = s.use)
    (destroyed : s'.destroyed = s.destroyed) (same : ∀ ct, holders env s' ct = holders env s ct)
    (extra : ∀ ct, surplus s'.pc ct = surplus s.pc ct) (repaired : s'.repaired = s.repaired) :
    Counted env initial s' := by
  apply Counted.mk
  · intro ct
    rw [use, same, extra]
    exact counted.use_eq ct
  · intro ct listed
    rw [destroyed, same]
    exact counted.destroyed_eq ct listed
  · rw [repaired]
    exact counted.repaired_eq

/-- Whether a connection is listed is a matter of the hash. -/
theorem listed_congr (hash : s'.hash = s.hash) (ct : Conn) :
    s'.listed env ct = s.listed env ct := by
  unfold FlushState.listed
  rw [hash]

/-- The references in states with one hash differ by those of the flush and of the others. -/
theorem holders_shift {ct : Conn} (hash : s'.hash = s.hash) :
    holders env s' ct + flushRefs s.pc ct + s.others ct =
      holders env s ct + flushRefs s'.pc ct + s'.others ct := by
  unfold holders
  rw [listed_congr hash]
  omega

/-- The references in states that do not differ in them. -/
theorem holders_congr {ct : Conn} (hash : s'.hash = s.hash)
    (refs : flushRefs s'.pc ct = flushRefs s.pc ct) (others : s'.others ct = s.others ct) :
    holders env s' ct = holders env s ct := by
  have shift : holders env s' ct + flushRefs s.pc ct + s.others ct =
      holders env s ct + flushRefs s'.pc ct + s'.others ct := holders_shift hash
  omega

end Counts

end Fvs318g.Verif.Cleanup
