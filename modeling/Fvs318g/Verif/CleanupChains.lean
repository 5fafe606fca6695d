import Fvs318g.Netfilter.Cleanup
import Fvs318g.Netfilter.ConntrackTable

/-!
# The flush on the connection table

`ip_ct_iterate_cleanup` is modelled step by step on the chains of the hash, the other functions on
one list of its entries. The chains of that list are what the flush sees of it, and its steps
through `del_timer` and `death_by_timeout` are what these functions do to the table. The flush holds
a reference of its own there, so the put of `death_by_timeout` is not the last one.
-/

namespace Fvs318g.Verif.CleanupChains

open Netfilter

/-- A flush of the connections of a table. -/
def flushEnv (env : TableEnv) (s : ConntrackTable) (iter : Nat → Bool)
    (refuses : Nat → Int → Bool) : FlushEnv Nat where
  iter := iter
  hashConntrack ct dir := hashConntrack env (s.tupleOf (ct, dir))
  htableSize := env.htableSize
  hookReady := true
  refuses := refuses

/-- What the flush sees of the table, with what it has of its own. -/
def flushView (env : TableEnv) (s : ConntrackTable) (f : FlushState Nat) : FlushState Nat :=
  { f with
    use := fun ct => (s.conn ct).use
    hash := s.chain env
    unconfirmed := s.unconfirmed
    timerPending := fun ct => (s.conn ct).pending }

variable {env : TableEnv} {s : ConntrackTable} {iter : Nat → Bool} {refuses : Nat → Int → Bool}
  {f : FlushState Nat} {ct : Nat}

/-- An entry is taken out of the chain that it is in. -/
theorem filter_erase_chain (l : List (Nat × Dir)) (h : Nat × Dir) (b : Nat) :
    (l.erase h).filter (fun e => hashConntrack env (s.tupleOf e) = b) =
      Function.update (fun b => l.filter fun e => hashConntrack env (s.tupleOf e) = b)
        (hashConntrack env (s.tupleOf h))
        ((l.filter fun e => hashConntrack env (s.tupleOf e) =
          hashConntrack env (s.tupleOf h)).erase h) b := by
  rw [← List.erase_filter]
  by_cases here : b = hashConntrack env (s.tupleOf h)
  · rw [here, Function.update_self]
  · rw [Function.update_of_ne here, List.erase_of_not_mem]
    intro member
    exact here (of_decide_eq_true (List.mem_filter.mp member).2).symm

/-- `clean_from_lists` on the list and on its chains. -/
theorem chain_cleanFromLists :
    (s.cleanFromLists ct).chain env =
      cleanFromLists (flushEnv env s iter refuses) ct (s.chain env) := by
  funext b
  show ((s.hash.erase (ct, .original)).erase (ct, .reply)).filter
    (fun e => hashConntrack env (s.tupleOf e) = b) = _
  rw [filter_erase_chain, cleanFromLists]
  congr 1
  · funext b
    exact filter_erase_chain s.hash (ct, .original) b
  · congr 1
    exact filter_erase_chain s.hash (ct, .original) _

/-- A write that leaves the tuples of a connection leaves the chains. -/
theorem chain_modify {g : Connection → Connection} (same : ∀ c dir,
    (g c).tuplehash dir = c.tuplehash dir) : (s.modify ct g).chain env = s.chain env := by
  have tuples : ∀ h, (s.modify ct g).tupleOf h = s.tupleOf h := by
    intro h
    show (Function.update s.conn ct (g (s.conn ct)) h.1).tuplehash h.2 = _
    by_cases here : h.1 = ct
    · rw [here, Function.update_self, same, ← here]
      rfl
    · rw [Function.update_of_ne here]
      rfl
  funext b
  simp only [ConntrackTable.chain, tuples]
  rfl

/-- The flush sees the count and the timer that are written. -/
theorem flushView_modify {g : Connection → Connection} (same : ∀ c dir,
    (g c).tuplehash dir = c.tuplehash dir) :
    flushView env (s.modify ct g) f = { flushView env s f with
      use := Function.update (fun c => (s.conn c).use) ct (g (s.conn ct)).use
      timerPending :=
        Function.update (fun c => (s.conn c).pending) ct (g (s.conn ct)).pending } := by
  have uses := Function.comp_update Connection.use s.conn ct (g (s.conn ct))
  have timers := Function.comp_update Connection.pending s.conn ct (g (s.conn ct))
  simp only [flushView, chain_modify same]
  exact congrArg₂ (fun use timerPending => { flushView env s f with use, timerPending }) uses timers

/-- `del_timer` of a pending timer. -/
theorem flush_stopTimer (place : f.pc = .delTimer ct) (pending : (s.conn ct).pending = true) :
    flushStep (flushEnv env s iter refuses) (flushView env s f) =
      some (flushView env (s.stopTimer ct) { f with pc := .readAdd ct }) := by
  rw [ConntrackTable.stopTimer, flushView_modify fun c dir => by cases dir <;> rfl]
  simp [flushStep, flushView, place, pending]

/-- `death_by_timeout` of a connection that the hook refuses, and of one that it does not. -/
theorem flush_deathByTimeout (place : f.pc = .hook ct) (held : (s.conn ct).use ≠ 1) :
    if refuses ct (s.conn ct).use then
      flushStep (flushEnv env s iter refuses) (flushView env s f) =
        some (flushView env (s.deathByTimeout true ct) { f with pc := .readSub ct })
    else
      (flushStep (flushEnv env s iter refuses) (flushView env s f)).bind
          (flushStep (flushEnv env s iter refuses)) =
        some (flushView env (s.deathByTimeout false ct) { f with pc := .readSub ct }) := by
  split
  · rename_i refused
    simp [flushStep, flushView, flushEnv, place, refused, ConntrackTable.deathByTimeout]
  · rename_i accepted
    have left : (s.conn ct).use - 1 ≠ 0 := by omega
    have put : s.deathByTimeout false ct =
        (s.cleanFromLists ct).modify ct fun c => { c with use := c.use - 1 } := if_neg left
    rw [put, flushView_modify fun c dir => by cases dir <;> rfl]
    simp only [flushStep, flushView, place, flushEnv, accepted, Bool.and_false,
      Bool.false_eq_true, ↓reduceIte, Option.bind_some, FlushState.put, left,
      Function.update_eq_self, Option.some.injEq, FlushState.mk.injEq, and_self, and_true]
    exact ⟨rfl, chain_cleanFromLists.symm, rfl, rfl⟩

end Fvs318g.Verif.CleanupChains
