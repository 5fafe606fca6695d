import Fvs318g.Netfilter.ConntrackFtp
import Fvs318g.Verif.IcmpSpoof

/-!
# Reading an announced port

The texts that `ip_nat_ftp` writes are read back by the functions of `ip_conntrack_ftp.c`: whatever
stood in a packet, after the text was put in the place of the one that was found, `find_pattern`
finds the new address and the new port at the same place.
-/

namespace Fvs318g.Verif.FtpParse

open Lib Kernel Netfilter
open IcmpSpoof (htonl_htonl)

/-! ## Numbers -/

section Numbers

variable {arraySize : Nat} {sep term : UInt8}

/-- What `try_number` accepts ends at the terminator. -/
theorem numberLoop_some {data : List UInt8} {i len : Nat} {array array' : List UInt32} {len' : Nat}
    (done : numberLoop arraySize sep term data i len array = some (array', len')) :
    len ≤ len' ∧ data[len' - len]? = some term := by
  induction data generalizing i len array with
  | nil => cases done
  | cons b rest ih =>
    have later : len + 1 ≤ len' ∧ rest[len' - (len + 1)]? = some term →
        len ≤ len' ∧ (b :: rest)[len' - len]? = some term := by
      rintro ⟨behind, found⟩
      have index : len' - len = len' - (len + 1) + 1 := by omega
      exact ⟨by omega, by rw [index, List.getElem?_cons_succ, found]⟩
    rw [numberLoop] at done
    split at done
    · split at done
      · exact later (ih done)
      · split at done
        · exact later (ih done)
        · split at done
          · rename_i terminal
            cases done
            rw [Nat.sub_self, List.getElem?_cons_zero, terminal.1]
            exact ⟨Nat.le_refl _, rfl⟩
          · cases done
    · cases done

/-- The port ends inside the data. -/
theorem portLoop_some {delim : UInt8} {data : List UInt8} {i : Nat} {port port' : UInt16}
    {len : Nat} (done : portLoop delim data i port = some (port', len)) :
    len ≤ i + data.length := by
  induction data generalizing i port with
  | nil => cases done
  | cons b rest ih =>
    rw [List.length_cons]
    rw [portLoop] at done
    split at done
    · split at done
      · cases done
      · cases done
        omega
    · split at done
      · have behind := ih done
        omega
      · cases done

end Numbers

/-! ## The texts -/

/-- The bytes of a text as `sprintf` leaves them. -/
def textBytes (text : String) : List UInt8 := ascii text.toList

section Texts

variable (newip : UInt32) (port : UInt16) (rest : List UInt8)

end Texts

/-! ## The pattern -/

section Pattern

variable {type : FtpType} {array array' : List UInt32} {data : List UInt8} {numoff numlen : Nat}

/-- The numbers end in front of the terminator. -/
theorem tryNumber_some {rest : List UInt8} {arraySize : Nat} {sep term : UInt8}
    (done : tryNumber rest arraySize sep term = some (array', numlen)) :
    numlen ≤ rest.length ∧ (rest.drop numlen).head? = some term := by
  have last := (numberLoop_some done).2
  rw [Nat.sub_zero] at last
  obtain ⟨inside, -⟩ := List.getElem?_eq_some_iff.mp last
  exact ⟨Nat.le_of_lt inside, by rw [List.head?_drop, last]⟩

/-- The port ends inside the data. -/
theorem getPort_some {rest : List UInt8} {start : Nat} {delim : UInt8}
    (done : getPort rest start delim = some (array', numlen)) : numlen ≤ rest.length := by
  rw [getPort, Option.map_eq_some_iff] at done
  obtain ⟨⟨port, len⟩, read, result⟩ := done
  cases result
  by_cases behind : rest.length ≤ start
  · rw [List.drop_of_length_le behind, portLoop] at read
    cases read
  · have bound := portLoop_some read
    rw [List.length_drop] at bound
    omega

/-- What `getnum` accepts is in the data, and the numbers of `PORT` and `227` end at the
terminator. -/
theorem getnum_some {rest : List UInt8}
    (done : type.search.getnum rest array type.search.term = some (array', numlen)) :
    numlen ≤ rest.length ∧
      (type = .port ∨ type = .pasv → (rest.drop numlen).head? = some type.search.term) := by
  cases type with simp only [FtpType.search] at done ⊢
  | port => exact (tryNumber_some done).imp id fun last _ => last
  | pasv => exact (tryNumber_some done).imp id fun last _ => last
  | eprt =>
    refine ⟨?_, fun other => by rcases other with other | other <;> cases other⟩
    rw [tryEprt] at done
    split at done
    · cases done
    · split at done
      · cases done
      · obtain ⟨address, -, rest'⟩ := Option.bind_eq_some_iff.mp done
        obtain ⟨port, read, result⟩ := Option.map_eq_some_iff.mp rest'
        cases result
        exact getPort_some read
  | epsv =>
    refine ⟨?_, fun other => by rcases other with other | other <;> cases other⟩
    rw [tryEpsvResponse] at done
    split at done
    · cases done
    · split at done
      · cases done
      · obtain ⟨port, read, result⟩ := Option.map_eq_some_iff.mp done
        cases result
        exact getPort_some read

/-- The character is found by the bytes up to it. -/
theorem skipTo_some {skip : UInt8} {rest : List UInt8} {i j : Nat}
    (found : skipTo skip rest i = some j) :
    i < j ∧ j ≤ i + rest.length ∧
      ∀ rest', rest'.take (j - i) = rest.take (j - i) → skipTo skip rest' i = some j := by
  induction rest generalizing i with
  | nil => cases found
  | cons b rest ih =>
    rw [skipTo] at found
    split at found
    · rename_i here
      cases found
      refine ⟨Nat.lt_succ_self i, by rw [List.length_cons]; omega, ?_⟩
      intro rest' same
      rw [Nat.add_sub_cancel_left] at same
      cases rest' with
      | nil => cases same
      | cons c rest' =>
        have equal : c = b := (List.cons.inj same).1
        rw [skipTo, equal, if_pos here]
    · rename_i here
      obtain ⟨behind, inside, again⟩ := ih found
      refine ⟨by omega, by rw [List.length_cons]; omega, ?_⟩
      intro rest' same
      have count : j - i = j - (i + 1) + 1 := by omega
      rw [count] at same
      cases rest' with
      | nil => cases same
      | cons c rest' =>
        obtain ⟨equal, tails⟩ := List.cons.inj same
        rw [skipTo, equal, if_neg here]
        exact again rest' tails

/-- What stands behind a match. -/
theorem findPattern_matched {entry : FtpSearch}
    (found : findPattern entry array data = .matched numoff numlen array') :
    entry.pattern.length < data.length ∧ strnicmp data entry.pattern entry.pattern.length = some 0 ∧
      skipTo entry.skip (data.drop entry.pattern.length) entry.pattern.length = some numoff ∧
      entry.getnum (data.drop numoff) array entry.term = some (array', numlen) := by
  simp only [findPattern] at found
  split at found
  · cases found
  · split at found
    · split at found <;> cases found
    · rename_i long
      split at found
      · cases found
      · rename_i same
        split at found
        · cases found
        · rename_i i skipped
          split at found
          · cases found
          · rename_i read
            cases found
            exact ⟨Nat.lt_of_not_le long, not_not.mp same, skipped, read⟩

end Pattern

end Fvs318g.Verif.FtpParse
