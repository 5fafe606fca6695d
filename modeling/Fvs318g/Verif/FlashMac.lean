import Fvs318g.Gsw.FlashMac
import Mathlib.Tactic.Common

/-!
# The derived MAC addresses

From a 48-bit number the setup derives four addresses with the same first three bytes whose last
bytes lie 0, 2, 3 and 4 above the one of the number, so that they differ. The number itself comes
from a parser that stops at the first character which is no digit: if the flash holds digits only,
it is the memory behind the copy that decides.
-/

namespace Fvs318g.Verif.FlashMac

open Gsw

/-! ## Deriving -/

/-- The address whose bytes, the high one first, are those of a 48-bit number. -/
def macBytes (number : Nat) : Mac := fun i => UInt8.ofNat (number / 256 ^ (5 - i.val))

/-- The addresses that belong to a 48-bit number. -/
structure Derived (value : Nat) (macs : VlanMacs) : Prop where
  /-- The number fits an address. -/
  fits : value < 2 ^ 48
  /-- The LAN address is the number. -/
  lan : macs.vlan1 = macBytes value
  /-- The WAN address is the number with its low 24 bits 2 above. -/
  wan : macs.vlan2 = macBytes (value / 2 ^ 24 * 2 ^ 24 + (value % 2 ^ 24 + 2) % 2 ^ 24)
  /-- The next address is the WAN address with the last byte plus 1. -/
  third : macs.vlan3 = Function.update macs.vlan2 5 (macs.vlan2 5 + 1)
  /-- The last address is the WAN address with the last byte plus 2. -/
  fourth : macs.vlan0 = Function.update macs.vlan2 5 (macs.vlan2 5 + 2)
  /-- No two are the same. -/
  distinct : [macs.vlan0, macs.vlan1, macs.vlan2, macs.vlan3].Pairwise (· ≠ ·)
  /-- They share the first three bytes. -/
  shared : ∀ i : Fin 6, i < 3 →
    macs.vlan0 i = macs.vlan1 i ∧ macs.vlan2 i = macs.vlan1 i ∧ macs.vlan3 i = macs.vlan1 i

/-- The copied number, turned around. -/
theorem reverseMac_macOfNumber (n : Nat) : reverseMac (macOfNumber n) = macBytes n := by
  funext i
  rw [reverseMac, macOfNumber, macBytes, Fin.val_rev]
  congr 3
  omega

/-- Numbers with the same high part have the same first three bytes. -/
theorem macBytes_high {m n : Nat} (same : m / 2 ^ 24 = n / 2 ^ 24) {i : Fin 6} (below : i < 3) :
    macBytes m i = macBytes n i := by
  have place : i.val < 3 := below
  have power : 256 ^ (5 - i.val) = 2 ^ 24 * 256 ^ (2 - i.val) := by
    rw [show 5 - i.val = 3 + (2 - i.val) by omega, Nat.pow_add, show 256 ^ 3 = 2 ^ 24 by decide]
  rw [macBytes, macBytes, power, ← Nat.div_div_eq_div_mul, ← Nat.div_div_eq_div_mul, same]

/-- The last byte of an address is the low byte of its number. -/
theorem macBytes_last (n : Nat) : (macBytes n 5).toNat = n % 256 := by
  rw [macBytes, UInt8.toNat_ofNat', show (5 : Fin 6).val = 5 from rfl, Nat.sub_self,
    Nat.pow_zero, Nat.div_one]

/-- `++mac[5]` keeps the other bytes. -/
theorem nextMac_other (mac : Mac) {i : Fin 6} (other : i ≠ 5) : nextMac mac i = mac i :=
  Function.update_of_ne other ..

/-- `++mac[5]` twice. -/
theorem nextMac_nextMac (mac : Mac) :
    nextMac (nextMac mac) = Function.update mac 5 (mac 5 + 2) := by
  rw [nextMac, nextMac, Function.update_self, Function.update_idem, UInt8.add_assoc]
  rfl

/-- Addresses with different last bytes differ. -/
theorem ne_of_last {left right : Mac} (differs : (left 5).toNat ≠ (right 5).toNat) :
    left ≠ right := by
  intro same
  exact differs (by rw [same])

/-- What the setup derives from a 48-bit number. -/
theorem deriveMacs_derived {value : Nat} (small : value < 2 ^ 48) :
    Derived value (deriveMacs value) := by
  let low := value / 2 ^ 24 * 2 ^ 24 + (value % 2 ^ 24 + 2) % 2 ^ 24
  have lan : (deriveMacs value).vlan1 = macBytes value := reverseMac_macOfNumber value
  have wan : (deriveMacs value).vlan2 = macBytes low := by
    have wrapped : (value % 2 ^ 24 + 2) % 2 ^ 32 % 2 ^ 24 = (value % 2 ^ 24 + 2) % 2 ^ 24 := by
      omega
    simp only [deriveMacs, wrapped]
    exact reverseMac_macOfNumber low
  have third : (deriveMacs value).vlan3 = nextMac (deriveMacs value).vlan2 := rfl
  have fourth : (deriveMacs value).vlan0 = nextMac (nextMac (deriveMacs value).vlan2) := rfl
  rw [nextMac_nextMac] at fourth
  have wanHigh : ∀ i : Fin 6, i < 3 → (deriveMacs value).vlan2 i = (deriveMacs value).vlan1 i := by
    intro i below
    rw [lan, wan]
    exact macBytes_high (by omega) below
  -- The last bytes lie 0, 2, 3 and 4 above the one of the number.
  have lanLast : ((deriveMacs value).vlan1 5).toNat = value % 256 := by rw [lan, macBytes_last]
  have wanLast : ((deriveMacs value).vlan2 5).toNat = (value + 2) % 256 := by
    rw [wan, macBytes_last]
    omega
  have thirdLast : ((deriveMacs value).vlan3 5).toNat = (value + 3) % 256 := by
    rw [third, nextMac, Function.update_self, UInt8.toNat_add, wanLast, UInt8.toNat_one]
    omega
  have two : (2 : UInt8).toNat = 2 := rfl
  have fourthLast : ((deriveMacs value).vlan0 5).toNat = (value + 4) % 256 := by
    rw [fourth, Function.update_self, UInt8.toNat_add, wanLast, two]
    omega
  refine ⟨small, lan, wan, third, fourth, ?_, fun i below => ?_⟩
  · simp only [List.pairwise_cons, List.mem_cons, List.not_mem_nil, or_false, forall_eq_or_imp,
      forall_eq]
    refine ⟨⟨?_, ?_, ?_⟩, ⟨?_, ?_⟩, ?_, ?_⟩ <;> first | exact ne_of_last (by omega) | simp
  · have other : i ≠ 5 := by
      intro last
      rw [last] at below
      exact absurd below (by decide)
    refine ⟨?_, wanHigh i below, ?_⟩
    · rw [fourth, Function.update_of_ne other]
      exact wanHigh i below
    · rw [third, nextMac_other _ other]
      exact wanHigh i below

/-! ## Digits -/

/-- The value of hexadecimal digits, the high one first. -/
def hexValue (digits : List UInt8) : Nat :=
  digits.foldl (fun value c => value * 16 + digitValue c) 0

/-- A hexadecimal digit has a value below 16 and is neither NUL nor a byte of erased flash. -/
theorem isxdigit_facts {c : UInt8} (hex : isxdigit c = true) :
    digitValue c < 16 ∧ c ≠ 0 ∧ c ≠ 0xFF := by
  have each : ∀ n : Fin 256, isxdigit (UInt8.ofNat n) = true →
      digitValue (UInt8.ofNat n) < 16 ∧ UInt8.ofNat n ≠ 0 ∧ UInt8.ofNat n ≠ 0xFF := by
    decide +kernel
  have here := each ⟨c.toNat, c.toNat_lt⟩
  rw [UInt8.ofNat_toNat] at here
  exact here hex

/-- Each digit adds four bits. -/
theorem foldl_digits_lt {digits : List UInt8} (hex : ∀ c ∈ digits, isxdigit c = true)
    {value bits : Nat} (small : value < 16 ^ bits) :
    digits.foldl (fun value c => value * 16 + digitValue c) value <
      16 ^ (bits + digits.length) := by
  induction digits generalizing value bits with
  | nil => exact small
  | cons c digits ih =>
    have digit := (isxdigit_facts (hex c List.mem_cons_self)).1
    have next : value * 16 + digitValue c < 16 ^ (bits + 1) := by
      rw [Nat.pow_succ]
      omega
    rw [List.foldl_cons, List.length_cons, Nat.add_comm digits.length, ← Nat.add_assoc]
    exact ih (fun d member => hex d (List.mem_cons_of_mem c member)) next

/-- Twelve digits are a 48-bit number. -/
theorem hexValue_lt {vMac : Vector UInt8 12} (hex : ∀ c ∈ vMac.toList, isxdigit c = true) :
    hexValue vMac.toList < 2 ^ 48 := by
  have bound := foldl_digits_lt hex (show 0 < 16 ^ 0 by decide)
  rw [Vector.length_toList, Nat.zero_add] at bound
  exact Nat.lt_of_lt_of_eq bound (by decide)

/-- Digits are not taken for a blank flash. -/
theorem blankMac_digits {vMac : Vector UInt8 12} (hex : ∀ c ∈ vMac.toList, isxdigit c = true) :
    blankMac vMac.toList = false := by
  have length : vMac.toList.length = 12 := Vector.length_toList
  cases listed : vMac.toList with
  | nil =>
    rw [listed] at length
    exact absurd length (by decide)
  | cons c rest =>
    have first := (isxdigit_facts (hex c (by rw [listed]; exact List.mem_cons_self))).2
    simp only [blankMac, List.take_succ_cons, List.replicate_succ, Bool.or_eq_false_iff,
      beq_eq_false_iff_ne, ne_eq, List.cons.injEq, first.1, first.2, false_and,
      not_false_eq_true, and_self]

/-- The LAN address is the number that the digits give, the WAN address lies 2 above it, and the
four addresses are as they should be. -/
theorem flashMacs_derived (vMac : Vector UInt8 12) (hex : ∀ c ∈ vMac.toList, isxdigit c = true)
    (behind : List UInt8)
    (parsed : simpleStrtoull (vMac.toList ++ behind) 16 = some (hexValue vMac.toList)) :
    ∃ macs, flashMacs vMac behind = some macs ∧ Derived (hexValue vMac.toList) macs := by
  refine ⟨deriveMacs (hexValue vMac.toList), ?_, deriveMacs_derived (hexValue_lt hex)⟩
  rw [flashMacs, blankMac_digits hex, if_neg Bool.false_ne_true, parsed, Option.map_some]

/-- Twelve digits whose low part carries into all three low bytes: `00A0F1FFFFFE`. -/
def carryingMac : Vector UInt8 12 := #v[48, 48, 65, 48, 70, 49, 70, 70, 70, 70, 70, 69]

/-- The addresses for these digits, with a NUL behind them. -/
theorem flashMacs_carrying :
    ∃ macs, flashMacs carryingMac [0] = some macs ∧ Derived (hexValue carryingMac.toList) macs :=
  flashMacs_derived carryingMac (by decide +kernel) [0] (by decide +kernel)

/-! ## The memory behind the digits -/

/-- The characters that are read as digits: a leading `0x` is skipped. -/
def numberPart : List UInt8 → List UInt8
  | c :: x :: more => if c = 48 ∧ toupper x = 88 then more else c :: x :: more
  | short => short

/-- The parser works on the number part and what follows. -/
theorem simpleStrtoull_numberPart {cp : List UInt8} (long : 2 ≤ cp.length) (behind : List UInt8) :
    simpleStrtoull (cp ++ behind) 16 = parseDigits 16 0 (numberPart cp ++ behind) := by
  match cp, long with
  | c :: x :: more, _ =>
    have base : ¬ (16 : Nat) = 0 := by decide
    simp only [simpleStrtoull, List.cons_append, numberPart, base, if_false, if_true]
    split <;> rfl

/-- The characters from the flash are long enough. -/
theorem simpleStrtoull_vMac (vMac : Vector UInt8 12) (behind : List UInt8) :
    simpleStrtoull (vMac.toList ++ behind) 16 =
      parseDigits 16 0 (numberPart vMac.toList ++ behind) := by
  apply simpleStrtoull_numberPart
  rw [Vector.length_toList]
  decide

/-- Digits are taken up. -/
theorem parseDigits_digits {digits : List UInt8} (hex : ∀ c ∈ digits, isxdigit c = true)
    (result : Nat) (behind : List UInt8) :
    parseDigits 16 result (digits ++ behind) =
      parseDigits 16 (digits.foldl (fun value c => (value * 16 + digitValue c) % 2 ^ 64) result)
        behind := by
  induction digits generalizing result with
  | nil => rfl
  | cons c digits ih =>
    have here := hex c List.mem_cons_self
    rw [List.cons_append, parseDigits, if_pos ⟨here, (isxdigit_facts here).1⟩, List.foldl_cons]
    exact ih (fun d member => hex d (List.mem_cons_of_mem c member)) _

/-- With another character among them the parser stops there. -/
theorem parseDigits_stops {cp : List UInt8} (stop : ∃ c ∈ cp, isxdigit c = false) (result : Nat) :
    ∃ value, ∀ behind, parseDigits 16 result (cp ++ behind) = some value := by
  induction cp generalizing result with
  | nil => simp only [List.not_mem_nil, false_and, exists_false] at stop
  | cons c cp ih =>
    cases here : isxdigit c with
    | false =>
      refine ⟨result, fun behind => ?_⟩
      rw [List.cons_append, parseDigits, here, if_neg (by simp)]
    | true =>
      have later : ∃ c ∈ cp, isxdigit c = false := by
        obtain ⟨d, member, other⟩ := stop
        rcases List.mem_cons.mp member with same | member
        · rw [same, here] at other
          exact absurd other (by decide)
        · exact ⟨d, member, other⟩
      obtain ⟨value, parsed⟩ := ih later ((result * 16 + digitValue c) % 2 ^ 64)
      refine ⟨value, fun behind => ?_⟩
      rw [List.cons_append, parseDigits, if_pos ⟨here, (isxdigit_facts here).1⟩]
      exact parsed behind

/-- The addresses depend on the characters from the flash only. -/
def FlashOnly (vMac : Vector UInt8 12) : Prop :=
  ∀ behind behind' macs macs', flashMacs vMac behind = some macs →
    flashMacs vMac behind' = some macs' → macs = macs'

/-- If the number part is made of digits, another digit behind it goes into the number. -/
theorem flashMacs_digit {vMac : Vector UInt8 12} (present : blankMac vMac.toList = false)
    (hex : ∀ c ∈ numberPart vMac.toList, isxdigit c = true) :
    ∃ value, ∀ digit, isxdigit digit = true → ∃ macs, flashMacs vMac [digit, 0] = some macs ∧
      (macs.vlan1 5).toNat = (value * 16 + digitValue digit) % 256 := by
  let value := (numberPart vMac.toList).foldl
    (fun value c => (value * 16 + digitValue c) % 2 ^ 64) 0
  refine ⟨value, fun digit more => ⟨deriveMacs ((value * 16 + digitValue digit) % 2 ^ 64), ?_, ?_⟩⟩
  · rw [flashMacs, present, if_neg Bool.false_ne_true, simpleStrtoull_vMac,
      parseDigits_digits hex, parseDigits, if_pos ⟨more, (isxdigit_facts more).1⟩, parseDigits,
      if_neg (by decide), Option.map_some]
  · have lan : (deriveMacs ((value * 16 + digitValue digit) % 2 ^ 64)).vlan1 =
        macBytes ((value * 16 + digitValue digit) % 2 ^ 64) := reverseMac_macOfNumber _
    rw [lan, macBytes_last]
    omega

/-- The addresses depend on the flash only if and only if it is blank or holds a character that
ends the number. -/
theorem flashMacs_flashOnly_iff (vMac : Vector UInt8 12) :
    FlashOnly vMac ↔
      blankMac vMac.toList = true ∨ ∃ c ∈ numberPart vMac.toList, isxdigit c = false := by
  constructor
  · intro only
    apply Classical.byContradiction
    intro other
    have present : blankMac vMac.toList = false :=
      Bool.eq_false_iff.mpr fun blank => other (Or.inl blank)
    have hex : ∀ c ∈ numberPart vMac.toList, isxdigit c = true := by
      intro c member
      exact Bool.eq_true_of_not_eq_false fun stop => other (Or.inr ⟨c, member, stop⟩)
    obtain ⟨value, digits⟩ := flashMacs_digit present hex
    obtain ⟨macs, derived, last⟩ := digits 49 (by decide)
    obtain ⟨macs', derived', last'⟩ := digits 50 (by decide)
    have same := only _ _ macs macs' derived derived'
    have one : digitValue 49 = 1 := by decide
    have two : digitValue 50 = 2 := by decide
    rw [same, last', one, two] at last
    omega
  · intro settled behind behind' macs macs' derived derived'
    cases present : blankMac vMac.toList with
    | true =>
      rw [flashMacs, present, if_pos rfl] at derived derived'
      exact Option.some.inj (derived.symm.trans derived')
    | false =>
      have stop : ∃ c ∈ numberPart vMac.toList, isxdigit c = false := by
        rw [present] at settled
        exact settled.resolve_left Bool.false_ne_true
      obtain ⟨value, parsed⟩ := parseDigits_stops stop 0
      rw [flashMacs, present, if_neg Bool.false_ne_true, simpleStrtoull_vMac,
        parsed] at derived derived'
      exact Option.some.inj (derived.symm.trans derived')

/-- A digit behind twelve digits changes the addresses. -/
theorem flashMacs_digitBehind : ¬ FlashOnly carryingMac := by
  intro only
  have first : (flashMacs carryingMac [49, 0]).map (fun macs => macs.vlan1 5) = some 0xE1 := by
    decide +kernel
  have second : (flashMacs carryingMac [50, 0]).map (fun macs => macs.vlan1 5) = some 0xE2 := by
    decide +kernel
  obtain ⟨macs, derived, last⟩ := Option.map_eq_some_iff.mp first
  obtain ⟨macs', derived', last'⟩ := Option.map_eq_some_iff.mp second
  rw [only _ _ macs macs' derived derived', last'] at last
  exact absurd last (by decide)

end Fvs318g.Verif.FlashMac
