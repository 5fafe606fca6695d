import Fvs318g.Net.IcmpSpoof
import Mathlib.Data.List.Nodup
import Mathlib.Tactic.IntervalCases

/-!
# The verdict about spoofed packets

A packet should take the exit exactly when its source address is in no primary subnet of the
interface it came by. `getValidIfaceName` finds the first interface that has such a subnet, and the
caller compares names. The two agree when no earlier interface shares the address with the one of a
genuine packet; the first one's name has to fit the caller's buffer as well.
-/

namespace Fvs318g.Verif.IcmpSpoof

open Lib Netfilter Net

/-! ## Network byte order -/

/-- Where each bit comes from in `htonl`. -/
theorem htonl_bit (x : UInt32) {i : Nat} (inside : i < 32) :
    (htonl x).toBitVec.getLsbD i = x.toBitVec.getLsbD ((3 - i / 8) * 8 + i % 8) := by
  simp only [htonl, UInt32.toBitVec_or, UInt32.toBitVec_and, UInt32.toBitVec_shiftLeft,
    UInt32.toBitVec_shiftRight, BitVec.getLsbD_or]
  interval_cases i <;> simp

/-- Host order of network order. -/
theorem htonl_htonl (x : UInt32) : htonl (htonl x) = x := by
  apply UInt32.toBitVec_inj.mp
  apply BitVec.eq_of_getLsbD_eq
  intro i inside
  rw [htonl_bit _ inside, htonl_bit _ (by omega)]
  congr 1
  omega

/-- A mask is applied in either order. -/
theorem htonl_and (x y : UInt32) : htonl (x &&& y) = htonl x &&& htonl y := by
  apply UInt32.toBitVec_inj.mp
  apply BitVec.eq_of_getLsbD_eq
  intro i inside
  rw [htonl_bit _ inside, UInt32.toBitVec_and, UInt32.toBitVec_and, BitVec.getLsbD_and,
    BitVec.getLsbD_and, htonl_bit _ inside, htonl_bit _ inside]

/-- The comparison of `getValidIfaceName` is the one of the masked addresses. -/
theorem htonl_masked_iff (a b mask : UInt32) :
    htonl a &&& htonl mask = htonl b &&& htonl mask ↔ b &&& mask = a &&& mask := by
  rw [← htonl_and, ← htonl_and]
  constructor
  · intro same
    rw [← htonl_htonl (b &&& mask), ← same, htonl_htonl]
  · intro same
    rw [same]

/-! ## Subnets -/

/-- The address is in the subnet of a primary address that is not a loopback one. -/
def InSubnet (dev : IfDevice) (ip : UInt32) : Prop :=
  ∃ inDev, dev.inDev = some inDev ∧
    ∃ ifa ∈ inDev.ifaList, ifa.secondary = false ∧ loopback ifa.address = false ∧
      ip &&& ifa.mask = ifa.address &&& ifa.mask

/-- The loop over the addresses of an interface looks at all its primary addresses. -/
theorem primaryMatch_iff (ip : UInt32) {list : List InIfaddr}
    (ordered : list.Pairwise fun a b => a.secondary = true → b.secondary = true) :
    primaryMatch ip list = true ↔
      ∃ ifa ∈ list, ifa.secondary = false ∧ loopback ifa.address = false ∧
        ip &&& ifa.mask = ifa.address &&& ifa.mask := by
  induction list with
  | nil => simp [primaryMatch]
  | cons ifa rest ih =>
    have ⟨behind, orderedRest⟩ := List.pairwise_cons.mp ordered
    simp only [primaryMatch, List.mem_cons, exists_eq_or_imp]
    by_cases secondary : ifa.secondary = true
    · -- no primary address is behind a secondary one
      rw [if_pos secondary]
      refine iff_of_false Bool.false_ne_true ?_
      rintro (here | ⟨later, member, primary, _⟩)
      · rw [secondary] at here
        exact absurd here.1 (by decide)
      · rw [behind later member secondary] at primary
        exact absurd primary (by decide)
    · have primary : ifa.secondary = false := Bool.eq_false_of_not_eq_true secondary
      rw [if_neg secondary]
      by_cases local_ : loopback ifa.address = true
      · rw [if_pos local_, ih orderedRest]
        refine (or_iff_right ?_).symm
        rintro ⟨_, notLocal, _⟩
        rw [local_] at notLocal
        exact absurd notLocal (by decide)
      · have remote : loopback ifa.address = false := Bool.eq_false_of_not_eq_true local_
        rw [if_neg local_]
        by_cases inside : ip &&& ifa.mask = ifa.address &&& ifa.mask
        · rw [if_pos ((htonl_masked_iff _ _ _).mpr inside)]
          exact iff_of_true rfl (.inl ⟨primary, remote, inside⟩)
        · rw [if_neg (fun same => inside ((htonl_masked_iff _ _ _).mp same)), ih orderedRest]
          exact (or_iff_right fun here => inside here.2.2).symm

/-- The interface test of the loop over the interfaces. -/
def inSubnet (ip : UInt32) (dev : IfDevice) : Bool :=
  match dev.inDev with
  | none => false
  | some inDev => primaryMatch ip inDev.ifaList

/-- It is the rule. -/
theorem inSubnet_iff (ip : UInt32) (dev : IfDevice) : inSubnet ip dev = true ↔ InSubnet dev ip := by
  rw [inSubnet, InSubnet]
  cases dev.inDev with
  | none => simp
  | some inDev => simp [primaryMatch_iff ip inDev.ordered]

/-! ## The name that is copied -/

/-- The first interface with the address in one of its subnets. -/
def firstMatch (devBase : List IfDevice) (ip : UInt32) : Option IfDevice :=
  devBase.find? (inSubnet ip)

/-- It has the address, and no earlier interface has. -/
theorem firstMatch_iff {devBase : List IfDevice} {ip : UInt32} {dev : IfDevice} :
    firstMatch devBase ip = some dev ↔
      InSubnet dev ip ∧ ∃ before after, devBase = before ++ dev :: after ∧
        ∀ d ∈ before, ¬ InSubnet d ip := by
  rw [firstMatch, List.find?_eq_some_iff_append, inSubnet_iff]
  simp only [Bool.not_eq_true', ← Bool.not_eq_true, inSubnet_iff]

/-- An interface that occurs once in the list is the first match only if no earlier one has the
address. -/
theorem earlier_outside {before after : List IfDevice} {dev : IfDevice} {ip : UInt32}
    (once : dev ∉ before) (first : firstMatch (before ++ dev :: after) ip = some dev) :
    ∀ d ∈ before, ¬ InSubnet d ip := by
  intro d member covers
  have some_ : (before.find? (inSubnet ip)).isSome = true :=
    List.find?_isSome.mpr ⟨d, member, (inSubnet_iff ip d).mpr covers⟩
  obtain ⟨e, found⟩ := Option.isSome_iff_exists.mp some_
  rw [firstMatch, List.find?_append, found, Option.some_or] at first
  cases first
  exact once (List.mem_of_find?_eq_some found)

/-- The name of the first match is copied, if there is one. -/
theorem getValidIfaceName_eq (ip : UInt32) (ifName : List UInt8) (devBase : List IfDevice) :
    getValidIfaceName ip ifName devBase =
      match firstMatch devBase ip with
      | none => some ifName
      | some dev => strcpy ifName 0 dev.nameArray := by
  induction devBase with
  | nil => rfl
  | cons dev rest ih =>
    rw [getValidIfaceName, firstMatch, List.find?_cons, ← firstMatch, inSubnet]
    cases dev.inDev with
    | none => exact ih
    | some inDev =>
      simp only
      by_cases found : primaryMatch ip inDev.ifaList = true
      · rw [if_pos found, found]
      · rw [if_neg found, Bool.eq_false_of_not_eq_true found]
        exact ih

/-- A device name in its array. -/
theorem text_nameArray (dev : IfDevice) : text dev.nameArray = dev.name :=
  text_padded _ dev.name_clean

/-- The array of a name is terminated. -/
theorem zero_mem_nameArray (dev : IfDevice) : (0 : UInt8) ∈ dev.nameArray :=
  zero_mem_padded dev.name_lt

/-- The copy of a name to an empty buffer, when it fits with its zero. -/
theorem strcpy_name (dev : IfDevice) (size : Nat) :
    strcpy (List.replicate size 0) 0 dev.nameArray =
      if dev.name.length < size then some (padded size dev.name) else none := by
  rw [strcpy_eq, text_nameArray, List.length_replicate, Nat.zero_add]
  by_cases fits : dev.name.length < size
  · rw [if_pos ⟨zero_mem_nameArray dev, fits⟩, if_pos fits, overwrite_zeros, padded_terminated fits]
  · rw [if_neg (fun both => fits both.2), if_neg fits]

/-! ## The verdict -/

/-- The name that was found is the one of the interface. -/
def NamedAs (dev : IfDevice) (name : List UInt8) : Prop := name ≠ [] ∧ name = dev.name

instance (dev : IfDevice) (name : List UInt8) : Decidable (NamedAs dev name) :=
  inferInstanceAs (Decidable (_ ∧ _))

/-- The test of the name in the caller's buffer. -/
theorem nameInvalid_eq (dev : IfDevice) {size : Nat} {name : List UInt8} (room : name.length < size)
    (clean : (0 : UInt8) ∉ name) :
    nameInvalid dev (padded size name) = some (decide (¬ NamedAs dev name)) := by
  have ⟨order, compared, same⟩ := strcmp_eq (zero_mem_nameArray dev) (zero_mem_padded room)
  rw [text_nameArray, text_padded size clean] at same
  rw [nameInvalid]
  cases name with
  | nil =>
    have first : (padded size [])[0]? = some 0 := by
      rw [padded, List.nil_append, List.getElem?_replicate]
      exact if_pos room
    rw [if_pos first, decide_eq_true (fun named => named.1 rfl)]
  | cons c rest =>
    have first : (padded size (c :: rest))[0]? ≠ some 0 := by
      intro zero
      have head : c = 0 := Option.some.inj zero
      exact clean (head ▸ List.mem_cons_self)
    have named : NamedAs dev (c :: rest) ↔ order = 0 := by
      rw [same, NamedAs, and_iff_right (List.cons_ne_nil c rest), eq_comm]
    rw [if_neg first, compared, Option.map_some]
    congr 1
    by_cases zero : order = 0
    · rw [decide_eq_false (not_not.mpr (named.mpr zero)), zero]
      rfl
    · have unnamed : ¬ NamedAs dev (c :: rest) := fun h => zero (named.mp h)
      rw [decide_eq_true unnamed, bne_iff_ne.mpr zero]

/-- How `icmp_send` leaves the check, by the first match. -/
theorem icmpSend_eq {devBase : List IfDevice} {skb : IcmpSkb} (ttl : skb.ttl = 1 ∨ skb.ttl = 0)
    (notLo : skb.dev.name ≠ loopbackIntName) :
    icmpSend true devBase skb =
      match firstMatch devBase skb.saddr with
      | none => some (.spoofed (spoofLog skb.data))
      | some dev =>
        if dev.name.length < ifNameSize then
          some (if NamedAs skb.dev dev.name then .goesOn else .spoofed (spoofLog skb.data))
        else none := by
  have ⟨order, compared, same⟩ := strcmp_eq (zero_mem_nameArray skb.dev)
    (List.mem_append_right loopbackIntName (List.mem_singleton.mpr rfl))
  have differs : order ≠ 0 := by
    intro zero
    apply notLo
    rw [← text_nameArray, same.mp zero]
    rfl
  rw [icmpSend, if_pos ⟨rfl, ttl⟩, getValidIfaceName_eq]
  cases firstMatch devBase skb.saddr with
  | none =>
    have empty : List.replicate ifNameSize 0 = padded ifNameSize [] := rfl
    have nameless : ¬ NamedAs skb.dev [] := fun named => named.1 rfl
    have invalid := nameInvalid_eq skb.dev (by decide : ([] : List UInt8).length < ifNameSize)
      List.not_mem_nil
    simp only [Option.bind_eq_bind, Option.bind_some, empty, invalid, compared, if_pos differs,
      nameless, not_false_eq_true, decide_true, if_true]
  | some dev =>
    simp only [strcpy_name]
    by_cases fits : dev.name.length < ifNameSize
    · simp only [if_pos fits, Option.bind_eq_bind, Option.bind_some,
        nameInvalid_eq skb.dev fits dev.name_clean, compared, if_pos differs]
      by_cases named : NamedAs skb.dev dev.name
      · simp only [named, not_true_eq_false, decide_false, Bool.false_eq_true, if_false, if_true]
      · simp only [named, not_false_eq_true, decide_true, if_true, if_false]
    · rw [if_neg fits, if_neg fits]
      rfl

/-- The packet took the exit for spoofed packets. -/
def Spoofed : IcmpPath → Prop
  | .spoofed _ => True
  | .goesOn => False

/-- The exit is taken when the name is not valid. -/
theorem spoofed_iff (valid : Prop) [Decidable valid] (log : Option String) :
    Spoofed (if valid then .goesOn else .spoofed log) ↔ ¬ valid := by
  by_cases named : valid
  · rw [if_pos named]
    exact iff_of_false id (not_not.mpr named)
  · rw [if_neg named]
    exact iff_of_true trivial named

/-- Registered devices are told apart by their names. -/
theorem namedAs_iff (devBase : DevBase) {dev dev' : IfDevice} (listed : dev ∈ devBase.devices)
    (listed' : dev' ∈ devBase.devices) : NamedAs dev dev'.name ↔ dev = dev' := by
  constructor
  · rintro ⟨-, same⟩
    exact (List.inj_on_of_nodup_map devBase.distinct listed' listed same).symm
  · rintro rfl
    exact ⟨dev.name_ne, rfl⟩

/-- The first interface with the address has a name that fits the buffer. -/
def FirstNameFits (devBase : List IfDevice) (ip : UInt32) : Prop :=
  ∀ before dev after, devBase = before ++ dev :: after → InSubnet dev ip →
    (∀ d ∈ before, ¬ InSubnet d ip) → dev.name.length < ifNameSize

/-- No interface before `dev` shares the address with it. -/
def NoEarlierOverlap (devBase : List IfDevice) (dev : IfDevice) (ip : UInt32) : Prop :=
  InSubnet dev ip → ∀ before after, devBase = before ++ dev :: after → ∀ d ∈ before, ¬ InSubnet d ip

/-- The first of both, from the first match. -/
theorem firstNameFits_iff {devBase : List IfDevice} {ip : UInt32} {dev : IfDevice}
    (found : firstMatch devBase ip = some dev) :
    FirstNameFits devBase ip ↔ dev.name.length < ifNameSize := by
  constructor
  · intro fits
    obtain ⟨covers, before, after, split, outside⟩ := firstMatch_iff.mp found
    exact fits before dev after split covers outside
  · intro fits before dev' after split covers outside
    have first := firstMatch_iff.mpr ⟨covers, before, after, split, outside⟩
    rw [found] at first
    cases first
    exact fits

/-- The second of both, from the first match. -/
theorem noEarlierOverlap_iff (devBase : DevBase) {ip : UInt32} {dev first : IfDevice}
    (listed : dev ∈ devBase.devices) (found : firstMatch devBase.devices ip = some first) :
    NoEarlierOverlap devBase.devices dev ip ↔ (InSubnet dev ip → dev = first) := by
  constructor
  · intro apart covers
    obtain ⟨before, after, split⟩ := List.append_of_mem listed
    have match_ :=
      firstMatch_iff.mpr ⟨covers, before, after, split, apart covers before after split⟩
    rw [found] at match_
    cases match_
    rfl
  · intro same covers before after split
    have once : dev ∉ before := by
      have nodup := List.Nodup.of_map _ devBase.distinct
      rw [split] at nodup
      exact fun member => List.disjoint_of_nodup_append nodup member List.mem_cons_self
    rw [split, ← same covers] at found
    exact earlier_outside once found

/-- For a packet that came by an interface other than `lo`, with the time to live used up: the name
fits the buffer, and the packet takes the exit exactly when its source address is in no primary
subnet of its interface, if and only if the first interface that has the address in a subnet has a
name of at most nine characters, and no interface before the packet's own shares the address with
it. -/
theorem icmp_send_spoofed_iff (devBase : DevBase) (skb : IcmpSkb)
    (ttl : skb.ttl = 1 ∨ skb.ttl = 0) (arrived : skb.dev ∈ devBase.devices)
    (notLo : skb.dev.name ≠ loopbackIntName) :
    (∃ path, icmpSend true devBase.devices skb = some path ∧
      (Spoofed path ↔ ¬ InSubnet skb.dev skb.saddr)) ↔
    FirstNameFits devBase.devices skb.saddr ∧
      NoEarlierOverlap devBase.devices skb.dev skb.saddr := by
  rw [icmpSend_eq ttl notLo]
  cases found : firstMatch devBase.devices skb.saddr with
  | none =>
    -- without a match no interface has the address
    have outside : ∀ d ∈ devBase.devices, ¬ InSubnet d skb.saddr := by
      intro d member covers
      exact List.find?_eq_none.mp found d member ((inSubnet_iff _ _).mpr covers)
    apply iff_of_true
    · exact ⟨_, rfl, iff_of_true trivial (outside skb.dev arrived)⟩
    · refine ⟨?_, fun covers => absurd covers (outside skb.dev arrived)⟩
      intro before dev after split covers
      have listed : dev ∈ devBase.devices := by
        rw [split]
        exact List.mem_append_right before List.mem_cons_self
      exact absurd covers (outside dev listed)
  | some dev =>
    have covers := (firstMatch_iff.mp found).1
    have listed : dev ∈ devBase.devices := List.mem_of_find?_eq_some found
    have named := namedAs_iff devBase arrived listed
    rw [firstNameFits_iff found, noEarlierOverlap_iff devBase arrived found]
    simp only
    constructor
    · rintro ⟨path, done, verdict⟩
      by_cases fits : dev.name.length < ifNameSize
      · rw [if_pos fits] at done
        cases done
        have same := not_iff_not.mp ((spoofed_iff _ _).symm.trans verdict)
        exact ⟨fits, fun inside => named.mp (same.mpr inside)⟩
      · rw [if_neg fits] at done
        cases done
    · rintro ⟨fits, same⟩
      rw [if_pos fits]
      refine ⟨_, rfl, (spoofed_iff _ _).trans (not_congr ?_)⟩
      rw [named]
      refine ⟨?_, same⟩
      rintro rfl
      exact covers

/-- An interface with one address. -/
def oneAddress (name : List UInt8) (short : name.length < ifnamsiz) (clean : (0 : UInt8) ∉ name)
    (named : name ≠ []) (address mask : UInt32) : IfDevice where
  name := name
  name_lt := short
  name_clean := clean
  name_ne := named
  inDev := some ⟨[⟨htonl address, htonl mask, false⟩], List.pairwise_singleton _ _⟩

/-- `eth0` with 192.168.1.1/24. -/
def eth0 : IfDevice :=
  oneAddress [0x65, 0x74, 0x68, 0x30] (by decide) (by decide) (by decide)
    0xC0A80101 0xFFFFFF00

/-- `eth1` with 192.168.2.1/16. -/
def eth1 : IfDevice :=
  oneAddress [0x65, 0x74, 0x68, 0x31] (by decide) (by decide) (by decide)
    0xC0A80201 0xFFFF0000

/-- `abcdefghij` with 10.0.0.1/8. -/
def tenLetters : IfDevice :=
  oneAddress [0x61, 0x62, 0x63, 0x64, 0x65, 0x66, 0x67, 0x68, 0x69, 0x6a] (by decide) (by decide)
    (by decide) 0x0A000001 0xFF000000

/-- `eth0` before `eth1`. -/
def twoDevices : DevBase := ⟨[eth0, eth1], by decide⟩

/-- A packet from 192.168.3.9 by `eth1` goes on: `eth1` is the first interface with this address. -/
theorem icmp_send_genuine :
    ∃ path, icmpSend true [eth0, eth1] ⟨eth1, 1, htonl 0xC0A80309, []⟩ = some path ∧
      (Spoofed path ↔ ¬ InSubnet eth1 (htonl 0xC0A80309)) := by
  have listed : eth1 ∈ twoDevices.devices := List.mem_cons_of_mem _ List.mem_cons_self
  have first : firstMatch twoDevices.devices (htonl 0xC0A80309) = some eth1 := rfl
  have fits := (firstNameFits_iff first).mpr (by decide)
  have apart := (noEarlierOverlap_iff twoDevices listed first).mpr fun _ => rfl
  exact (icmp_send_spoofed_iff twoDevices ⟨eth1, 1, htonl 0xC0A80309, []⟩ (.inl rfl) listed
    (by decide)).mpr ⟨fits, apart⟩

/-- A packet from 192.168.1.9 by `eth1`, whose subnet has this address, takes the exit, since the
subnet of `eth0` has it too. A packet from 10.0.0.9 makes the name of ten letters go beyond the
buffer. -/
theorem icmp_send_overlap :
    (icmpSend true twoDevices.devices ⟨eth1, 1, htonl 0xC0A80109, []⟩ = some (.spoofed none) ∧
      InSubnet eth1 (htonl 0xC0A80109)) ∧
    icmpSend true [tenLetters] ⟨tenLetters, 1, htonl 0x0A000009, []⟩ = none := by
  refine ⟨⟨by decide +kernel, (inSubnet_iff _ _).mp (by decide)⟩, by decide +kernel⟩

end Fvs318g.Verif.IcmpSpoof
