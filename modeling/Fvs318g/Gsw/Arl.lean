import Fvs318g.Lib.Bytes

/-!
# The address table of the switch

The ARL table is reached through three control registers. A write packs an entry into two
words and a search packs its key the same way; the switch unpacks both. The table maps a
MAC address and a group id to the age field of the entry, and a search finds an entry when
that field is not zero. The busy bits are left out: every command completes.
-/

namespace Fvs318g.Gsw

open Lib

/-- A MAC address, byte by byte. -/
structure MacAddr where
  /-- First byte. -/
  b0 : UInt8
  /-- Second byte. -/
  b1 : UInt8
  /-- Third byte. -/
  b2 : UInt8
  /-- Fourth byte. -/
  b3 : UInt8
  /-- Fifth byte. -/
  b4 : UInt8
  /-- Sixth byte. -/
  b5 : UInt8
  deriving DecidableEq, Repr

/-- The MAC address that lies at an address. -/
def macAt (m : Memory) (a : Nat) : MacAddr :=
  ⟨m a, m (a + 1), m (a + 2), m (a + 3), m (a + 4), m (a + 5)⟩

/-- `gsw_arl_table_entry_t`. -/
structure GswArlTableEntry where
  /-- Filter bit. -/
  filter : Nat
  /-- The address is a VLAN MAC. -/
  vlanMac : Nat
  /-- Group id. -/
  vlanGid : Nat
  /-- Age; 7 is static and 0 invalid. -/
  ageField : Nat
  /-- Port map. -/
  portMap : Nat
  /-- MAC address. -/
  macAddr : MacAddr

/-- What the switch looks an entry up by. -/
structure ArlKey where
  /-- MAC address. -/
  mac : MacAddr
  /-- Group id, three bits. -/
  gid : Nat
  deriving DecidableEq, Repr

/-- The table: the age field for each key. -/
abbrev ArlTable := ArlKey → Nat

/-- `GSW_ARL_TABLE_ACCESS_CONTROL_1` of a write. -/
def writeControl1 (e : GswArlTableEntry) : Nat :=
  ((e.filter &&& 0x1) <<< 3) ||| ((e.vlanMac &&& 0x1) <<< 4) ||| ((e.vlanGid &&& 0x7) <<< 5) |||
    ((e.ageField &&& 0x7) <<< 8) ||| ((e.portMap &&& 0x7) <<< 11) |||
    (e.macAddr.b0.toNat <<< 16) ||| (e.macAddr.b1.toNat <<< 24)

/-- `GSW_ARL_TABLE_ACCESS_CONTROL_2`, the same for writes and searches. -/
def control2 (mac : MacAddr) : Nat :=
  (mac.b2.toNat <<< 0) ||| (mac.b3.toNat <<< 8) ||| (mac.b4.toNat <<< 16) |||
    (mac.b5.toNat <<< 24)

/-- `GSW_ARL_TABLE_ACCESS_CONTROL_1` of a search. -/
def searchControl1 (mac : MacAddr) (vlanGid : Nat) : Nat :=
  (vlanGid <<< 5) ||| (mac.b0.toNat <<< 16) ||| (mac.b1.toNat <<< 24)

/-- The key as the switch reads it from the control words. -/
def arlKey (control1 control2 : Nat) : ArlKey where
  mac := ⟨UInt8.ofNat (control1 >>> 16), UInt8.ofNat (control1 >>> 24), UInt8.ofNat control2,
    UInt8.ofNat (control2 >>> 8), UInt8.ofNat (control2 >>> 16), UInt8.ofNat (control2 >>> 24)⟩
  gid := (control1 >>> 5) &&& 0x7

/-- The age field as the switch reads it. -/
def arlAge (control1 : Nat) : Nat := (control1 >>> 8) &&& 0x7

/-- `star_gsw_write_arl_table_entry`. -/
def starGswWriteArlTableEntry (table : ArlTable) (e : GswArlTableEntry) : ArlTable := fun key =>
  if key = arlKey (writeControl1 e) (control2 e.macAddr) then arlAge (writeControl1 e)
  else table key

/-- `star_gsw_search_arl_table`. -/
def starGswSearchArlTable (table : ArlTable) (mac : MacAddr) (vlanGid : Nat) : Bool :=
  table (arlKey (searchControl1 mac vlanGid) (control2 mac)) != 0

/-! ## Packing and unpacking -/

/-- The words of a write as sums of fields. -/
theorem writeControl1_eq (e : GswArlTableEntry) :
    writeControl1 e = e.filter % 2 * 2 ^ 3 + e.vlanMac % 2 * 2 ^ 4 + e.vlanGid % 8 * 2 ^ 5 +
      e.ageField % 8 * 2 ^ 8 + e.portMap % 8 * 2 ^ 11 + e.macAddr.b0.toNat * 2 ^ 16 +
      e.macAddr.b1.toNat * 2 ^ 24 := by
  have h0 := e.macAddr.b0.toNat_lt
  have one : ∀ x : Nat, x &&& 0x1 = x % 2 := fun x => and_ones x 1
  have seven : ∀ x : Nat, x &&& 0x7 = x % 8 := fun x => and_ones x 3
  rw [writeControl1, one, one, seven, seven, seven, Nat.shiftLeft_eq]
  -- from the lowest field up, each one lies above the bits in use
  rw [or_shiftLeft (e.vlanMac % 2) (by omega), or_shiftLeft (e.vlanGid % 8) (by omega),
    or_shiftLeft (e.ageField % 8) (by omega), or_shiftLeft (e.portMap % 8) (by omega),
    or_shiftLeft e.macAddr.b0.toNat (by omega), or_shiftLeft e.macAddr.b1.toNat (by omega)]

/-- The second word as a sum of bytes. -/
theorem control2_eq (mac : MacAddr) :
    control2 mac = mac.b2.toNat + mac.b3.toNat * 2 ^ 8 + mac.b4.toNat * 2 ^ 16 +
      mac.b5.toNat * 2 ^ 24 := by
  have h2 := mac.b2.toNat_lt
  have h3 := mac.b3.toNat_lt
  have h4 := mac.b4.toNat_lt
  rw [control2, Nat.shiftLeft_zero, or_shiftLeft mac.b3.toNat (by omega),
    or_shiftLeft mac.b4.toNat (by omega), or_shiftLeft mac.b5.toNat (by omega)]

/-- The first word of a search as a sum of fields. -/
theorem searchControl1_eq (mac : MacAddr) {vlanGid : Nat} (fits : vlanGid < 8) :
    searchControl1 mac vlanGid = vlanGid * 2 ^ 5 + mac.b0.toNat * 2 ^ 16 +
      mac.b1.toNat * 2 ^ 24 := by
  have h0 := mac.b0.toNat_lt
  rw [searchControl1, Nat.shiftLeft_eq, or_shiftLeft mac.b0.toNat (by omega),
    or_shiftLeft mac.b1.toNat (by omega)]

/-- A key is read back from words that carry its fields. -/
theorem arlKey_eq {mac : MacAddr} {gid c1 : Nat} (first : c1 / 2 ^ 16 % 256 = mac.b0.toNat)
    (second : c1 / 2 ^ 24 % 256 = mac.b1.toNat) (group : c1 / 2 ^ 5 % 8 = gid) :
    arlKey c1 (control2 mac) = ⟨mac, gid⟩ := by
  have h2 := mac.b2.toNat_lt
  have h3 := mac.b3.toNat_lt
  have h4 := mac.b4.toNat_lt
  have h5 := mac.b5.toNat_lt
  have seven : ∀ x : Nat, x &&& 0x7 = x % 8 := fun x => and_ones x 3
  rw [arlKey, control2_eq, seven]
  simp only [Nat.shiftRight_eq_div_pow]
  rw [ofNat_toNat_mod mac.b0 first, ofNat_toNat_mod mac.b1 second,
    ofNat_toNat_mod mac.b2 (by omega), ofNat_toNat_mod mac.b3 (by omega),
    ofNat_toNat_mod mac.b4 (by omega), ofNat_toNat_mod mac.b5 (by omega), group]

/-- The key under which the switch keeps a written entry. -/
theorem arlKey_write (e : GswArlTableEntry) :
    arlKey (writeControl1 e) (control2 e.macAddr) = ⟨e.macAddr, e.vlanGid % 8⟩ := by
  have h0 := e.macAddr.b0.toNat_lt
  have h1 := e.macAddr.b1.toNat_lt
  have word := writeControl1_eq e
  exact arlKey_eq (by omega) (by omega) (by omega)

/-- What a write does to the table, in terms of the entry. -/
theorem starGswWriteArlTableEntry_apply (table : ArlTable) (e : GswArlTableEntry)
    (key : ArlKey) : starGswWriteArlTableEntry table e key =
      if key = ⟨e.macAddr, e.vlanGid % 8⟩ then e.ageField % 8 else table key := by
  have h0 := e.macAddr.b0.toNat_lt
  have h1 := e.macAddr.b1.toNat_lt
  have word := writeControl1_eq e
  have unpacked := arlKey_write e
  have age : arlAge (writeControl1 e) = e.ageField % 8 := by
    have seven : ∀ x : Nat, x &&& 0x7 = x % 8 := fun x => and_ones x 3
    rw [arlAge, seven, Nat.shiftRight_eq_div_pow]
    omega
  rw [starGswWriteArlTableEntry, unpacked, age]

/-- A search looks at the key it was asked for. -/
theorem starGswSearchArlTable_eq (table : ArlTable) (mac : MacAddr) {vlanGid : Nat}
    (fits : vlanGid < 8) :
    starGswSearchArlTable table mac vlanGid = (table ⟨mac, vlanGid⟩ != 0) := by
  have h0 := mac.b0.toNat_lt
  have h1 := mac.b1.toNat_lt
  have word := searchControl1_eq mac fits
  have unpacked : arlKey (searchControl1 mac vlanGid) (control2 mac) = ⟨mac, vlanGid⟩ :=
    arlKey_eq (by omega) (by omega) (by omega)
  rw [starGswSearchArlTable, unpacked]

end Fvs318g.Gsw
