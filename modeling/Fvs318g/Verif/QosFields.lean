import Fvs318g.Gsw.Qos
import Mathlib.Data.List.Induction

/-!
# Setting one field

The fields of the quality-of-service registers, the law for a command and what it needs. Each
kind of setter is treated on one field: clearing and setting, adding bits, enabling, and setting
a checked value.
-/

namespace Fvs318g.Verif.Qos

open Lib Gsw

/-! ## Fields -/

/-- The register of a field. -/
def fieldReg : QosField → QosReg
  | .udpPort => .udpPriority
  | .tosPri tosNum => .ipTosPriority ⟨tosNum / 8, tosBank_lt tosNum⟩
  | .q3Weight | .q2Weight | .q1Weight | .q0Weight | .schMode => .schedulerControl
  | _ => .priorityControl

/-- The lowest bit of a field. -/
def fieldShift : QosField → Nat
  | .cpuPri => 18
  | .port1Pri => 15
  | .port0Pri => 12
  | .tosEnable => 9
  | .tosPri tosNum => tosNum.val % 8 * 3
  | .udpPri => 21
  | .udpEnable => 6
  | .udpPort => 0
  | .vlanEnable => 3
  | .regen => 2
  | .trafficClass => 0
  | .q3Weight => 16
  | .q2Weight => 12
  | .q1Weight => 8
  | .q0Weight => 4
  | .schMode => 0

/-- The number of bits of a field. -/
def fieldWidth : QosField → Nat
  | .udpPort => 16
  | .regen => 1
  | .trafficClass | .schMode => 2
  | _ => 3

/-- The values of a field are those below its limit: weights and modes are the enumerations
of the header, and everything else is as large as the field. -/
def fieldLimit : QosField → Nat
  | .q3Weight | .q2Weight | .q1Weight | .q0Weight => 5
  | .schMode => 3
  | f => 2 ^ fieldWidth f

/-- The value of a field after the default command. -/
def fieldDefault : QosField → Word
  | .q3Weight => 3
  | .q2Weight => 2
  | .q1Weight => 1
  | .schMode => 1
  | _ => 0

/-- Bit `i` of register `r` belongs to the field. -/
def Inside (f : QosField) (r : QosReg) (i : Nat) : Prop :=
  fieldReg f = r ∧ fieldShift f ≤ i ∧ i < fieldShift f + fieldWidth f

/-- A field lies inside its register. -/
theorem field_inside (f : QosField) : fieldShift f + fieldWidth f ≤ 32 := by
  cases f with
  | tosPri tosNum =>
    simp only [fieldShift, fieldWidth]
    omega
  | _ => decide

/-- A value of a field fits it. -/
theorem limit_le (f : QosField) : fieldLimit f ≤ 2 ^ fieldWidth f := by
  cases f with
  | tosPri _ => exact Nat.le_refl _
  | _ => decide

/-- No bit belongs to two fields. -/
theorem inside_unique {f g : QosField} {r : QosReg} {i : Nat} (inside : Inside f r i)
    (inside' : Inside g r i) : f = g := by
  have shifts := inside.2
  have shifts' := inside'.2
  have regs := inside.1.trans inside'.1.symm
  clear inside inside'
  cases f with
  | tosPri a =>
    cases g with
    | tosPri b =>
      have banks := congrArg Fin.val (QosReg.ipTosPriority.inj regs)
      simp only [fieldShift, fieldWidth] at banks shifts shifts'
      congr 1
      omega
    | _ => exact absurd regs (by simp [fieldReg])
  | _ =>
    cases g with
    | tosPri b => exact absurd regs (by simp [fieldReg])
    | _ =>
      -- the same field, another register, or other bits of the register
      first
      | rfl
      | exact absurd regs (by decide)
      | (simp only [fieldShift, fieldWidth] at shifts shifts'; omega)

/-- The contents of a field. -/
def stored (regs : QosRegs) (f : QosField) : Word :=
  field (regs (fieldReg f)) (fieldShift f) (fieldWidth f)

/-- The number that is printed for a value: the traffic classes are counted. -/
def shown : QosField → Word → Word
  | .trafficClass, value => (0x1 : Word) <<< value
  | _, value => value

/-- The three lines of a port map show its low bits. -/
theorem shownPorts_eq (map : Word) : shownPorts map = map &&& ones 32 3 := by
  have mask : ones 32 3 = 0x1 ||| 0x2 ||| 0x4 := by decide
  rw [shownPorts, mask]
  apply BitVec.eq_of_getLsbD_eq
  intro i _
  simp only [BitVec.getLsbD_or, BitVec.getLsbD_and, Bool.and_or_distrib_left]

variable {f : QosField}

/-- The printed number is the shown contents of the field, but for the UDP priority. -/
theorem read_stored (regs : QosRegs) (masked : f ≠ .udpPri) :
    starGswQosReadProc regs f = shown f (stored regs f) := by
  cases f with
  | udpPri => exact absurd rfl masked
  | vlanEnable => exact shownPorts_eq _
  | udpEnable => exact shownPorts_eq _
  | tosEnable => exact shownPorts_eq _
  | udpPort => simp only [starGswQosReadProc, shown, stored, fieldReg, fieldShift, field,
      BitVec.ushiftRight_zero]; rfl
  | trafficClass => simp only [starGswQosReadProc, shown, stored, fieldReg, fieldShift, field,
      BitVec.ushiftRight_zero]; rfl
  | schMode => simp only [starGswQosReadProc, shown, stored, fieldReg, fieldShift, field,
      BitVec.ushiftRight_zero]; rfl
  | _ => rfl

/-- The printed UDP priority is that of the field when the rest of the register is clear. -/
theorem read_udpPri_iff (regs : QosRegs) {value : Word} (fits : value.toNat < 2 ^ 3) :
    starGswQosReadProc regs .udpPri = value ↔
      stored regs .udpPri = value ∧ regs .priorityControl >>> 24 = 0#32 :=
  ushiftRight_eq_iff _ 21 fits

/-! ## The law -/

/-- The fields that a command other than the default names, with its values for them. -/
def targets : QosCtl → List (QosField × Word)
  | .portPri cpu port1 port0 =>
    [(.cpuPri, cpu.setWidth 32), (.port1Pri, port1.setWidth 32), (.port0Pri, port0.setWidth 32)]
  | .tosEnable enable => [(.tosEnable, enable.setWidth 32)]
  | .tosPriority tosNum pri =>
    if known : tosNum.toNat < 64 then [(.tosPri ⟨tosNum.toNat, known⟩, pri.setWidth 32)] else []
  | .udpPri priority => [(.udpPri, priority)]
  | .udpPriEn enable => [(.udpEnable, enable.setWidth 32)]
  | .udpDefinedPort port => [(.udpPort, port)]
  | .vlanPri enable => [(.vlanEnable, enable.setWidth 32)]
  | .regenPri enable => [(.regen, enable.setWidth 32)]
  | .trafficClass classes => [(.trafficClass, classes)]
  | .scheduleQWeight q3Weight q2Weight q1Weight q0Weight =>
    [(.q3Weight, q3Weight.setWidth 32), (.q2Weight, q2Weight.setWidth 32),
      (.q1Weight, q1Weight.setWidth 32), (.q0Weight, q0Weight.setWidth 32)]
  | .scheduleMode sch => [(.schMode, sch)]
  | .default => []
  | .unsupported => []

/-- The last values set for the fields, if any. -/
abbrev Last := QosField → Option Word

/-- A value that is one of the field counts as set; another one does not. -/
def recordOne (last : Last) (f : QosField) (value : Word) : Last := fun g =>
  if g = f ∧ value.toNat < fieldLimit f then some value else last g

/-- The last values after one more command. -/
def record (last : Last) : QosCtl → Last
  | .default => fun f => some (fieldDefault f)
  | ctl => (targets ctl).foldl (fun last target => recordOne last target.1 target.2) last

/-- The last values after a sequence of commands. -/
def lastSet (ctls : List QosCtl) : Last := ctls.foldl record fun _ => none

/-- The registers after a sequence of commands. -/
def runQos (regs : QosRegs) (ctls : List QosCtl) : QosRegs :=
  ctls.foldl (fun regs ctl => (starIoctlQos ctl regs).1) regs

/-- No bit outside the named fields changes. -/
def Framed (named : List QosField) (regs regs' : QosRegs) : Prop :=
  ∀ r i, (∀ f ∈ named, ¬ Inside f r i) → (regs' r).getLsbD i = (regs r).getLsbD i

/-- Every field that was set reads back its last value. -/
def ReadsBack (last : Last) (regs : QosRegs) : Prop :=
  ∀ f value, last f = some value → starGswQosReadProc regs f = shown f value

/-- The last values are values of their fields. -/
def Valued (last : Last) : Prop := ∀ f value, last f = some value → value.toNat < fieldLimit f

/-- The law for one command, with the values set before it. -/
structure Lawful (last : Last) (regs : QosRegs) (ctl : QosCtl) : Prop where
  /-- The command changes only the fields it names, unless it is the default command. -/
  framed : ctl ≠ .default → Framed ((targets ctl).map Prod.fst) regs (starIoctlQos ctl regs).1
  /-- All fields read back. -/
  reads : ReadsBack (record last ctl) (starIoctlQos ctl regs).1

/-- What a setter that clears its field and sets an unchecked value needs. A value that does
not fit must not spill and must not change a value set before. -/
def PutAllowed (last : Last) (regs : QosRegs) (f : QosField) (value : Word) : Prop :=
  value.toNat < 2 ^ fieldWidth f ∨
    Covered (regs (fieldReg f)) value (fieldShift f) (fieldWidth f) ∧
      ∀ old, last f = some old → value &&& ones 32 (fieldWidth f) = old

/-- What an enable setter needs: the bits of the field are among those of the value, and a
value that does not fit adds nothing. -/
def EnableAllowed (last : Last) (regs : QosRegs) (f : QosField) (enable : Word) : Prop :=
  enable = 0 ∨
    (enable.toNat < 2 ^ fieldWidth f ∧ stored regs f ||| enable = enable) ∨
    (2 ^ fieldWidth f ≤ enable.toNat ∧
      Covered (regs (fieldReg f)) enable (fieldShift f) (fieldWidth f) ∧
      ∀ old, last f = some old → old ||| (enable &&& ones 32 (fieldWidth f)) = old)

/-- What a command needs, in terms of its values, the registers and the values set before. -/
def Allowed (last : Last) (regs : QosRegs) : QosCtl → Prop
  | .tosEnable enable => EnableAllowed last regs .tosEnable (enable.setWidth 32)
  | .udpPriEn enable => EnableAllowed last regs .udpEnable (enable.setWidth 32)
  | .vlanPri enable => EnableAllowed last regs .vlanEnable (enable.setWidth 32)
  | .tosPriority tosNum pri =>
    ∀ known : tosNum.toNat < 64,
      PutAllowed last regs (.tosPri ⟨tosNum.toNat, known⟩) (pri.setWidth 32)
  | .udpPri priority =>
    PutAllowed last regs .udpPri priority ∧
      (priority.toNat < 8 → regs .priorityControl >>> 24 = 0#32)
  | .regenPri enable => PutAllowed last regs .regen (enable.setWidth 32)
  | .trafficClass classes => PutAllowed last regs .trafficClass classes
  | .udpDefinedPort port =>
    regs .udpPriority >>> 16 = 0#32 ∧
      (port.toNat < 65536 ∨ ∀ old, last .udpPort = some old → port &&& 0xFFFF = old)
  | .scheduleQWeight _ q2Weight q1Weight q0Weight =>
    (q2Weight.toNat ≤ 4 → (regs .schedulerControl).getLsbD 15 = false) ∧
      (q1Weight.toNat ≤ 4 → (regs .schedulerControl).getLsbD 11 = false) ∧
      (q0Weight.toNat ≤ 4 → (regs .schedulerControl).getLsbD 7 = false)
  | .portPri .. | .scheduleMode _ | .default | .unsupported => True

/-! ## One field -/

/-- The fields of the priority register end below bit 24. -/
theorem inside_priority_lt {i : Nat} (inside : Inside f .priorityControl i) : i < 24 := by
  have bound := inside.2.2
  have same := inside.1
  revert bound same
  cases f with
  | tosPri _ => simp [fieldReg]
  | _ => simp [fieldReg, fieldShift, fieldWidth] <;> omega

/-- A field that a framed change does not name is printed as before. -/
theorem read_framed {named : List QosField} {regs regs' : QosRegs}
    (framed : Framed named regs regs') {g : QosField} (other : g ∉ named) :
    starGswQosReadProc regs' g = starGswQosReadProc regs g := by
  have apart : ∀ r i, Inside g r i → ∀ f ∈ named, ¬ Inside f r i := by
    intro r i inside f member inside'
    rw [inside_unique inside' inside] at member
    exact other member
  by_cases unmasked : g = .udpPri
  · subst unmasked
    apply BitVec.eq_of_getLsbD_eq
    intro i _
    show ((regs' .priorityControl) >>> 21).getLsbD i = ((regs .priorityControl) >>> 21).getLsbD i
    rw [BitVec.getLsbD_ushiftRight, BitVec.getLsbD_ushiftRight]
    apply framed
    by_cases low : i < 3
    · exact apart _ _ ⟨rfl, Nat.le_add_right 21 i, Nat.add_lt_add_left low 21⟩
    · intro f _ inside
      have bound := inside_priority_lt inside
      omega
  · rw [read_stored regs' unmasked, read_stored regs unmasked]
    congr 1
    apply field_congr
    intro i from_ below
    exact framed _ i (apart _ i ⟨rfl, from_, below⟩)

/-- A change of one register frames a field of it when it keeps the other bits. -/
theorem framed_update_iff {regs : QosRegs} {word : Word} :
    Framed [f] regs (Function.update regs (fieldReg f) word) ↔
      Keeps (regs (fieldReg f)) word (fieldShift f) (fieldWidth f) := by
  constructor
  · intro framed i outside
    have bit := framed (fieldReg f) i (by
      intro g member inside
      rw [List.mem_singleton.mp member] at inside
      exact outside inside.2)
    rwa [Function.update_self] at bit
  · intro keeps r i outside
    by_cases same : r = fieldReg f
    · subst same
      rw [Function.update_self]
      apply keeps
      intro place
      exact outside f List.mem_cons_self ⟨rfl, place⟩
    · rw [Function.update_of_ne same]

/-- What a change of one field has to do for the law. -/
theorem single_iff {last : Last} {regs : QosRegs} (reads : ReadsBack last regs) (value : Word)
    {word : Word} : (Framed [f] regs (Function.update regs (fieldReg f) word) ∧
        ReadsBack (recordOne last f value) (Function.update regs (fieldReg f) word)) ↔
      Keeps (regs (fieldReg f)) word (fieldShift f) (fieldWidth f) ∧
        ∀ v, recordOne last f value f = some v →
          starGswQosReadProc (Function.update regs (fieldReg f) word) f = shown f v := by
  rw [← framed_update_iff]
  constructor
  · intro good
    exact ⟨good.1, good.2 f⟩
  · intro good
    apply And.intro good.1
    intro g v set
    by_cases same : g = f
    · subst same
      exact good.2 v set
    · rw [recordOne, if_neg (fun both => same both.1)] at set
      rw [read_framed good.1 (by simpa using same)]
      exact reads g v set

/-- The value of the field itself counts when it is one of the field. -/
theorem recordOne_self_of_lt {last : Last} {value : Word} (valid : value.toNat < fieldLimit f) :
    recordOne last f value f = some value :=
  if_pos ⟨rfl, valid⟩

/-- Another value leaves the last ones. -/
theorem recordOne_of_not_lt {last : Last} {value : Word} (invalid : ¬ value.toNat < fieldLimit f) :
    recordOne last f value = last :=
  funext fun _ => if_neg fun both => invalid both.2

/-- Two values of a field that are shown alike are equal. -/
theorem shown_inj {a b : Word} (fits : a.toNat < 2 ^ fieldWidth f)
    (fits' : b.toNat < 2 ^ fieldWidth f) : shown f a = shown f b ↔ a = b := by
  cases f with
  | trafficClass =>
    have small : a.toNat < 4 := fits
    have small' : b.toNat < 4 := fits'
    rw [← BitVec.toNat_inj, ← BitVec.toNat_inj (x := a)]
    simp only [shown, BitVec.shiftLeft_eq', BitVec.toNat_shiftLeft]
    generalize a.toNat = x at *
    generalize b.toNat = y at *
    revert x y
    decide
  | _ => exact Iff.rfl

/-- The mask makes any value fit. -/
theorem and_ones_fits (value : Word) (f : QosField) :
    (value &&& ones 32 (fieldWidth f)).toNat < 2 ^ fieldWidth f := by
  apply Nat.lt_pow_two_of_testBit
  intro i beyond
  show (value &&& ones 32 (fieldWidth f)).getLsbD i = false
  rw [BitVec.getLsbD_and]
  by_cases inside : i < 32
  · rw [getLsbD_ones _ inside, decide_eq_false (by omega), Bool.and_false]
  · rw [BitVec.getLsbD_of_ge _ _ (by omega), Bool.false_and]

/-! ## The kinds of setters -/

section

variable {last : Last} {regs : QosRegs} (valued : Valued last) (reads : ReadsBack last regs)

include valued in
/-- A value set before fits its field. -/
theorem fits_of_last {old : Word} (set : last f = some old) : old.toNat < 2 ^ fieldWidth f :=
  lt_of_lt_of_le (valued f old set) (limit_le f)

include valued reads in
/-- A field that was set holds its last value. -/
theorem stored_of_last (masked : f ≠ .udpPri) {old : Word} (set : last f = some old) :
    stored regs f = old := by
  have printed := reads f old set
  rw [read_stored regs masked] at printed
  have fits : (stored regs f).toNat < 2 ^ fieldWidth f := and_ones_fits _ f
  exact (shown_inj fits (fits_of_last valued set)).mp printed

/-- The contents of a field after a change of its register. -/
theorem stored_update (f : QosField) (word : Word) :
    stored (Function.update regs (fieldReg f) word) f =
      field word (fieldShift f) (fieldWidth f) := by
  rw [stored, Function.update_self]

/-- The contents of a field after a masked write. -/
theorem stored_put (f : QosField) (value : Word) {wide : Nat} (masked : fieldWidth f ≤ wide) :
    stored (Function.update regs (fieldReg f)
        (setBits (regs (fieldReg f)) (ones 32 wide) (fieldShift f) value)) f =
      value &&& ones 32 (fieldWidth f) := by
  rw [stored_update, field_setBits _ _ (field_inside f) masked]

include valued reads in
/-- A setter that clears its field and sets an unchecked value. -/
theorem put_iff (masked : f ≠ .udpPri) (full : fieldLimit f = 2 ^ fieldWidth f) (value : Word)
    {word : Word}
    (put : word = setBits (regs (fieldReg f)) (ones 32 (fieldWidth f)) (fieldShift f) value) :
    (Framed [f] regs (Function.update regs (fieldReg f) word) ∧
        ReadsBack (recordOne last f value) (Function.update regs (fieldReg f) word)) ↔
      PutAllowed last regs f value := by
  subst put
  rw [single_iff reads value, keeps_setBits_iff, read_stored _ masked,
    stored_put f value (Nat.le_refl _), PutAllowed]
  by_cases fits : value.toNat < 2 ^ fieldWidth f
  · rw [recordOne_self_of_lt (by rw [full]; exact fits), and_ones_of_fits fits]
    have alike : ∀ v, some value = some v → shown f value = shown f v := by
      intro v same
      rw [Option.some.inj same]
    exact iff_of_true ⟨covered_of_fits _ _ fits, alike⟩ (Or.inl fits)
  · rw [recordOne_of_not_lt (by rw [full]; exact fits), or_iff_right fits]
    apply and_congr_right
    intro _
    apply forall_congr'
    intro old
    apply imp_congr_right
    intro set
    exact shown_inj (and_ones_fits value f) (fits_of_last valued set)

include valued reads in
/-- The setter of the UDP priority, which is printed with all the bits behind it. -/
theorem put_udpPri_iff (value : Word) :
    (Framed [.udpPri] regs (starIoctlQosUdpPri value regs) ∧
        ReadsBack (recordOne last .udpPri value) (starIoctlQosUdpPri value regs)) ↔
      PutAllowed last regs .udpPri value ∧
        (value.toNat < 8 → regs .priorityControl >>> 24 = 0#32) := by
  have shape : starIoctlQosUdpPri value regs =
      Function.update regs (fieldReg .udpPri)
        (setBits (regs (fieldReg .udpPri)) (ones 32 (fieldWidth .udpPri)) (fieldShift .udpPri)
          value) := rfl
  rw [shape, single_iff reads value, keeps_setBits_iff, PutAllowed]
  -- without a spill the bits behind the field are the old ones
  have behind : Covered (regs (fieldReg .udpPri)) value (fieldShift .udpPri)
      (fieldWidth .udpPri) →
      setBits (regs (fieldReg .udpPri)) (ones 32 (fieldWidth .udpPri)) (fieldShift .udpPri)
        value >>> 24 = regs .priorityControl >>> 24 := by
    intro covered
    apply BitVec.eq_of_getLsbD_eq
    intro i _
    have keeps := (keeps_setBits_iff (regs (fieldReg .udpPri)) _ _ value).mpr covered
    rw [BitVec.getLsbD_ushiftRight, BitVec.getLsbD_ushiftRight]
    apply keeps
    simp only [fieldShift, fieldWidth]
    omega
  have printed : ∀ v : Word, v.toNat < 2 ^ 3 →
      Covered (regs (fieldReg .udpPri)) value (fieldShift .udpPri) (fieldWidth .udpPri) →
      (starGswQosReadProc (Function.update regs (fieldReg .udpPri)
          (setBits (regs (fieldReg .udpPri)) (ones 32 (fieldWidth .udpPri)) (fieldShift .udpPri)
            value)) .udpPri = v ↔
        value &&& ones 32 (fieldWidth .udpPri) = v ∧ regs .priorityControl >>> 24 = 0#32) := by
    intro v fits covered
    rw [read_udpPri_iff _ fits, stored_put .udpPri value (Nat.le_refl _), ← behind covered]
    rfl
  by_cases fits : value.toNat < 2 ^ fieldWidth .udpPri
  · have covered := covered_of_fits (regs (fieldReg .udpPri)) (fieldShift .udpPri) fits
    have small : value.toNat < 8 := fits
    rw [recordOne_self_of_lt fits]
    constructor
    · intro good
      exact ⟨Or.inl fits, fun _ => ((printed value fits covered).mp (good.2 value rfl)).2⟩
    · intro good
      apply And.intro covered
      intro v same
      rw [← Option.some.inj same]
      exact (printed value fits covered).mpr ⟨and_ones_of_fits fits, good.2 small⟩
  · have large : ¬ value.toNat < 8 := fits
    rw [recordOne_of_not_lt fits, or_iff_right fits]
    have vacuous : (value.toNat < 8 → regs .priorityControl >>> 24 = 0#32) ↔ True :=
      iff_true_intro fun small => absurd small large
    rw [vacuous, and_true]
    apply and_congr_right
    intro covered
    apply forall_congr'
    intro old
    apply imp_congr_right
    intro set
    have oldFits : old.toNat < 2 ^ 3 := fits_of_last valued set
    have clear := ((read_udpPri_iff regs oldFits).mp (reads .udpPri old set)).2
    rw [show shown .udpPri old = old from rfl, printed old oldFits covered]
    exact and_iff_left clear

/-- Clearing a field is setting it to zero. -/
theorem and_not_eq_setBits (reg mask : Word) (shift : Nat) :
    reg &&& ~~~(mask <<< shift) = setBits reg mask shift 0 := by
  simp [setBits]

include valued reads in
/-- A setter that adds bits to a field and clears none. -/
theorem add_iff (masked : f ≠ .udpPri) (full : fieldLimit f = 2 ^ fieldWidth f)
    (plain : ∀ v, shown f v = v) (value : Word) :
    (Framed [f] regs (Function.update regs (fieldReg f)
          (regs (fieldReg f) ||| value <<< fieldShift f)) ∧
        ReadsBack (recordOne last f value) (Function.update regs (fieldReg f)
          (regs (fieldReg f) ||| value <<< fieldShift f))) ↔
      (value.toNat < 2 ^ fieldWidth f ∧ stored regs f ||| value = value) ∨
        (2 ^ fieldWidth f ≤ value.toNat ∧
          Covered (regs (fieldReg f)) value (fieldShift f) (fieldWidth f) ∧
          ∀ old, last f = some old → old ||| (value &&& ones 32 (fieldWidth f)) = old) := by
  rw [single_iff reads, keeps_or_iff, read_stored _ masked, stored_update,
    field_or_shiftLeft _ _ (field_inside f), plain]
  simp only [plain]
  by_cases fits : value.toNat < 2 ^ fieldWidth f
  · have small : ¬ 2 ^ fieldWidth f ≤ value.toNat := by omega
    rw [recordOne_self_of_lt (by rw [full]; exact fits), and_ones_of_fits fits]
    simp only [covered_of_fits _ _ fits, fits, small, true_and, false_and, or_false,
      Option.some.injEq, forall_eq', stored]
  · have large : 2 ^ fieldWidth f ≤ value.toNat := by omega
    rw [recordOne_of_not_lt (by rw [full]; exact fits)]
    simp only [fits, large, false_and, false_or, true_and]
    apply and_congr_right
    intro _
    apply forall_congr'
    intro old
    apply imp_congr_right
    intro set
    rw [show field (regs (fieldReg f)) (fieldShift f) (fieldWidth f) = old from
      stored_of_last valued reads masked set]

include valued reads in
/-- An enable setter: `f` is one of the three port maps. -/
theorem enable_iff (map : f = .tosEnable ∨ f = .udpEnable ∨ f = .vlanEnable) (enable : BitVec 8) :
    (Framed [f] regs (setEnable (fieldShift f) enable regs) ∧
        ReadsBack (recordOne last f (enable.setWidth 32))
          (setEnable (fieldShift f) enable regs)) ↔
      EnableAllowed last regs f (enable.setWidth 32) := by
  have masked : f ≠ .udpPri := by rcases map with rfl | rfl | rfl <;> decide
  have place : fieldReg f = .priorityControl := by rcases map with rfl | rfl | rfl <;> rfl
  have three : fieldWidth f = 3 := by rcases map with rfl | rfl | rfl <;> rfl
  have full : fieldLimit f = 2 ^ fieldWidth f := by rcases map with rfl | rfl | rfl <;> rfl
  have plain : ∀ v, shown f v = v := by rcases map with rfl | rfl | rfl <;> exact fun _ => rfl
  by_cases zero : enable = 0
  · subst zero
    have shape : setEnable (fieldShift f) 0 regs = Function.update regs (fieldReg f)
        (setBits (regs (fieldReg f)) (ones 32 (fieldWidth f)) (fieldShift f) 0) := by
      rw [setEnable, if_pos rfl, and_not_eq_setBits, place, three]
      rfl
    rw [shape]
    apply iff_of_true
    · exact (put_iff valued reads masked full 0 rfl).mpr (Or.inl (Nat.two_pow_pos _))
    · exact Or.inl rfl
  · have nonzero : enable.setWidth 32 ≠ 0 := by
      intro same
      apply zero
      have values := congrArg BitVec.toNat same
      have bound := enable.isLt
      apply BitVec.eq_of_toNat_eq
      simpa [Nat.mod_eq_of_lt (show enable.toNat < 4294967296 by omega)] using values
    have shape : setEnable (fieldShift f) enable regs = Function.update regs (fieldReg f)
        (regs (fieldReg f) ||| enable.setWidth 32 <<< fieldShift f) := by
      rw [setEnable, if_neg (fun same => zero same.symm), place]
    rw [shape, add_iff valued reads masked full plain, EnableAllowed, or_iff_right nonzero]

include reads in
/-- The setter of the UDP port, which writes the whole register. -/
theorem udpPort_iff (port : Word) :
    (Framed [.udpPort] regs (starIoctlQosUdpDefinedPort port regs) ∧
        ReadsBack (recordOne last .udpPort port) (starIoctlQosUdpDefinedPort port regs)) ↔
      Allowed last regs (.udpDefinedPort port) := by
  have shape : starIoctlQosUdpDefinedPort port regs =
      Function.update regs (fieldReg .udpPort) (port &&& ones 32 16) := rfl
  have keeps : Keeps (regs (fieldReg .udpPort)) (port &&& ones 32 16) (fieldShift .udpPort)
      (fieldWidth .udpPort) ↔ regs .udpPriority >>> 16 = 0#32 := by
    have beyond : ∀ i, 16 ≤ i → (port &&& ones 32 16).getLsbD i = false :=
      fun i => getLsbD_of_fits (and_ones_fits port .udpPort)
    constructor
    · intro keeps
      apply BitVec.eq_of_getLsbD_eq
      intro i _
      have bit := keeps (16 + i) (by simp only [fieldShift, fieldWidth]; omega)
      rw [beyond _ (by omega)] at bit
      rw [BitVec.getLsbD_ushiftRight, BitVec.getLsbD_zero, bit]
      rfl
    · intro clear i outside
      simp only [fieldShift, fieldWidth] at outside
      have bit := congrArg (fun word => word.getLsbD (i - 16)) clear
      have place : 16 + (i - 16) = i := by omega
      rw [beyond i (by omega)]
      show false = (regs .udpPriority).getLsbD i
      simpa [BitVec.getLsbD_ushiftRight, place] using bit.symm
  have contents : field (port &&& ones 32 16) 0 16 = port &&& ones 32 16 := by
    rw [field, BitVec.ushiftRight_zero]
    exact and_ones_of_fits (and_ones_fits port .udpPort)
  rw [shape, single_iff reads port, keeps, read_stored _ (by decide), stored_update]
  show _ ∧ (∀ v, _ = some v → field (port &&& ones 32 16) 0 16 = v) ↔
    _ ∧ (_ ∨ ∀ old, _ = some old → port &&& ones 32 16 = old)
  rw [contents]
  apply and_congr_right
  intro _
  by_cases fits : port.toNat < 65536
  · have valid : port.toNat < fieldLimit .udpPort := fits
    have narrow : port.toNat < 2 ^ 16 := fits
    rw [recordOne_self_of_lt valid, and_ones_of_fits narrow]
    exact iff_of_true (fun v same => Option.some.inj same) (Or.inl fits)
  · have invalid : ¬ port.toNat < fieldLimit .udpPort := fits
    rw [recordOne_of_not_lt invalid, or_iff_right fits]

/-- A checked setter as a change of one field. -/
def checked (limit mask : Word) (f : QosField) (value : BitVec 8) (regs : QosRegs) : QosRegs :=
  Function.update regs (fieldReg f)
    (setChecked limit mask (fieldShift f) value (regs (fieldReg f)))

/-- A byte keeps its value in a word. -/
theorem toNat_widened (value : BitVec 8) : (value.setWidth 32).toNat = value.toNat := by
  have bound := value.isLt
  rw [BitVec.toNat_setWidth]
  omega

include reads in
/-- A checked setter may clear more than its field; then it needs the rest to be clear. -/
theorem checked_iff (masked : f ≠ .udpPri) {limit : Word} {wide : Nat}
    (bound : limit.toNat + 1 = fieldLimit f) (covers : fieldWidth f ≤ wide)
    (room : fieldShift f + wide ≤ 32) (value : BitVec 8) :
    (Framed [f] regs (checked limit (ones 32 wide) f value regs) ∧
        ReadsBack (recordOne last f (value.setWidth 32))
          (checked limit (ones 32 wide) f value regs)) ↔
      (value.toNat ≤ limit.toNat → ∀ i, fieldShift f + fieldWidth f ≤ i → i < fieldShift f + wide →
        (regs (fieldReg f)).getLsbD i = false) := by
  have check : value.setWidth 32 ≤ limit ↔ value.toNat ≤ limit.toNat := by
    rw [BitVec.le_def, toNat_widened]
  rw [checked, single_iff reads, setChecked]
  by_cases accepted : value.toNat ≤ limit.toNat
  · have valid : (value.setWidth 32).toNat < fieldLimit f := by
      rw [toNat_widened]
      omega
    have fits : (value.setWidth 32).toNat < 2 ^ fieldWidth f := lt_of_lt_of_le valid (limit_le f)
    rw [if_pos (check.mpr accepted), keeps_setBits_wide_iff _ fits room, recordOne_self_of_lt valid,
      read_stored _ masked, stored_put f _ covers, and_ones_of_fits fits]
    have alike : ∀ v, some (value.setWidth 32) = some v →
        shown f (value.setWidth 32) = shown f v := by
      intro v same
      rw [Option.some.inj same]
    simp only [accepted, forall_const, and_iff_left alike]
  · have invalid : ¬ (value.setWidth 32).toNat < fieldLimit f := by
      rw [toNat_widened]
      omega
    rw [if_neg (mt check.mp accepted), recordOne_of_not_lt invalid, Function.update_eq_self]
    exact iff_of_true ⟨fun i _ => rfl, reads f⟩ fun holds => absurd holds accepted

end

end Fvs318g.Verif.Qos
