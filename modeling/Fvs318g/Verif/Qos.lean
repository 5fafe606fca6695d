import Fvs318g.Verif.QosFields

/-!
# Independence of the quality-of-service settings

A command names the fields it sets. The law for a sequence of commands: no command touches
a bit outside the fields it names, and every field reads back the last value set for it.
The setters break it in three ways. The enable setters add bits and do not clear, unchecked
values spill into the neighbouring fields, and some writes clear more bits than the field
has. What each command needs for the law is said exactly, in terms of its values, the
registers before it and the values set before it.
-/

namespace Fvs318g.Verif.Qos

open Lib Gsw

/-! ## Commands with several fields -/

/-- Framed changes one after the other. -/
theorem Framed.trans {named named' : List QosField} {regs regs' regs'' : QosRegs}
    (first : Framed named regs regs') (second : Framed named' regs' regs'') :
    Framed (named ++ named') regs regs'' := by
  intro r i outside
  rw [second r i fun f member => outside f (List.mem_append_right _ member),
    first r i fun f member => outside f (List.mem_append_left _ member)]

/-- Three checked setters on the priority register. -/
theorem portPri_eq (cpu port1 port0 : BitVec 8) (regs : QosRegs) :
    starIoctlQosPortPri cpu port1 port0 regs =
      checked 0x7 (ones 32 3) .port0Pri port0
        (checked 0x7 (ones 32 3) .port1Pri port1 (checked 0x7 (ones 32 3) .cpuPri cpu regs)) := by
  simp only [checked, fieldReg, Function.update_self, Function.update_idem]
  rfl

/-- Four checked setters on the scheduler register, three of them with a wider mask. -/
theorem scheduleQWeight_eq (q3Weight q2Weight q1Weight q0Weight : BitVec 8) (regs : QosRegs) :
    starIoctlQosScheduleQWeight q3Weight q2Weight q1Weight q0Weight regs =
      checked 0x4 (ones 32 4) .q0Weight q0Weight
        (checked 0x4 (ones 32 4) .q1Weight q1Weight
          (checked 0x4 (ones 32 4) .q2Weight q2Weight
            (checked 0x4 (ones 32 3) .q3Weight q3Weight regs))) := by
  simp only [checked, fieldReg, Function.update_self, Function.update_idem]
  rfl

variable {last : Last} {regs : QosRegs}

/-- A port priority is checked against its whole field. -/
theorem checked_portPri (reads : ReadsBack last regs) {f : QosField}
    (port : f = .cpuPri ∨ f = .port1Pri ∨ f = .port0Pri) (value : BitVec 8) :
    Framed [f] regs (checked 0x7 (ones 32 3) f value regs) ∧
      ReadsBack (recordOne last f (value.setWidth 32))
        (checked 0x7 (ones 32 3) f value regs) := by
  have masked : f ≠ .udpPri := by rcases port with rfl | rfl | rfl <;> decide
  have bound : (0x7 : Word).toNat + 1 = fieldLimit f := by
    rcases port with rfl | rfl | rfl <;> rfl
  have three : fieldWidth f = 3 := by rcases port with rfl | rfl | rfl <;> rfl
  apply (checked_iff reads masked bound (by omega) (by have := field_inside f; omega) value).mpr
  intro _ i beyond inside
  omega

/-- A weight written through a mask of four bits needs the fourth bit to be clear. -/
theorem checked_weight_iff (reads : ReadsBack last regs) {f : QosField}
    (weight : f = .q2Weight ∨ f = .q1Weight ∨ f = .q0Weight) (value : BitVec 8) :
    (Framed [f] regs (checked 0x4 (ones 32 4) f value regs) ∧
        ReadsBack (recordOne last f (value.setWidth 32))
          (checked 0x4 (ones 32 4) f value regs)) ↔
      (value.toNat ≤ 4 → (regs .schedulerControl).getLsbD (fieldShift f + 3) = false) := by
  have masked : f ≠ .udpPri := by rcases weight with rfl | rfl | rfl <;> decide
  have bound : (0x4 : Word).toNat + 1 = fieldLimit f := by
    rcases weight with rfl | rfl | rfl <;> rfl
  have three : fieldWidth f = 3 := by rcases weight with rfl | rfl | rfl <;> rfl
  have room : fieldShift f + 4 ≤ 32 := by rcases weight with rfl | rfl | rfl <;> decide
  have place : fieldReg f = .schedulerControl := by rcases weight with rfl | rfl | rfl <;> rfl
  rw [checked_iff reads masked bound (by omega) room value, place, three]
  apply imp_congr_right
  intro _
  constructor
  · intro clear
    exact clear _ (Nat.le_refl _) (by omega)
  · intro clear i beyond inside
    have only : i = fieldShift f + 3 := by omega
    rw [only]
    exact clear

/-- The port priorities need nothing. -/
theorem lawful_portPri (reads : ReadsBack last regs) (cpu port1 port0 : BitVec 8) :
    Lawful last regs (.portPri cpu port1 port0) := by
  have first := checked_portPri reads (Or.inl rfl) cpu
  have second := checked_portPri first.2 (Or.inr (Or.inl rfl)) port1
  have third := checked_portPri second.2 (Or.inr (Or.inr rfl)) port0
  have shape : (starIoctlQos (.portPri cpu port1 port0) regs).1 = _ :=
    portPri_eq cpu port1 port0 regs
  apply Lawful.mk
  · intro _
    rw [shape]
    exact (first.1.trans second.1).trans third.1
  · rw [shape]
    exact third.2

/-- What a weight setter does to a bit outside its mask, and to the top bit of the mask. -/
theorem checked_weight_bit {f : QosField}
    (weight : f = .q2Weight ∨ f = .q1Weight ∨ f = .q0Weight) (value : BitVec 8) (regs : QosRegs) :
    (∀ i, i < fieldShift f ∨ fieldShift f + 4 ≤ i →
      (checked 0x4 (ones 32 4) f value regs .schedulerControl).getLsbD i =
        (regs .schedulerControl).getLsbD i) ∧
    (value.toNat ≤ 4 →
      (checked 0x4 (ones 32 4) f value regs .schedulerControl).getLsbD (fieldShift f + 3) =
        false) := by
  have room : fieldShift f + 4 ≤ 32 := by rcases weight with rfl | rfl | rfl <;> decide
  have place : fieldReg f = .schedulerControl := by rcases weight with rfl | rfl | rfl <;> rfl
  have check : value.setWidth 32 ≤ (0x4 : Word) ↔ value.toNat ≤ 4 := by
    rw [BitVec.le_def, toNat_widened]
    rfl
  rw [checked, place, Function.update_self, setChecked]
  by_cases accepted : value.toNat ≤ 4
  · have fits : (value.setWidth 32).toNat < 2 ^ 3 := by
      rw [toNat_widened]
      omega
    rw [if_pos (check.mpr accepted)]
    constructor
    · intro i outside
      by_cases below : i < fieldShift f
      · exact getLsbD_setBits_below _ _ _ below
      · have beyond : fieldShift f + 4 ≤ i := by omega
        by_cases inside : i < 32
        · rw [getLsbD_setBits_from _ 4 _ inside (by omega), getLsbD_of_fits fits (by omega)]
          simp [beyond]
        · rw [BitVec.getLsbD_of_ge _ _ (by omega), BitVec.getLsbD_of_ge _ _ (by omega)]
    · intro _
      have front : ¬ fieldShift f + 4 ≤ fieldShift f + 3 := by omega
      rw [getLsbD_setBits_from _ 4 _ (by omega) (by omega), getLsbD_of_fits fits (by omega),
        decide_eq_false front]
      rfl
  · rw [if_neg (mt check.mp accepted)]
    exact ⟨fun i _ => rfl, fun holds => absurd holds accepted⟩

/-- The weight of queue 3 is written through a mask of its own width. -/
theorem checked_q3Weight (reads : ReadsBack last regs) (value : BitVec 8) :
    Framed [.q3Weight] regs (checked 0x4 (ones 32 3) .q3Weight value regs) ∧
      ReadsBack (recordOne last .q3Weight (value.setWidth 32))
        (checked 0x4 (ones 32 3) .q3Weight value regs) := by
  have bound : (0x4 : Word).toNat + 1 = fieldLimit .q3Weight := rfl
  apply (checked_iff reads (by decide) bound (Nat.le_refl 3) (by decide) value).mpr
  intro _ i beyond inside
  exact absurd beyond (Nat.not_le.mpr inside)

/-- The weights need the bit behind each rewritten field to be clear. -/
theorem lawful_scheduleQWeight_iff (reads : ReadsBack last regs) (q3 q2 q1 q0 : BitVec 8) :
    Lawful last regs (.scheduleQWeight q3 q2 q1 q0) ↔
      Allowed last regs (.scheduleQWeight q3 q2 q1 q0) := by
  have isQ2 : QosField.q2Weight = .q2Weight ∨ QosField.q2Weight = .q1Weight ∨
      QosField.q2Weight = .q0Weight := Or.inl rfl
  have isQ1 : QosField.q1Weight = .q2Weight ∨ QosField.q1Weight = .q1Weight ∨
      QosField.q1Weight = .q0Weight := Or.inr (Or.inl rfl)
  have isQ0 : QosField.q0Weight = .q2Weight ∨ QosField.q0Weight = .q1Weight ∨
      QosField.q0Weight = .q0Weight := Or.inr (Or.inr rfl)
  have first := checked_q3Weight reads q3
  generalize one : checked 0x4 (ones 32 3) .q3Weight q3 regs = regs1 at first
  have bits2 := checked_weight_bit isQ2 q2 regs1
  generalize two : checked 0x4 (ones 32 4) .q2Weight q2 regs1 = regs2 at bits2
  have bits1 := checked_weight_bit isQ1 q1 regs2
  generalize three : checked 0x4 (ones 32 4) .q1Weight q1 regs2 = regs3 at bits1
  have bits0 := checked_weight_bit isQ0 q0 regs3
  generalize four : checked 0x4 (ones 32 4) .q0Weight q0 regs3 = regs4 at bits0
  have shape : (starIoctlQos (.scheduleQWeight q3 q2 q1 q0) regs).1 = regs4 := by
    rw [← four, ← three, ← two, ← one]
    exact scheduleQWeight_eq q3 q2 q1 q0 regs
  -- bits below 16 are not inside the field of queue 3
  have low : ∀ i, i < 16 →
      (regs1 .schedulerControl).getLsbD i = (regs .schedulerControl).getLsbD i := by
    intro i below
    apply first.1
    intro f member inside
    rw [List.mem_singleton.mp member] at inside
    exact absurd inside.2.1 (Nat.not_le.mpr below)
  have bit15 := (bits0.1 15 (Or.inr (by decide))).trans (bits1.1 15 (Or.inr (by decide)))
  have bit11 := bits0.1 11 (Or.inr (by decide))
  have old11 := (bits2.1 11 (Or.inl (by decide))).trans (low 11 (by decide))
  have old7 := (bits1.1 7 (Or.inl (by decide))).trans
    ((bits2.1 7 (Or.inl (by decide))).trans (low 7 (by decide)))
  constructor
  · intro lawful
    have framed := lawful.framed (by simp)
    rw [shape] at framed
    -- the fourth bits belong to no weight
    have kept : ∀ i, i = 15 ∨ i = 11 ∨ i = 7 →
        (regs4 .schedulerControl).getLsbD i = (regs .schedulerControl).getLsbD i := by
      intro i fourth
      apply framed
      intro f member inside
      have place := inside.2
      simp only [targets, List.map_cons, List.map_nil, List.mem_cons, List.not_mem_nil,
        or_false] at member
      rcases member with rfl | rfl | rfl | rfl <;> simp only [fieldShift, fieldWidth] at place <;>
        omega
    refine ⟨fun accepted => ?_, fun accepted => ?_, fun accepted => ?_⟩
    · rw [← kept 15 (by omega), bit15]
      exact bits2.2 accepted
    · rw [← kept 11 (by omega), bit11]
      exact bits1.2 accepted
    · rw [← kept 7 (by omega)]
      exact bits0.2 accepted
  · intro allowed
    have second := (checked_weight_iff first.2 isQ2 q2).mpr
      fun accepted => (low 15 (by decide)).trans (allowed.1 accepted)
    rw [two] at second
    have third := (checked_weight_iff second.2 isQ1 q1).mpr
      fun accepted => old11.trans (allowed.2.1 accepted)
    rw [three] at third
    have fourth := (checked_weight_iff third.2 isQ0 q0).mpr
      fun accepted => old7.trans (allowed.2.2 accepted)
    rw [four] at fourth
    apply Lawful.mk
    · intro _
      rw [shape]
      exact ((first.1.trans second.1).trans third.1).trans fourth.1
    · rw [shape]
      exact fourth.2

/-! ## All commands -/

/-- The law for a command that names one field. -/
theorem lawful_single {ctl : QosCtl} {f : QosField} {value : Word}
    (named : targets ctl = [(f, value)]) :
    Lawful last regs ctl ↔ Framed [f] regs (starIoctlQos ctl regs).1 ∧
      ReadsBack (recordOne last f value) (starIoctlQos ctl regs).1 := by
  have other : ctl ≠ .default := by
    rintro rfl
    simp [targets] at named
  have recorded : record last ctl = recordOne last f value := by
    have unfolded : record last ctl =
        (targets ctl).foldl (fun last target => recordOne last target.1 target.2) last := by
      cases ctl with
      | default => exact absurd rfl other
      | _ => rfl
    rw [unfolded, named]
    rfl
  have fields : (targets ctl).map Prod.fst = [f] := by rw [named]; rfl
  constructor
  · intro lawful
    rw [← recorded, ← fields]
    exact ⟨lawful.framed other, lawful.reads⟩
  · intro good
    rw [← recorded, ← fields] at good
    exact ⟨fun _ => good.1, good.2⟩

/-- A command that names no field and changes nothing. -/
theorem lawful_nothing (reads : ReadsBack last regs) {ctl : QosCtl}
    (unchanged : (starIoctlQos ctl regs).1 = regs) (recorded : record last ctl = last) :
    Lawful last regs ctl := by
  apply Lawful.mk
  · intro _ r i _
    rw [unchanged]
  · rw [unchanged, recorded]
    exact reads

/-- Every field reads back its default. -/
theorem read_default (f : QosField) :
    starGswQosReadProc starIoctlQosDefault f = shown f (fieldDefault f) := by
  cases f with
  | tosPri tosNum =>
    show ((0 : Word) >>> (tosNum.val % 8 * 3)) &&& 0x7 = 0
    simp
  | _ => decide

/-- The default command sets every field to its default. -/
theorem lawful_default (last : Last) (regs : QosRegs) : Lawful last regs .default := by
  apply Lawful.mk
  · intro other
    exact absurd rfl other
  · intro f value set
    have same : fieldDefault f = value := Option.some.inj set
    rw [← same]
    exact read_default f

/-- The scheduling mode is checked: a mode is a put, anything else changes nothing. -/
theorem lawful_scheduleMode (reads : ReadsBack last regs) (sch : Word) :
    Lawful last regs (.scheduleMode sch) := by
  have check : sch ≤ 2 ↔ sch.toNat < fieldLimit .schMode := by
    rw [BitVec.le_def]
    exact Nat.lt_succ_iff.symm
  rw [lawful_single rfl]
  by_cases mode : sch.toNat < fieldLimit .schMode
  · have fits : sch.toNat < 2 ^ fieldWidth .schMode := lt_of_lt_of_le mode (limit_le .schMode)
    have shape : (starIoctlQos (.scheduleMode sch) regs).1 =
        Function.update regs (fieldReg .schMode)
          (setBits (regs (fieldReg .schMode)) (ones 32 (fieldWidth .schMode))
            (fieldShift .schMode) sch) := if_pos (check.mpr mode)
    rw [shape, single_iff reads, keeps_setBits_iff, read_stored _ (by decide),
      stored_put .schMode sch (Nat.le_refl _), recordOne_self_of_lt mode, and_ones_of_fits fits]
    apply And.intro (covered_of_fits _ _ fits)
    intro v same
    rw [Option.some.inj same]
  · have unchanged : (starIoctlQos (.scheduleMode sch) regs).1 = regs :=
      if_neg (mt check.mp mode)
    rw [unchanged, recordOne_of_not_lt mode]
    exact ⟨fun r i _ => rfl, reads⟩

/-- A command keeps the law exactly when it is allowed. -/
theorem lawful_iff (valued : Valued last) (reads : ReadsBack last regs) (ctl : QosCtl) :
    Lawful last regs ctl ↔ Allowed last regs ctl := by
  cases ctl with
  | portPri cpu port1 port0 => exact iff_true_intro (lawful_portPri reads cpu port1 port0)
  | tosEnable enable =>
    rw [lawful_single rfl]
    exact enable_iff valued reads (Or.inl rfl) enable
  | udpPriEn enable =>
    rw [lawful_single rfl]
    exact enable_iff valued reads (Or.inr (Or.inl rfl)) enable
  | vlanPri enable =>
    rw [lawful_single rfl]
    exact enable_iff valued reads (Or.inr (Or.inr rfl)) enable
  | tosPriority tosNum pri =>
    by_cases known : tosNum.toNat < 64
    · have bank : tosNum.toNat / 8 < 8 := by omega
      have named : targets (.tosPriority tosNum pri) =
          [(.tosPri ⟨tosNum.toNat, known⟩, pri.setWidth 32)] := dif_pos known
      have shape : (starIoctlQos (.tosPriority tosNum pri) regs).1 =
          Function.update regs (fieldReg (.tosPri ⟨tosNum.toNat, known⟩)) _ := dif_pos bank
      have masked : QosField.tosPri ⟨tosNum.toNat, known⟩ ≠ .udpPri := by simp
      rw [lawful_single named, shape]
      apply (put_iff valued reads masked rfl (pri.setWidth 32) rfl).trans
      exact ⟨fun allowed _ => allowed, fun allowed => allowed known⟩
    · have bank : ¬ tosNum.toNat / 8 < 8 := by omega
      have none : targets (.tosPriority tosNum pri) = [] := dif_neg known
      have unchanged : (starIoctlQos (.tosPriority tosNum pri) regs).1 = regs := dif_neg bank
      apply iff_of_true
      · apply lawful_nothing reads unchanged
        show (targets (.tosPriority tosNum pri)).foldl _ last = last
        rw [none]
        rfl
      · exact fun holds => absurd holds known
  | udpPri priority =>
    rw [lawful_single rfl]
    exact put_udpPri_iff valued reads priority
  | udpDefinedPort port =>
    rw [lawful_single rfl]
    exact udpPort_iff reads port
  | regenPri enable =>
    rw [lawful_single rfl]
    exact put_iff valued reads (by decide) rfl _ rfl
  | trafficClass classes =>
    rw [lawful_single rfl]
    exact put_iff valued reads (by decide) rfl _ rfl
  | scheduleQWeight q3 q2 q1 q0 => exact lawful_scheduleQWeight_iff reads q3 q2 q1 q0
  | scheduleMode sch => exact iff_true_intro (lawful_scheduleMode reads sch)
  | default => exact iff_true_intro (lawful_default last regs)
  | unsupported => exact iff_true_intro (lawful_nothing reads rfl rfl)

/-! ## Sequences of commands -/

/-- Recording one value keeps the last values inside their fields. -/
theorem valued_recordOne (valued : Valued last) (f : QosField) (value : Word) :
    Valued (recordOne last f value) := by
  intro g v set
  rw [recordOne] at set
  split at set
  · rename_i both
    rw [← Option.some.inj set, both.1]
    exact both.2
  · exact valued g v set

/-- Recording a command keeps the last values inside their fields. -/
theorem valued_record (valued : Valued last) (ctl : QosCtl) : Valued (record last ctl) := by
  have folded : ∀ (fields : List (QosField × Word)) (last : Last), Valued last →
      Valued (fields.foldl (fun last target => recordOne last target.1 target.2) last) := by
    intro fields
    induction fields with
    | nil => exact fun last valued => valued
    | cons target rest ih => exact fun last valued => ih _ (valued_recordOne valued _ _)
  cases ctl with
  | default =>
    intro f value set
    rw [← Option.some.inj set]
    cases f with
    | tosPri _ => exact Nat.two_pow_pos _
    | _ => decide
  | _ => exact folded _ last valued

/-- The last values of a sequence are values of their fields. -/
theorem valued_lastSet (ctls : List QosCtl) : Valued (lastSet ctls) := by
  induction ctls using List.reverseRecOn with
  | nil =>
    intro f value set
    exact absurd set (Option.some_ne_none value).symm
  | append_singleton done ctl ih =>
    rw [lastSet, List.foldl_append]
    exact valued_record ih ctl

/-- The law for a sequence of commands: each of them changes only what it names, and after
each of them every field that was set reads back its last value. -/
structure SettingsHold (regs : QosRegs) (ctls : List QosCtl) : Prop where
  /-- A command other than the default changes only the fields it names. -/
  framed : ∀ done ctl rest, ctls = done ++ ctl :: rest → ctl ≠ .default →
    Framed ((targets ctl).map Prod.fst) (runQos regs done) (starIoctlQos ctl (runQos regs done)).1
  /-- Every field that was set at least once reads back the last value set for it. -/
  reads : ∀ done rest, ctls = done ++ rest → ReadsBack (lastSet done) (runQos regs done)

/-- After a further command. -/
theorem reads_step_iff (regs : QosRegs) (done : List QosCtl) (ctl : QosCtl) :
    ReadsBack (lastSet (done ++ [ctl])) (runQos regs (done ++ [ctl])) ↔
      ReadsBack (record (lastSet done) ctl) (starIoctlQos ctl (runQos regs done)).1 := by
  rw [lastSet, runQos, List.foldl_append, List.foldl_append]
  rfl

/-- The settings of a sequence are independent and read back exactly when each command is
allowed where it stands. -/
theorem settings_hold_iff (regs : QosRegs) (ctls : List QosCtl) :
    SettingsHold regs ctls ↔
      ∀ done ctl rest, ctls = done ++ ctl :: rest →
        Allowed (lastSet done) (runQos regs done) ctl := by
  constructor
  · intro hold done ctl rest split
    apply (lawful_iff (valued_lastSet done) (hold.reads done _ split) ctl).mp
    apply Lawful.mk
    · exact hold.framed done ctl rest split
    · rw [← reads_step_iff]
      exact hold.reads (done ++ [ctl]) rest (by simp [split])
  · intro allowed
    have reads : ∀ done rest, ctls = done ++ rest →
        ReadsBack (lastSet done) (runQos regs done) := by
      intro done
      induction done using List.reverseRecOn with
      | nil => exact fun _ _ f value set => absurd set (Option.some_ne_none value).symm
      | append_singleton done ctl ih =>
        intro rest split
        have before : ctls = done ++ ctl :: rest := by simp [split]
        rw [reads_step_iff]
        exact ((lawful_iff (valued_lastSet done) (ih _ before) ctl).mpr
          (allowed done ctl rest before)).reads
    apply SettingsHold.mk
    · intro done ctl rest split other
      exact ((lawful_iff (valued_lastSet done) (reads done _ split) ctl).mpr
        (allowed done ctl rest split)).framed other
    · exact reads

/-- TOS priority for port 0 and then for port 1 only: both ports stay enabled, and a value of
8 enables nothing but changes the priority of port 0. -/
theorem settings_run_together :
    starGswQosReadProc (runQos (fun _ => 0) [.tosEnable 1, .tosEnable 2]) .tosEnable = 3 ∧
      lastSet [.tosEnable 1, .tosEnable 2] .tosEnable = some 2 ∧
      starGswQosReadProc (runQos (fun _ => 0) [.portPri 0 0 6, .tosEnable 8]) .port0Pri = 7 ∧
      lastSet [.portPri 0 0 6, .tosEnable 8] .port0Pri = some 6 ∧
      ¬ SettingsHold (fun _ => 0) [.tosEnable 1, .tosEnable 2] := by
  refine ⟨by decide, by decide, by decide, by decide, ?_⟩
  intro hold
  have printed := hold.reads [.tosEnable 1, .tosEnable 2] [] (by simp) .tosEnable 2 (by decide)
  revert printed
  decide

end Fvs318g.Verif.Qos
