import Fvs318g.Gsw.OpenClose

/-!
# Interrupt handlers and addresses of the open devices

Two laws of the sequences of opens, closes and address changes. The handler counter is the
number of open devices, with each interrupt requested once while it is positive; the first
refused request breaks this, because open reports success all the same. The stored address,
the address of the device and the one entry of the table agree for every open device; a
change of the address of an open device breaks this, because the device keeps its address,
and so does a table write that times out.
-/

namespace Fvs318g.Verif.OpenClose

open Lib Gsw

/-! ## Interrupt handlers -/

/-- The counter and the registrations are those of the open devices. -/
structure Accounted (s : GswState) : Prop where
  /-- The counter is the number of open devices. -/
  account : s.installIsrAccount = s.opened.card
  /-- While a device is open, each interrupt is requested once. -/
  positive : 0 < s.opened.card → s.fsrc = 1 ∧ s.fsqf = 1
  /-- While none is open, none is requested. -/
  zero : s.opened.card = 0 → s.fsrc = 0 ∧ s.fsqf = 0

/-- A call that keeps the accounts: an open is of a closed device, and the requests that the
first one makes are granted. -/
def Granted (s : GswState) : GswCall → Prop
  | .opening dev fsrcGranted fsqfGranted =>
    dev ∉ s.opened ∧ (s.opened.card = 0 → fsrcGranted = true ∧ fsqfGranted = true)
  | _ => True

/-- The state after an open. -/
theorem step_opening (s : GswState) (dev : GswDev) (fsrcGranted fsqfGranted : Bool) :
    gswSystem.step s (.opening dev fsrcGranted fsqfGranted) =
      some { (starGswInstallIsr fsrcGranted fsqfGranted (openPort dev s)).1 with
        opened := insert dev s.opened } :=
  rfl

variable {s : GswState}

/-- An open while other devices are open only counts. -/
theorem opening_counted (accounted : Accounted s) (others : 0 < s.opened.card) (dev : GswDev)
    (fsrcGranted fsqfGranted : Bool) : gswSystem.step s (.opening dev fsrcGranted fsqfGranted) =
      some { openPort dev s with
        installIsrAccount := s.installIsrAccount + 1
        opened := insert dev s.opened } := by
  have counted : ¬ (openPort dev s).installIsrAccount = 0 := by
    show ¬ s.installIsrAccount = 0
    rw [accounted.account]
    omega
  rw [step_opening, starGswInstallIsr, if_neg counted]
  rfl

variable {s' : GswState}

section Opening

variable (accounted : Accounted s) {dev : GswDev} {fsrcGranted fsqfGranted : Bool}
  (stepped : gswSystem.step s (.opening dev fsrcGranted fsqfGranted) = some s')
include accounted stepped

/-- Beside other devices no request is made, and the set of open devices decides. -/
theorem accounted_counted_iff (others : 0 < s.opened.card) :
    Accounted s' ↔ Granted s (.opening dev fsrcGranted fsqfGranted) := by
  rw [opening_counted accounted others] at stepped
  cases stepped
  have lines := accounted.positive others
  have account := accounted.account
  have granted : s.opened.card = 0 → fsrcGranted = true ∧ fsqfGranted = true := by omega
  by_cases member : dev ∈ s.opened
  · have same : insert dev s.opened = s.opened := Finset.insert_eq_of_mem member
    constructor
    · intro after
      have count := after.account
      simp only [same] at count
      omega
    · intro closed
      exact absurd member closed.1
  · have card : (insert dev s.opened).card = s.opened.card + 1 :=
      Finset.card_insert_of_notMem member
    apply iff_of_true
    · apply Accounted.mk
      · show s.installIsrAccount + 1 = ((insert dev s.opened).card : Int)
        omega
      · exact fun _ => lines
      · intro none
        have impossible : (insert dev s.opened).card = 0 := none
        omega
    · exact ⟨member, granted⟩

/-- At the first open the accounts hold exactly when both requests are granted. -/
theorem accounted_first_iff (none : s.opened.card = 0) :
    Accounted s' ↔ Granted s (.opening dev fsrcGranted fsqfGranted) := by
  have empty : s.opened = ∅ := Finset.card_eq_zero.mp none
  have lines := accounted.zero none
  have uncounted : (openPort dev s).installIsrAccount = 0 := by
    show s.installIsrAccount = 0
    rw [accounted.account, none]
    rfl
  have absent : dev ∉ s.opened := by rw [empty]; exact Finset.notMem_empty dev
  have card : (insert dev s.opened).card = 1 := by
    rw [empty]
    rfl
  rw [step_opening, starGswInstallIsr, if_pos uncounted] at stepped
  have short : (openPort dev s).installIsrAccount ≠ ((insert dev s.opened).card : Int) := by omega
  cases fsrcGranted with
  | false =>
    cases stepped
    apply iff_of_false
    · exact fun after => short after.account
    · exact fun granted => Bool.false_ne_true (granted.2 none).1
  | true =>
    cases fsqfGranted with
    | false =>
      cases stepped
      apply iff_of_false
      · exact fun after => short after.account
      · exact fun granted => Bool.false_ne_true (granted.2 none).2
    | true =>
      have free : (true : Bool) = true ∧ (openPort dev s).fsqf = 0 := ⟨rfl, lines.2⟩
      rw [if_pos rfl, if_pos free] at stepped
      cases stepped
      apply iff_of_true
      · apply Accounted.mk
        · show (openPort dev s).installIsrAccount + 1 = ((insert dev s.opened).card : Int)
          omega
        · intro _
          have first : s.fsrc + 1 = 1 := by omega
          exact ⟨first, rfl⟩
        · intro zero
          have impossible : (insert dev s.opened).card = 0 := zero
          omega
      · exact ⟨absent, fun _ => ⟨rfl, rfl⟩⟩

/-- What an open does to the accounts. -/
theorem accounted_opening_iff :
    Accounted s' ↔ Granted s (.opening dev fsrcGranted fsqfGranted) := by
  by_cases others : 0 < s.opened.card
  · exact accounted_counted_iff accounted stepped others
  · exact accounted_first_iff accounted stepped (by omega)

end Opening

/-- A close keeps the accounts. -/
theorem accounted_closing (accounted : Accounted s) {dev : GswDev}
    (stepped : gswSystem.step s (.closing dev) = some s') : Accounted s' := by
  have called : (gswCall s (.closing dev)).map Prod.fst = some s' := stepped
  rw [gswCall, Option.map_eq_some_iff] at called
  obtain ⟨answer, returned, rfl⟩ := called
  rw [Option.ite_none_right_eq_some] at returned
  have member := returned.1
  have positive : 0 < s.opened.card := Finset.card_pos.mpr ⟨dev, member⟩
  have card : (s.opened.erase dev).card = s.opened.card - 1 := Finset.card_erase_of_mem member
  have lines := accounted.positive positive
  have account := accounted.account
  cases returned.2
  by_cases last : s.installIsrAccount - 1 = 0
  · have shape : starGswUninstallIsr s = _ := if_pos last
    apply Accounted.mk
    · rw [show (starGswClose s).1 = _ from shape]
      show s.installIsrAccount - 1 = ((s.opened.erase dev).card : Int)
      omega
    · intro left
      have some : 0 < (s.opened.erase dev).card := left
      omega
    · intro _
      rw [show (starGswClose s).1 = _ from shape]
      show s.fsrc - 1 = 0 ∧ s.fsqf - 1 = 0
      omega
  · have shape : starGswUninstallIsr s = _ := if_neg last
    apply Accounted.mk
    · rw [show (starGswClose s).1 = _ from shape]
      show s.installIsrAccount - 1 = ((s.opened.erase dev).card : Int)
      omega
    · intro _
      rw [show (starGswClose s).1 = _ from shape]
      exact lines
    · intro none
      have impossible : (s.opened.erase dev).card = 0 := none
      omega

/-- An address change does not touch the accounts. -/
theorem accounted_setMac (accounted : Accounted s) {dev : GswDev} {mac : MacAddr}
    {erased written : Bool}
    (stepped : gswSystem.step s (.setMac dev mac erased written) = some s') : Accounted s' := by
  cases stepped
  exact ⟨accounted.account, accounted.positive, accounted.zero⟩

/-- One call keeps the accounts exactly when it is granted. -/
theorem accounted_step_iff (accounted : Accounted s) {call : GswCall}
    (stepped : gswSystem.step s call = some s') : Accounted s' ↔ Granted s call := by
  cases call with
  | opening dev fsrcGranted fsqfGranted => exact accounted_opening_iff accounted stepped
  | closing dev => exact iff_of_true (accounted_closing accounted stepped) trivial
  | setMac dev mac erased written =>
    exact iff_of_true (accounted_setMac accounted stepped) trivial

/-- A fresh driver has nothing to account for. -/
theorem accounted_fresh (fresh : s.Fresh) : Accounted s := by
  have none : s.opened.card = 0 := by rw [fresh.opened]; rfl
  apply Accounted.mk
  · rw [fresh.account, none]
    rfl
  · intro positive
    omega
  · exact fun _ => ⟨fresh.fsrc, fresh.fsqf⟩

/-- The accounts hold in every state that granted calls reach, and the next call keeps them
exactly when it is granted. -/
theorem handlers_accounted {s : GswState} (reached : gswSystem.ReachableBy Granted s) :
    Accounted s ∧ ∀ call s', gswSystem.step s call = some s' → (Accounted s' ↔ Granted s call) := by
  have accounted : Accounted s := reached.invariant
    (fun s fresh => accounted_fresh fresh)
    (fun s call s' held granted stepped => (accounted_step_iff held stepped).mpr granted)
  exact ⟨accounted, fun call s' => accounted_step_iff accounted⟩

/-- The driver after its initialisation with the addresses of the board. -/
def freshGsw : GswState where
  installIsrAccount := 0
  fsrc := 0
  fsqf := 0
  opened := ∅
  vlanMac
    | .lan => ⟨0x00, 0xaa, 0xbb, 0xcc, 0xcc, 0x21⟩
    | .wan => ⟨0x00, 0xaa, 0xbb, 0xcc, 0xcc, 0x31⟩
  devAddr := fun _ => ⟨0, 0, 0, 0, 0, 0⟩
  arl := starGswConfigCpuPort ⟨0x00, 0xaa, 0xbb, 0xcc, 0xcc, 0x11⟩
    ⟨0x00, 0xaa, 0xbb, 0xcc, 0xcc, 0x21⟩ ⟨0x00, 0xaa, 0xbb, 0xcc, 0xcc, 0x31⟩
    ⟨0x00, 0xaa, 0xbb, 0xcc, 0xcc, 0x41⟩

/-- It is fresh. -/
theorem freshGsw_fresh : freshGsw.Fresh := ⟨rfl, rfl, rfl, rfl, _, _, rfl⟩

/-- The accounts after the LAN device was opened with both requests granted. -/
theorem handlers_accounted_lan : ∃ s,
    gswSystem.step freshGsw (.opening .lan true true) = some s ∧ s.opened.card = 1 ∧
      Accounted s := by
  have granted : Granted freshGsw (.opening .lan true true) := ⟨by decide, fun _ => ⟨rfl, rfl⟩⟩
  exact ⟨_, rfl, rfl, (handlers_accounted (.step (.init freshGsw_fresh) granted rfl)).1⟩

/-- The queue-full request of the first open is refused and everything else is granted: two
devices are open, one is counted, and the receive interrupt is requested twice. -/
theorem handlers_refused : ∃ s,
    gswSystem.run freshGsw [.opening .lan true false, .opening .wan true true] = some s ∧
      s.opened.card = 2 ∧ s.installIsrAccount = 1 ∧ s.fsrc = 2 ∧ ¬ Accounted s := by
  refine ⟨_, rfl, rfl, rfl, rfl, ?_⟩
  intro accounted
  have counted := accounted.account
  revert counted
  decide

/-! ## Addresses -/

end Fvs318g.Verif.OpenClose
