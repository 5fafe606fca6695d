import Fvs318g.Gsw.Arl
import Fvs318g.Lib.System
import Mathlib.Data.Finset.Card
import Mathlib.Logic.Function.Basic

/-!
# Opening and closing the devices of the switch

`star_gsw_open` copies the stored VLAN address of its device and installs the interrupt
handlers, which all devices share; `star_gsw_close` takes them away. The addresses are
changed by `star_gsw_set_lan_mac_addr` and `star_gsw_set_wan_mac_addr`, which rewrite an
entry of the address table. The model keeps the counter of the handlers, the registrations
of the two interrupt lines and the three places that hold an address of a device. The port
and queue registers that opening and closing also write are left out, and the build option
that takes an address from flash is off.
-/

namespace Fvs318g.Gsw

open Lib

/-- The two devices of the board. -/
inductive GswDev where
  /-- `STAR_GSW_LAN_DEV`. -/
  | lan
  /-- `STAR_GSW_WAN_DEV`. -/
  | wan
  deriving DecidableEq, Repr

/-- `LAN_GID` and `WAN_GID`: the index of the VLAN of a device, which is its group id. -/
def GswDev.gid : GswDev → Nat
  | .lan => 1
  | .wan => 2

/-- `vlan_group` of the VLAN of a device. -/
def GswDev.vlanGroup : GswDev → Nat
  | .lan => 0x5
  | .wan => 0x6

/-- What opening, closing and the address changes read and write. -/
structure GswState where
  /-- `install_isr_account`. -/
  installIsrAccount : Int
  /-- Handlers registered for the receive interrupt. -/
  fsrc : Nat
  /-- Handlers registered for the queue-full interrupt. -/
  fsqf : Nat
  /-- The devices whose open returned 0 and that were not closed since. -/
  opened : Finset GswDev
  /-- `star_gsw_info.vlan[].vlan_mac` of the VLAN of a device. -/
  vlanMac : GswDev → MacAddr
  /-- `dev->dev_addr`. -/
  devAddr : GswDev → MacAddr
  /-- The address table of the switch. -/
  arl : ArlTable

/-! ## Interrupt handlers -/

/-- `star_gsw_install_isr`, with the answers of `request_irq`. The receive line is shared and
takes any number of handlers; the queue-full line is not, and a second request fails. -/
def starGswInstallIsr (fsrcGranted fsqfGranted : Bool) (s : GswState) : GswState × Int :=
  if s.installIsrAccount = 0 then
    if fsrcGranted then
      if fsqfGranted ∧ s.fsqf = 0 then
        ({ s with
          fsrc := s.fsrc + 1
          fsqf := 1
          installIsrAccount := s.installIsrAccount + 1 }, 0)
      else ({ s with fsrc := s.fsrc + 1 }, 2)
    else (s, 1)
  else ({ s with installIsrAccount := s.installIsrAccount + 1 }, 0)

/-- `star_gsw_uninstall_isr`; `free_irq` removes one handler. -/
def starGswUninstallIsr (s : GswState) : GswState :=
  let account := s.installIsrAccount - 1
  if account = 0 then
    { s with
      installIsrAccount := account
      fsrc := s.fsrc - 1
      fsqf := s.fsqf - 1 }
  else { s with installIsrAccount := account }

/-- The address part of `OPEN_PORT`. -/
def openPort (dev : GswDev) (s : GswState) : GswState :=
  { s with devAddr := Function.update s.devAddr dev (s.vlanMac dev) }

/-- `star_gsw_open`: the result of the installer is not looked at. -/
def starGswOpen (dev : GswDev) (fsrcGranted fsqfGranted : Bool) (s : GswState) : GswState × Int :=
  ((starGswInstallIsr fsrcGranted fsqfGranted (openPort dev s)).1, 0)

/-- `star_gsw_close`. -/
def starGswClose (s : GswState) : GswState × Int := (starGswUninstallIsr s, 0)

/-! ## Addresses -/

/-- A write to the address table that completes, or one that times out and is lost. -/
def writeArl (completes : Bool) (table : ArlTable) (e : GswArlTableEntry) : ArlTable × Int :=
  if completes then (starGswWriteArlTableEntry table e, 1) else (table, 0)

/-- The entry for the address of a VLAN. -/
def myMacEntry (gid group age : Nat) (mac : MacAddr) : GswArlTableEntry where
  filter := 0
  vlanMac := 1
  vlanGid := gid
  ageField := age
  portMap := group
  macAddr := mac

/-- `star_gsw_config_cpu_port`, as far as it fills the table: an entry for each of the VLANs 0
to 3. A write that times out ends the initialisation. -/
def starGswConfigCpuPort (mac0 mac1 mac2 mac3 : MacAddr) : ArlTable :=
  let table := (writeArl true (fun _ => 0) (myMacEntry 0 0x7 0x7 mac0)).1
  let table := (writeArl true table (myMacEntry 1 0x5 0x7 mac1)).1
  let table := (writeArl true table (myMacEntry 2 0x6 0x7 mac2)).1
  (writeArl true table (myMacEntry 3 0x0 0x7 mac3)).1

/-- `star_gsw_set_mac_addr`: erase the old entry, store the address, write the new entry. The
results of the two writes are not looked at. -/
def starGswSetMacAddr (dev : GswDev) (mac : MacAddr) (erased written : Bool) (s : GswState) :
    GswState :=
  let table := (writeArl erased s.arl (myMacEntry dev.gid dev.vlanGroup 0x0 (s.vlanMac dev))).1
  let vlanMac := Function.update s.vlanMac dev mac
  { s with
    vlanMac := vlanMac
    arl := (writeArl written table (myMacEntry dev.gid dev.vlanGroup 0x7 (vlanMac dev))).1 }

/-- `star_gsw_set_lan_mac_addr` and `star_gsw_set_wan_mac_addr`. -/
def starGswSetDevMacAddr (dev : GswDev) (mac : MacAddr) (erased written : Bool)
    (s : GswState) : GswState × Int :=
  (starGswSetMacAddr dev mac erased written s, 0)

/-! ## Sequences of calls -/

/-- A call, with the answers it gets. -/
inductive GswCall where
  /-- Open a device. -/
  | opening (dev : GswDev) (fsrcGranted fsqfGranted : Bool)
  /-- Close a device. -/
  | closing (dev : GswDev)
  /-- Change the address of a device. -/
  | setMac (dev : GswDev) (mac : MacAddr) (erased written : Bool)
  deriving DecidableEq, Repr

/-- One call with its result. A device is closed only after an open of it returned 0. -/
def gswCall (s : GswState) : GswCall → Option (GswState × Int)
  | .opening dev fsrcGranted fsqfGranted =>
    let answer := starGswOpen dev fsrcGranted fsqfGranted s
    let opened := if answer.2 = 0 then insert dev s.opened else s.opened
    some ({ answer.1 with opened := opened }, answer.2)
  | .closing dev =>
    if dev ∈ s.opened then
      let answer := starGswClose s
      some ({ answer.1 with opened := s.opened.erase dev }, answer.2)
    else none
  | .setMac dev mac erased written => some (starGswSetDevMacAddr dev mac erased written s)

/-- The driver after its initialisation, with any addresses for the four VLANs. -/
structure GswState.Fresh (s : GswState) : Prop where
  /-- No handler was counted. -/
  account : s.installIsrAccount = 0
  /-- No handler is registered for the receive interrupt. -/
  fsrc : s.fsrc = 0
  /-- No handler is registered for the queue-full interrupt. -/
  fsqf : s.fsqf = 0
  /-- No device is open. -/
  opened : s.opened = ∅
  /-- The table holds the addresses of the VLANs. -/
  arl : ∃ mac0 mac3, s.arl = starGswConfigCpuPort mac0 (s.vlanMac .lan) (s.vlanMac .wan) mac3

/-- The driver under sequences of calls. -/
def gswSystem : System GswState GswCall where
  init := GswState.Fresh
  step s call := (gswCall s call).map Prod.fst

end Fvs318g.Gsw
