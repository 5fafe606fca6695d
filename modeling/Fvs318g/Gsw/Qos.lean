import Fvs318g.Lib.Register
import Mathlib.Logic.Function.Basic

/-!
# Quality-of-service settings of the switch

`star_ioctl_qos` writes fields of eleven registers, one setter for each command of the
control block, and `star_gsw_qos_read_proc` decodes the same registers. The `char` members
of the block are unsigned on this machine; `int` and enumeration members are 32-bit words.
The members of the union that a command does not read are left out of the command.
-/

namespace Fvs318g.Gsw

open Lib

/-- The registers of the switch that hold settings. -/
inductive QosReg where
  /-- `GSW_PRIORITY_CONTROL_REG`. -/
  | priorityControl
  /-- `GSW_UDP_PRIORITY_REG`. -/
  | udpPriority
  /-- `GSW_IP_TOS_0_7_PRIORITY_REG` to `GSW_IP_TOS_56_63_PRIORITY_REG`. -/
  | ipTosPriority (bank : Fin 8)
  /-- `GSW_SCHEDULER_CONTROL_REG`. -/
  | schedulerControl
  deriving DecidableEq, Repr

/-- The contents of the registers. -/
abbrev QosRegs := QosReg → Word

/-- `str9100_qos_ctl`: a command with the members of the union that it reads. -/
inductive QosCtl where
  /-- `STR9100_IOCTL_QOS_PORT_PRI`. -/
  | portPri (cpu port1 port0 : BitVec 8)
  /-- `STR9100_IOCTL_QOS_TOS_ENABLE`. -/
  | tosEnable (enable : BitVec 8)
  /-- `STR9100_IOCTL_QOS_TOS_PRIORITY`. -/
  | tosPriority (tosNum pri : BitVec 8)
  /-- `STR9100_IOCTL_QOS_UDP_PRI`. -/
  | udpPri (priority : Word)
  /-- `STR9100_IOCTL_QOS_UDP_PRI_EN`. -/
  | udpPriEn (enable : BitVec 8)
  /-- `STR9100_IOCTL_QOS_UDP_DEFINED_PORT`. -/
  | udpDefinedPort (port : Word)
  /-- `STR9100_IOCTL_QOS_VLAN_PRI`. -/
  | vlanPri (enable : BitVec 8)
  /-- `STR9100_IOCTL_QOS_REGEN_PRI`. -/
  | regenPri (enable : BitVec 8)
  /-- `STR9100_IOCTL_QOS_TRAFFIC_CLASS`. -/
  | trafficClass (classes : Word)
  /-- `STR9100_IOCTL_QOS_SCHEDULE_Q_WEIGHT`. -/
  | scheduleQWeight (q3Weight q2Weight q1Weight q0Weight : BitVec 8)
  /-- `STR9100_IOCTL_QOS_SCHEDULE_MODE`. -/
  | scheduleMode (sch : Word)
  /-- `STR9100_IOCTL_QOS_DEFAULT`. -/
  | default
  /-- Any other number. -/
  | unsupported
  deriving DecidableEq, Repr

/-! ## The setters -/

/-- `reg &= ~(mask << shift); reg |= (value << shift)` behind a check that the value is at
most `limit`. -/
def setChecked (limit mask : Word) (shift : Nat) (value : BitVec 8) (reg : Word) : Word :=
  if value.setWidth 32 ≤ limit then setBits reg mask shift (value.setWidth 32) else reg

/-- `star_ioctl_qos_port_pri`. -/
def starIoctlQosPortPri (cpu port1 port0 : BitVec 8) (regs : QosRegs) : QosRegs :=
  let reg := regs .priorityControl
  let reg := setChecked 0x7 0x7 18 cpu reg
  let reg := setChecked 0x7 0x7 15 port1 reg
  let reg := setChecked 0x7 0x7 12 port0 reg
  Function.update regs .priorityControl reg

/-- The three enable setters: zero clears the bits, anything else is added to them. -/
def setEnable (shift : Nat) (enable : BitVec 8) (regs : QosRegs) : QosRegs :=
  let reg := regs .priorityControl
  Function.update regs .priorityControl
    (if 0 = enable then reg &&& ~~~((0x7 : Word) <<< shift)
    else reg ||| (enable.setWidth 32 <<< shift))

/-- `star_ioctl_qos_tos_pri_enable`. -/
def starIoctlQosTosPriEnable : BitVec 8 → QosRegs → QosRegs := setEnable 9

/-- `star_ioctl_qos_udp_pri_enable`. -/
def starIoctlQosUdpPriEnable : BitVec 8 → QosRegs → QosRegs := setEnable 6

/-- `star_ioctl_qos_vlan_pri`. -/
def starIoctlQosVlanPri : BitVec 8 → QosRegs → QosRegs := setEnable 3

/-- `star_ioctl_qos_tos_priority`: eight values to a register, nothing beyond the eighth
register. -/
def starIoctlQosTosPriority (tosNum pri : BitVec 8) (regs : QosRegs) : QosRegs :=
  let shift := tosNum.toNat % 8 * 3
  if bank : tosNum.toNat / 8 < 8 then
    let reg : QosReg := .ipTosPriority ⟨tosNum.toNat / 8, bank⟩
    Function.update regs reg (setBits (regs reg) 0x7 shift (pri.setWidth 32))
  else regs

/-- The setters that clear their field and set an unchecked value. -/
def setUnchecked (mask : Word) (shift : Nat) (value : Word) (regs : QosRegs) : QosRegs :=
  Function.update regs .priorityControl (setBits (regs .priorityControl) mask shift value)

/-- `star_ioctl_qos_udp_pri`. -/
def starIoctlQosUdpPri : Word → QosRegs → QosRegs := setUnchecked 0x7 21

/-- `star_ioctl_qos_regen_pri`. -/
def starIoctlQosRegenPri (enable : BitVec 8) : QosRegs → QosRegs :=
  setUnchecked 0x1 2 (enable.setWidth 32)

/-- `star_ioctl_qos_traffic_class`. -/
def starIoctlQosTrafficClass : Word → QosRegs → QosRegs := setUnchecked 0x3 0

/-- `star_ioctl_qos_udp_defined_port`; the register access masks the value. -/
def starIoctlQosUdpDefinedPort (port : Word) (regs : QosRegs) : QosRegs :=
  Function.update regs .udpPriority (port &&& 0xFFFF)

/-- `star_ioctl_qos_schedule_q_weight`. -/
def starIoctlQosScheduleQWeight (q3Weight q2Weight q1Weight q0Weight : BitVec 8)
    (regs : QosRegs) : QosRegs :=
  let reg := regs .schedulerControl
  let reg := setChecked 0x4 0x7 16 q3Weight reg
  let reg := setChecked 0x4 0xf 12 q2Weight reg
  let reg := setChecked 0x4 0xf 8 q1Weight reg
  let reg := setChecked 0x4 0xf 4 q0Weight reg
  Function.update regs .schedulerControl reg

/-- `star_ioctl_qos_schedule_mode`. -/
def starIoctlQosScheduleMode (sch : Word) (regs : QosRegs) : QosRegs :=
  if sch ≤ 2 then
    Function.update regs .schedulerControl (setBits (regs .schedulerControl) 0x3 0 sch)
  else regs

/-- `star_ioctl_qos_default`. -/
def starIoctlQosDefault : QosRegs
  | .priorityControl => 0
  | .udpPriority => 0
  | .ipTosPriority _ => 0
  | .schedulerControl => 0x32101

/-- `star_ioctl_qos`: the registers and the result. -/
def starIoctlQos (ctl : QosCtl) (regs : QosRegs) : QosRegs × Int :=
  match ctl with
  | .portPri cpu port1 port0 => (starIoctlQosPortPri cpu port1 port0 regs, 0)
  | .tosEnable enable => (starIoctlQosTosPriEnable enable regs, 0)
  | .tosPriority tosNum pri => (starIoctlQosTosPriority tosNum pri regs, 0)
  | .udpPri priority => (starIoctlQosUdpPri priority regs, 0)
  | .udpPriEn enable => (starIoctlQosUdpPriEnable enable regs, 0)
  | .udpDefinedPort port => (starIoctlQosUdpDefinedPort port regs, 0)
  | .vlanPri enable => (starIoctlQosVlanPri enable regs, 0)
  | .regenPri enable => (starIoctlQosRegenPri enable regs, 0)
  | .trafficClass classes => (starIoctlQosTrafficClass classes regs, 0)
  | .scheduleQWeight q3Weight q2Weight q1Weight q0Weight =>
    (starIoctlQosScheduleQWeight q3Weight q2Weight q1Weight q0Weight regs, 0)
  | .scheduleMode sch => (starIoctlQosScheduleMode sch regs, 0)
  | .default => (starIoctlQosDefault, 0)
  | .unsupported => (regs, -1)

/-! ## Reading back -/

/-- The fields that the commands set. -/
inductive QosField where
  /-- Priority of the CPU port. -/
  | cpuPri
  /-- Priority of port 1. -/
  | port1Pri
  /-- Priority of port 0. -/
  | port0Pri
  /-- Ports with TOS priority. -/
  | tosEnable
  /-- Priority of one TOS value. -/
  | tosPri (tosNum : Fin 64)
  /-- Priority of the UDP port. -/
  | udpPri
  /-- Ports with UDP priority. -/
  | udpEnable
  /-- The UDP port. -/
  | udpPort
  /-- Ports with VLAN priority. -/
  | vlanEnable
  /-- Regeneration of the user priority. -/
  | regen
  /-- Number of traffic classes. -/
  | trafficClass
  /-- Weight of queue 3. -/
  | q3Weight
  /-- Weight of queue 2. -/
  | q2Weight
  /-- Weight of queue 1. -/
  | q1Weight
  /-- Weight of queue 0. -/
  | q0Weight
  /-- Scheduling mode. -/
  | schMode
  deriving DecidableEq, Repr

/-- The eight registers have the TOS values in groups of eight. -/
theorem tosBank_lt (tosNum : Fin 64) : tosNum.val / 8 < 8 := by omega

/-- The three "Enable" or "Disable" lines of a port map. -/
def shownPorts (map : Word) : Word := (map &&& 0x1) ||| (map &&& 0x2) ||| (map &&& 0x4)

/-- `star_gsw_qos_read_proc`: the number printed for a field. A priority for a TOS value is
read off the register printed for its bank. -/
def starGswQosReadProc (regs : QosRegs) : QosField → Word
  | .port0Pri => (regs .priorityControl >>> 12) &&& 0x7
  | .port1Pri => (regs .priorityControl >>> 15) &&& 0x7
  | .cpuPri => (regs .priorityControl >>> 18) &&& 0x7
  | .vlanEnable => shownPorts (regs .priorityControl >>> 3)
  | .udpPri => regs .priorityControl >>> 21
  | .udpEnable => shownPorts (regs .priorityControl >>> 6)
  | .udpPort => regs .udpPriority &&& 0xFFFF
  | .tosEnable => shownPorts (regs .priorityControl >>> 9)
  | .tosPri tosNum =>
    (regs (.ipTosPriority ⟨tosNum / 8, tosBank_lt tosNum⟩) >>> (tosNum.val % 8 * 3)) &&& 0x7
  | .regen => (regs .priorityControl >>> 2) &&& 0x1
  | .trafficClass => (0x1 : Word) <<< (regs .priorityControl &&& 0x3)
  | .schMode => regs .schedulerControl &&& 0x3
  | .q3Weight => (regs .schedulerControl >>> 16) &&& 0x7
  | .q2Weight => (regs .schedulerControl >>> 12) &&& 0x7
  | .q1Weight => (regs .schedulerControl >>> 8) &&& 0x7
  | .q0Weight => (regs .schedulerControl >>> 4) &&& 0x7

end Fvs318g.Gsw
