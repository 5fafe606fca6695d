import Fvs318g.Lib.Register

/-!
# Polling the WAN transceiver

Once a second `wan_polling` reads the status summary of the transceiver, sets the carrier
flag of the WAN device when the link bit has changed, and calls `get_set_speed`, which reads
the register again and writes speed and duplex to the configuration of port 1. Every read of
the transceiver register is an input.
-/

namespace Fvs318g.Gsw

open Lib

/-- What the polling reads and writes. -/
structure WanState where
  /-- `polling_status`: the status bits of the last run. -/
  pollingStatus : BitVec 16
  /-- The carrier flag of the WAN device. -/
  carrier : Bool
  /-- `GSW_PORT1_CFG_REG`. -/
  port1Cfg : Word
  deriving DecidableEq, Repr

/-- The speed code of a status value. -/
def speedCode (readdata : BitVec 16) : BitVec 16 := (readdata >>> 8) &&& 0x7

/-- `get_set_speed`, with the value that it reads. -/
def getSetSpeed (readdata : BitVec 16) (portConfig : Word) : Word :=
  let cleared := portConfig &&& ~~~((0xf : Word) <<< 7)
  let full := (1 : Word) <<< 10
  match (speedCode readdata).toNat with
  | 0x07 => cleared ||| full ||| ((2 : Word) <<< 8)
  | 0x06 => cleared ||| ((2 : Word) <<< 8)
  | 0x04 | 0x05 => cleared ||| full ||| ((1 : Word) <<< 8)
  | 0x03 => cleared ||| ((1 : Word) <<< 8)
  | 0x02 => cleared ||| full
  | 0x01 => cleared
  | _ => portConfig

/-- The status bits that are compared from run to run. -/
def statusBits (data : BitVec 16) : BitVec 16 :=
  data &&& (((7 : BitVec 16) <<< 8) ||| ((1 : BitVec 16) <<< 2) ||| ((1 : BitVec 16) <<< 15))

/-- The link bit. -/
def linkUp (data : BitVec 16) : Bool := data.getLsbD 2

/-- The auto-negotiation bit. -/
def negotiated (data : BitVec 16) : Bool := data.getLsbD 15

/-- `wan_polling`: `reads.1` is the value that the run reads first, `reads.2` the one that
`get_set_speed` reads when it is called. -/
def wanPolling (s : WanState) (reads : BitVec 16 × BitVec 16) : WanState :=
  let data := statusBits reads.1
  if s.pollingStatus ≠ data then
    let carrier := if linkUp (s.pollingStatus ^^^ data) then linkUp data else s.carrier
    if linkUp (s.pollingStatus ^^^ data) ∧ ¬ linkUp data then
      { s with pollingStatus := data, carrier := carrier }
    else
      { s with
        pollingStatus := data
        carrier := carrier
        port1Cfg := if negotiated data ∧ linkUp data then getSetSpeed reads.2 s.port1Cfg
          else s.port1Cfg }
  else s

/-- The state when the module is loaded, with the carrier flag on. -/
def wanLoaded (port1Cfg : Word) : WanState := ⟨0, true, port1Cfg⟩

end Fvs318g.Gsw
