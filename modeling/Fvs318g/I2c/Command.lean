import Fvs318g.Arch.Timer
import Fvs318g.Lib.Register

/-!
# I2C commands

The four commands fill in a transfer, start it with `Hal_I2c_Dispatch_Transfer`, sleep until the
interrupt handler wakes them, and return the error that the handler has stored. Everything that is
not decided by the driver is part of a bus run: what the registers show at each poll, when the
controller reports and with which status, when a signal comes, and how long the caller waits for
the processor after it was woken up. A transfer that is not started is not reported. The commands
clear the interrupt status first; what it shows at the polls is left open all the same.

A report between the start of the transfer and the sleep finds nobody to wake up.
-/

namespace Fvs318g.I2c

open Kernel Lib

/-- `I2C_BUS_ERROR_FLAG`. -/
def busErrorFlag : Word := 0x1

/-- `I2C_ACTION_DONE_FLAG`. -/
def actionDoneFlag : Word := 0x2

/-- `TWI_TIMEOUT`, in jiffies. -/
def twiTimeout : Nat := 2 * hz

/-- When the controller reports. -/
inductive Moment where
  /-- Behind the start of the transfer, before the caller sleeps. -/
  | beforeSleep
  /-- So many jiffies after the caller has fallen asleep. -/
  | asleep (jiffies : Nat)
  deriving DecidableEq, Repr

/-- An interrupt of the controller. -/
structure Report where
  /-- Its moment. -/
  moment : Moment
  /-- `I2C_INTERRUPT_STATUS_REG` at that moment. -/
  status : Word
  deriving DecidableEq, Repr

/-- What the bus and the system do during a command. -/
structure BusRun where
  /-- `I2C_CONTROLLER_REG` at each poll. -/
  controllerAt : Nat → Word
  /-- `I2C_INTERRUPT_STATUS_REG` at each poll. -/
  statusAt : Nat → Word
  /-- `I2C_CONTROLLER_REG` when the transfer is configured. -/
  controller : Word
  /-- The report of the transfer, if it is started. -/
  report : Option Report
  /-- The jiffies from falling asleep to a signal; 0 for one that was there before. -/
  signal : Option Nat
  /-- The jiffies from the wake-up to the caller's next step. -/
  delay : Nat
  /-- `I2C_READ_DATA_REG` behind the sleep. -/
  readData : Word

/-- `i2c_transfer_t`. -/
structure I2cTransfer where
  /-- `transfer_cmd`. -/
  transferCmd : Word
  /-- `write_data_len`. -/
  writeDataLen : Word
  /-- `read_data_len`. -/
  readDataLen : Word
  /-- `write_data`. -/
  writeData : Word
  /-- `slave_addr`. -/
  slaveAddr : Word
  /-- `action_done`. -/
  actionDone : Word
  /-- `error_status`. -/
  errorStatus : Word
  deriving DecidableEq, Repr

/-- The registers that start a transfer. -/
structure Registers where
  /-- `I2C_CONTROLLER_REG`. -/
  controller : Word
  /-- `I2C_WRITE_DATA_REG`. -/
  writeData : Word
  /-- `I2C_SLAVE_ADDRESS_REG`. -/
  slaveAddress : Word
  deriving DecidableEq, Repr

/-! ## Starting a transfer -/

/-- `Hal_I2c_Is_Bus_Idle`. -/
def halI2cIsBusIdle (controller : Word) : Bool := controller &&& (0x1 <<< 6) = 0

/-- `Hal_I2c_Is_Action_Done`. -/
def halI2cIsActionDone (status : Word) : Bool := status &&& actionDoneFlag ≠ 0

/-- The bus is idle or the previous action is done at a poll. -/
def BusRun.readyAt (bus : BusRun) (k : Nat) : Bool :=
  halI2cIsBusIdle (bus.controllerAt k) || halI2cIsActionDone (bus.statusAt k)

/-- The wait loop of `Hal_I2c_Dispatch_Transfer` at poll `k`: `retries` behind it, and whether a
poll has found the bus ready. The last round decrements `retries` below zero. -/
def pollLoop (bus : BusRun) : Nat → Nat → Int × Bool
  | 0, k => if bus.readyAt k then (0, true) else (-1, false)
  | retries + 1, k =>
    if bus.readyAt k then (((retries + 1 : Nat) : Int), true) else pollLoop bus retries (k + 1)

/-- The initial value of `retries`. -/
def dispatchRetries : Nat := 2000

/-- `Hal_I2c_Dispatch_Transfer`: the registers with which the transfer is started, unless it gives
up. -/
def halI2cDispatchTransfer (bus : BusRun) (t : I2cTransfer) : Option Registers :=
  if (pollLoop bus dispatchRetries 0).1 = 0 then none
  else
    let control := ((t.transferCmd &&& 0x3) <<< 4) ||| ((t.writeDataLen &&& 0x3) <<< 2) |||
      ((t.readDataLen &&& 0x3) <<< 0)
    let controller := bus.controller &&& ~~~ (0x3F : Word)
    let controller := controller ||| ((control &&& 0x3F) ||| ((0x1 : Word) <<< 31))
    some
      { controller := controller ||| (0x1 <<< 6)
        writeData := t.writeData
        slaveAddress := t.slaveAddr &&& 0xFE }

/-! ## The interrupt and the sleep -/

/-- The error code of a status. -/
def errorCode (status : Word) : Word :=
  if status &&& busErrorFlag ≠ 0 then (status >>> 8) &&& 0xFF else 0

/-- An error code that counts as an error. -/
def isError (errorStatus : Word) : Bool := errorStatus ≠ 0 ∧ errorStatus ≠ 0xFF

/-- `str8100_i2c_int`, without the wake-up. -/
def str8100I2cInt (interruptStatus : Word) (t : I2cTransfer) (regs : Registers) :
    I2cTransfer × Registers :=
  let t := { t with
    actionDone := if interruptStatus &&& actionDoneFlag ≠ 0 then 1 else 0
    errorStatus := errorCode interruptStatus }
  if isError t.errorStatus then
    (t, { regs with controller := regs.controller &&& ~~~ ((0x1 : Word) <<< 31) })
  else (t, regs)

/-- When the handler wakes up a caller that sleeps. -/
def Report.wakes (r : Report) : Option Nat :=
  match r.moment with
  | .beforeSleep => none
  | .asleep jiffies => some jiffies

/-- The report has come by a time. -/
def Report.cameBy (r : Report) (time : Nat) : Bool :=
  match r.moment with
  | .beforeSleep => true
  | .asleep jiffies => jiffies ≤ time

/-- The report of a transfer, if it is started. -/
def BusRun.reportOf (bus : BusRun) (started : Bool) : Option Report :=
  if started then bus.report else none

/-- The jiffies from falling asleep to the caller's next step: it is woken up by the handler, by a
signal or by the timer. -/
def BusRun.resumed (bus : BusRun) (started : Bool) : Nat :=
  min (((bus.reportOf started).bind Report.wakes).getD twiTimeout)
    (min (bus.signal.getD twiTimeout) twiTimeout) + bus.delay

/-- `interruptible_sleep_on_timeout`: the jiffies that are left. -/
def interruptibleSleepOnTimeout (bus : BusRun) (started : Bool) : Nat :=
  twiTimeout - bus.resumed started

/-! ## The commands -/

/-- What a command leaves: its result, the data that were read, and what has led to it. -/
structure Outcome where
  /-- The result. -/
  ret : Word
  /-- `*read_data`, if it is written. -/
  readData : Option Word
  /-- The transfer behind the command. -/
  transfer : I2cTransfer
  /-- The registers, if the transfer was started. -/
  started : Option Registers
  /-- A poll has found the bus idle or the previous action done. -/
  seen : Bool
  /-- The jiffies from falling asleep to the check of the error. -/
  checked : Nat

/-- A value cut to a length of 1 to 4 bytes. -/
def cutData (dataLen data : Word) : Word :=
  if dataLen &&& 0x3 = 0 then data &&& 0xFF
  else if dataLen &&& 0x3 = 1 then data &&& 0xFFFF
  else if dataLen &&& 0x3 = 2 then data &&& 0xFFFFFF
  else data

/-- What the interrupt handler has done by a time. -/
def handled (bus : BusRun) (t : I2cTransfer) (started : Option Registers) (time : Nat) :
    I2cTransfer × Option Registers :=
  match started, bus.report with
  | some regs, some r =>
    if r.cameBy time then
      ((str8100I2cInt r.status t regs).1, some (str8100I2cInt r.status t regs).2)
    else (t, started)
  | _, _ => (t, started)

/-- The end of a command, with the jiffies that are left of its sleep. With a length, data are
read. -/
def result (bus : BusRun) (t : I2cTransfer) (readDataLen : Option Word) (timeout : Nat) :
    Word × Option Word :=
  if timeout = 0 then (0x99, none)
  else if isError t.errorStatus then (t.errorStatus, none)
  else (0, readDataLen.map fun len => cutData len bus.readData)

/-- A command from its transfer on. -/
def command (bus : BusRun) (t : I2cTransfer) (readDataLen : Option Word) : Outcome :=
  let started := halI2cDispatchTransfer bus t
  let time := bus.resumed started.isSome
  let behind := handled bus t started time
  let returned := result bus behind.1 readDataLen
    (interruptibleSleepOnTimeout bus started.isSome)
  { ret := returned.1
    readData := returned.2
    transfer := behind.1
    started := behind.2
    seen := (pollLoop bus dispatchRetries 0).2
    checked := time }

/-- `I2c_Read_Only_Command`. -/
def i2cReadOnlyCommand (bus : BusRun) (slaveAddr readDataLen : Word) : Outcome :=
  command bus
    { transferCmd := 0, writeDataLen := 0, readDataLen := readDataLen &&& 0x3
      writeData := 0, slaveAddr := slaveAddr &&& 0xFF, actionDone := 0, errorStatus := 0 }
    (some readDataLen)

/-- `I2c_Write_Only_Command`. -/
def i2cWriteOnlyCommand (bus : BusRun) (slaveAddr writeDataLen writeData : Word) : Outcome :=
  command bus
    { transferCmd := 1, writeDataLen := writeDataLen &&& 0x3, readDataLen := 0
      writeData := cutData writeDataLen writeData, slaveAddr := slaveAddr &&& 0xFF
      actionDone := 0, errorStatus := 0 }
    none

/-- `I2c_Write_Read_Command`. -/
def i2cWriteReadCommand (bus : BusRun) (slaveAddr writeDataLen writeData readDataLen : Word) :
    Outcome :=
  command bus
    { transferCmd := 2, writeDataLen := writeDataLen &&& 0x3, readDataLen := readDataLen &&& 0x3
      writeData := cutData writeDataLen writeData, slaveAddr := slaveAddr &&& 0xFF
      actionDone := 0, errorStatus := 0 }
    (some readDataLen)

/-- `I2c_Read_Write_Command`. -/
def i2cReadWriteCommand (bus : BusRun) (slaveAddr readDataLen writeDataLen writeData : Word) :
    Outcome :=
  command bus
    { transferCmd := 3, writeDataLen := writeDataLen &&& 0x3, readDataLen := readDataLen &&& 0x3
      writeData := cutData writeDataLen writeData, slaveAddr := slaveAddr &&& 0xFF
      actionDone := 0, errorStatus := 0 }
    (some readDataLen)

/-- A call of one of the commands. -/
inductive Command where
  /-- `I2c_Read_Only_Command`. -/
  | readOnly (slaveAddr readDataLen : Word)
  /-- `I2c_Write_Only_Command`. -/
  | writeOnly (slaveAddr writeDataLen writeData : Word)
  /-- `I2c_Write_Read_Command`. -/
  | writeRead (slaveAddr writeDataLen writeData readDataLen : Word)
  /-- `I2c_Read_Write_Command`. -/
  | readWrite (slaveAddr readDataLen writeDataLen writeData : Word)

/-- The call on a bus. -/
def Command.run (bus : BusRun) : Command → Outcome
  | .readOnly slaveAddr readDataLen => i2cReadOnlyCommand bus slaveAddr readDataLen
  | .writeOnly slaveAddr writeDataLen writeData =>
    i2cWriteOnlyCommand bus slaveAddr writeDataLen writeData
  | .writeRead slaveAddr writeDataLen writeData readDataLen =>
    i2cWriteReadCommand bus slaveAddr writeDataLen writeData readDataLen
  | .readWrite slaveAddr readDataLen writeDataLen writeData =>
    i2cReadWriteCommand bus slaveAddr readDataLen writeDataLen writeData

end Fvs318g.I2c
