import Fvs318g.Kernel.Base
import Fvs318g.Lib.Register

/-!
# The reset button

`push_button_polling` runs from a timer and samples the button. It counts the samples of a press
and, when the button is let go or has been held for long, takes an action: it asks user space for
one of two resets by creating a file, or restarts the machine. A poll that takes an action does
not arm its timer again, and `machine_restart` does not return.
-/

namespace Fvs318g.Gsw

open Kernel Lib

/-- `SCAN_RATE`. -/
def scanRate : Nat := hz / 3

/-- `FACTORY_RESET_THRESHOLD`. -/
def factoryResetThreshold : Nat := 10

/-- `CUSTOM_FACTORY_THRESHOLD`. -/
def customFactoryThreshold : Nat := 2

/-- What the driver does about a press. -/
inductive ResetAction where
  /-- `CUSTOM_FACTORY_RESET_FILE` is created. -/
  | customReset
  /-- `FACTORY_RESET_FILE` is created. -/
  | factoryReset
  /-- `machine_restart` is called. -/
  | restart
  deriving DecidableEq, Repr

/-- The variables of the driver and what it has done. -/
structure PushButton where
  /-- `counter`, an `unsigned int`. -/
  counter : Nat
  /-- `button_pressed`. -/
  buttonPressed : Bool
  /-- The delay with which `push_button_timer` was armed last, if it is armed. -/
  timer : Option Nat
  /-- The test LED is on for a press. -/
  testLed : Bool
  /-- `blink_led_timer` is armed. -/
  blinking : Bool
  /-- The actions so far, the last one first. -/
  actions : List ResetAction
  deriving DecidableEq, Repr

/-- What `push_module_init` leaves. -/
def pushModuleInit : PushButton where
  counter := 0
  buttonPressed := false
  timer := some scanRate
  testLed := false
  blinking := false
  actions := []

/-- `check_pushbutton`, with the value of `REG_GPIO_INPUT`: the input is low while the button is
pressed. -/
def checkPushbutton (gpioInput : Word) : Bool := gpioInput &&& (1 <<< 15) == 0

/-- `push_button_polling`, with the value of `REG_GPIO_INPUT`. -/
def pushButtonPolling (s : PushButton) (gpioInput : Word) : PushButton :=
  -- The timer has fired, so that it is not armed unless `mod_timer` is reached.
  let s := { s with timer := none }
  if checkPushbutton gpioInput then
    let s := { s with testLed := true, buttonPressed := true }
    if s.counter = factoryResetThreshold then
      { s with blinking := true, actions := .factoryReset :: s.actions }
    else
      { s with counter := (s.counter + 1) % 2 ^ 32, timer := some hz }
  else if s.counter ≥ customFactoryThreshold ∧ s.counter < factoryResetThreshold then
    { s with blinking := true, actions := .customReset :: s.actions }
  else if s.buttonPressed then { s with actions := .restart :: s.actions }
  else { s with timer := some scanRate }

/-- One sample of the button: it is taken only while the timer is armed. -/
def sampleButton (s : PushButton) (gpioInput : Word) : PushButton :=
  if s.timer.isSome then pushButtonPolling s gpioInput else s

/-- The driver from its start on, for a sequence of samples. -/
def sampleButtons (samples : List Word) : PushButton := samples.foldl sampleButton pushModuleInit

end Fvs318g.Gsw
