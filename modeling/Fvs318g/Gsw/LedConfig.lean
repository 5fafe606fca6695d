import Fvs318g.Kernel.Base
import Fvs318g.Lib.CString
import Fvs318g.Lib.Register

/-!
# The LED commands of `/proc/ledconfig`

`ledconfig_write` copies a command into `buffer`, `get_argv` takes it apart into the words `led` and
`opt`, and two pairs of words switch an LED. Every access to one of the arrays is checked here; a
call that uses an index beyond an array has no result.

The bytes that the user wrote are those that can be read from the user's address on. When they are
fewer than the length says, the copy fails and the rest of it is zeroed.
-/

namespace Fvs318g.Gsw

open Kernel Lib

/-- `sizeof(buffer)` and `sizeof(tmp)`. -/
def ledBufferSize : Nat := 300

/-- `sizeof(led)` and `sizeof(opt)`. -/
def ledWordSize : Nat := 10

/-- A blank. -/
def blank : UInt8 := 0x20

/-! ## The parser -/

/-- What `get_argv` returns and leaves in its arrays. -/
structure Argv where
  /-- The return value: 1 for a command without a blank. -/
  result : Nat
  /-- `led`. -/
  led : List UInt8
  /-- `opt`. -/
  opt : List UInt8
  deriving DecidableEq, Repr

/-- `get_argv`. -/
def getArgv (p : List UInt8) (len : Nat) : Option Argv := do
  let opt := List.replicate ledWordSize 0
  let led := List.replicate ledWordSize 0
  let tmp := List.replicate ledBufferSize 0
  let i ← skipWhile (· == blank) p 0 len
  let length := len - i
  let tmp ← strcpy tmp 0 (p.drop i)
  -- `strstr` takes the length of `tmp` first
  let l1 ← strlen tmp
  if blank ∈ tmp.take l1 then
    let (i, m, led) ← copyWhile (· != blank) tmp 0 led 0 length
    let led ← putChar led m 0
    let i ← skipWhile (· == blank) tmp i (length - i)
    -- the bound of the last loop is inclusive
    let (_, m, opt) ←
      copyWhile (fun c => c != 0 && c != blank && isalpha c) tmp i opt 0 (length + 1 - i)
    let opt ← putChar opt m 0
    some ⟨0, led, opt⟩
  else some ⟨1, led, opt⟩

/-! ## The command -/

/-- The arrays and the registers of the LEDs. -/
structure LedState where
  /-- `buffer`. -/
  buffer : List UInt8
  /-- `led`. -/
  led : List UInt8
  /-- `opt`. -/
  opt : List UInt8
  /-- `REG_GPIO_DIR`. -/
  gpioDir : Word
  /-- `REG_GPIO_OUTPUT`. -/
  gpioOutput : Word
  /-- The words printed so far, in pairs. -/
  printed : List (List UInt8 × List UInt8)
  deriving DecidableEq, Repr

/-- `LEDCFG_TEST`. -/
def ledcfgTest : Nat := 13

/-- `LEDCFG_DMZ`. -/
def ledcfgDmz : Nat := 14

/-- `ledcfg_led_init`; an LED is on when its output is low. -/
def ledcfgLedInit (gpio : Nat) (status : Bool) (s : LedState) : LedState :=
  { s with
    gpioDir := s.gpioDir ||| (1#32 <<< gpio)
    gpioOutput :=
      if status then s.gpioOutput &&& ~~~(1#32 <<< gpio) else s.gpioOutput ||| (1#32 <<< gpio) }

/-- `"test"`. -/
def wordTest : List UInt8 := [0x74, 0x65, 0x73, 0x74, 0]

/-- `"dmz"`. -/
def wordDmz : List UInt8 := [0x64, 0x6d, 0x7a, 0]

/-- `"on"`. -/
def wordOn : List UInt8 := [0x6f, 0x6e, 0]

/-- `"off"`. -/
def wordOff : List UInt8 := [0x6f, 0x66, 0x66, 0]

/-- Switch an LED as `opt` says. -/
def ledSwitch (gpio : Nat) (s : LedState) : Option LedState := do
  if (← strnicmp s.opt wordOn 3) = 0 then some (ledcfgLedInit gpio true s)
  else if (← strnicmp s.opt wordOff 4) = 0 then some (ledcfgLedInit gpio false s)
  else some s

/-- Find the LED that `led` names. -/
def ledCommand (s : LedState) : Option LedState := do
  if (← strnicmp s.led wordTest 5) = 0 then ledSwitch ledcfgTest s
  else if (← strnicmp s.led wordDmz 4) = 0 then ledSwitch ledcfgDmz s
  else some s

/-- `copy_from_user` of `len` bytes to a cleared `buffer`; `none` when it goes beyond the array. -/
def ledCopyFromUser (readable : List UInt8) (len : Nat) : Option (List UInt8) :=
  if len ≤ ledBufferSize then
    some (overwrite (List.replicate ledBufferSize 0) 0
      (readable.take len ++ List.replicate (len - readable.length) 0))
  else none

/-- `ledconfig_write`: the state afterwards and the return value. -/
def ledconfigWrite (s : LedState) (readable : List UInt8) (len : Nat) :
    Option (LedState × Int) := do
  let buffer ← ledCopyFromUser readable len
  if readable.length < len then some ({ s with buffer := buffer }, -efault)
  else
    let argv ← getArgv buffer len
    -- the words are printed as strings
    let ledLength ← strlen argv.led
    let optLength ← strlen argv.opt
    let s := { s with
      buffer := buffer, led := argv.led, opt := argv.opt
      printed := s.printed ++ [(argv.led.take ledLength, argv.opt.take optLength)] }
    if argv.result = 0 then
      let s ← ledCommand s
      some (s, len)
    else some (s, len)

end Fvs318g.Gsw
