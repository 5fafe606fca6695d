import Fvs318g.Lib.CString

/-!
# The boot environment

The boot loader keeps its environment in an area of the flash: strings of the form `name=value`,
one behind the other. `get_flash_env` looks for a name with `strstr` from one place of the area
after the other, and for the `=` behind it with `strchr`.

Addresses are relative to the area, and a read beyond its end is a result of its own. The search
runs for a given number of rounds.
-/

namespace Fvs318g.Star

open Lib

/-- `ENV_SIZE`. -/
def envSize : Nat := 0x8000

/-- The area of the environment. -/
structure EnvArea where
  /-- Its contents. -/
  bytes : List UInt8
  /-- Its size. -/
  size : bytes.length = envSize

/-- A name, without the zero behind it. -/
structure EnvName where
  /-- Its characters. -/
  chars : List UInt8
  /-- No character is a zero. -/
  clean : (0 : UInt8) ∉ chars

/-- The character `=`. -/
def assign : UInt8 := 0x3D

/-- How a call ends. -/
inductive EnvResult where
  /-- It has not ended. -/
  | running
  /-- It has read beyond the area. -/
  | outside
  /-- It has returned an address in the area, or null. -/
  | returned (p : Option Nat)
  deriving DecidableEq

/-- `p > src + ENV_SIZE`. A null pointer is below every address. -/
def pastEnd (p : Option Nat) : Bool :=
  match p with
  | some p => p > envSize
  | none => false

/-- The loop of `get_flash_env` from `beg_p` on. -/
def searchEnv (area : EnvArea) (name : EnvName) : Nat → Nat → EnvResult
  | 0, _ => .running
  | rounds + 1, begP =>
    match strstr area.bytes begP name.chars with
    | none => .outside
    | some (some p) =>
      match strchr assign (area.bytes.drop p) with
      | none => .outside
      | some (some assignP) => .returned (some (p + assignP + 1))
      | some none => .returned none
    | some none => if pastEnd none then .returned none else searchEnv area name rounds (begP + 1)

/-- `get_flash_env`. -/
def getFlashEnv (area : EnvArea) (name : EnvName) (rounds : Nat) : EnvResult :=
  searchEnv area name rounds 0

end Fvs318g.Star
