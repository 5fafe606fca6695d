import Fvs318g.Kernel.Base
import Mathlib.Logic.Function.Basic

/-!
# The fast bridge

Two network devices are bridged in the receive path. A write to the proc file names them; the
handler looks the names up, opens the devices and marks the bridge ready. The devices that exist
at a write, their flags and whether they open are inputs of the write.
-/

namespace Fvs318g.Net

open Kernel

variable {Dev : Type} [DecidableEq Dev]

/-- The devices of the system at a write. -/
structure DevEnv (Dev : Type) where
  /-- The registered devices by name, in the order of the lookup. -/
  devices : List (List UInt8 × Dev)
  /-- `IFF_UP`. -/
  up : Dev → Bool
  /-- `IFF_PROMISC`. -/
  promisc : Dev → Bool
  /-- `dev_open` succeeds. -/
  opens : Dev → Bool

/-- The state of the bridge. -/
structure FastBridge (Dev : Type) where
  /-- `fast_bridge_dev1`. -/
  dev1 : Option Dev
  /-- `fast_bridge_dev2`. -/
  dev2 : Option Dev
  /-- `fast_bridge_dev1_ready`. -/
  dev1Ready : Bool
  /-- `fast_bridge_dev2_ready`. -/
  dev2Ready : Bool
  /-- The references that the bridge has taken and not put back. -/
  held : Dev → Nat

/-- The bridge when the module is loaded. -/
def FastBridge.initial : FastBridge Dev := ⟨none, none, false, false, fun _ => 0⟩

/-- `strsep` with the delimiters tab, blank and newline: the token, and the rest of the string
behind the delimiter. -/
def strsep : Option (List UInt8) → Option (List UInt8) × Option (List UInt8)
  | none => (none, none)
  | some s =>
    let delimiter (c : UInt8) : Bool := c == 9 || c == 32 || c == 10
    match s.dropWhile (fun c => !delimiter c) with
    | [] => (some (s.takeWhile (fun c => !delimiter c)), none)
    | _ :: rest => (some (s.takeWhile (fun c => !delimiter c)), some rest)

/-- The search of `dev_get_by_name`; names are compared up to `IFNAMSIZ` characters. -/
def devGetByName (env : DevEnv Dev) (name : List UInt8) : Option Dev :=
  (env.devices.find? (fun d => d.1.take 16 == name.take 16)).map Prod.snd

/-- `dev_hold`. -/
def FastBridge.devHold (b : FastBridge Dev) (d : Dev) : FastBridge Dev :=
  { b with held := Function.update b.held d (b.held d + 1) }

/-- `dev_put`. -/
def FastBridge.devPut (b : FastBridge Dev) (d : Dev) : FastBridge Dev :=
  { b with held := Function.update b.held d (b.held d - 1) }

/-- Open a device that is not up. -/
def DevEnv.open_ (env : DevEnv Dev) (d : Dev) : DevEnv Dev :=
  if env.up d then env else { env with up := Function.update env.up d (env.opens d) }

/-- Make a device promiscuous that is not. -/
def DevEnv.setPromiscuity (env : DevEnv Dev) (d : Dev) : DevEnv Dev :=
  if env.promisc d then env else { env with promisc := Function.update env.promisc d true }

/-- `fast_bridge_write_proc`; `buffer` is the string that starts at the buffer. -/
def fastBridgeWriteProc (count : Nat) (buffer : List UInt8) (env : DevEnv Dev)
    (b : FastBridge Dev) : Int × FastBridge Dev × DevEnv Dev :=
  if count > 0 then
    let (dev1, str) := strsep (some buffer)
    let (dev2, _) := strsep str
    match dev1, dev2 with
    | some name1, some name2 =>
      match devGetByName env name1 with
      | none => (-efault, { b with dev1 := none }, env)
      | some d1 =>
        let b := { b.devHold d1 with dev1 := some d1 }
        match devGetByName env name2 with
        | none => (-efault, { b.devPut d1 with dev2 := none }, env)
        | some d2 =>
          let b := { b.devHold d2 with dev2 := some d2 }
          let env := (((env.open_ d1).open_ d2).setPromiscuity d1).setPromiscuity d2
          (count, { b with dev1Ready := true, dev2Ready := true }, env)
    | _, _ => (-efault, b, env)
  else (count, b, env)

end Fvs318g.Net
