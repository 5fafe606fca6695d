import Fvs318g.Kernel.SkBuff
import Fvs318g.Net.FastBridge

/-!
# Forwarding on the fast bridge

`fast_bridge_forward_skb` gives a received buffer to the transmit function of the other device. The
transmit functions of the devices are a driver with a state of its own and a convention: with the
answer 0 it takes the buffer, with another answer it does not. What would stop the kernel (a push
beyond the headroom, a call through a null pointer, undefined behaviour of the driver) is no result.
-/

namespace Fvs318g.Net

open Kernel

/-- `ETH_HLEN`. -/
def ethernetHlen : Nat := 14

/-- The values of `ip_summed`. -/
inductive IpSummed where
  /-- `CHECKSUM_NONE`. -/
  | none
  /-- `CHECKSUM_HW`. -/
  | hw
  /-- `CHECKSUM_UNNECESSARY`. -/
  | unnecessary
  deriving DecidableEq, Repr

/-- A received buffer. -/
structure RxSkb (Dev : Type) where
  /-- `dev`. -/
  dev : Option Dev
  /-- `ip_summed`. -/
  ipSummed : IpSummed
  /-- The buffer. -/
  buff : SkBuff

/-- The transmit functions of the devices, over the state of their driver. -/
structure XmitDriver (Dev State : Type) where
  /-- `hard_start_xmit`. -/
  hardStartXmit : State → SkBuff → Dev → Option (State × Int)
  /-- The driver holds the buffer of this identity, or has freed it. -/
  Took : State → Nat → Prop
  /-- With the answer 0 the buffer is taken. -/
  took_of_zero : ∀ {s s' skb dev}, hardStartXmit s skb dev = some (s', 0) → Took s' skb.id
  /-- With another answer it is not. -/
  took_of_busy : ∀ {s s' skb dev answer}, hardStartXmit s skb dev = some (s', answer) →
    answer ≠ 0 → (Took s' skb.id ↔ Took s skb.id)

/-- What `fast_bridge_forward_skb` returns and leaves. -/
structure Forwarded (Dev State : Type) where
  /-- The return value. -/
  result : Int
  /-- The driver. -/
  state : State
  /-- The buffer. -/
  skb : RxSkb Dev

variable {Dev State : Type} [DecidableEq Dev]

/-- `skb_push`, which panics below the head. -/
def skbPush (skb : SkBuff) (count : Nat) : Option SkBuff :=
  if skb.head + count ≤ skb.data then some (skb.push count) else none

/-- `fast_bridge_forward_skb`. -/
def fastBridgeForwardSkb (driver : XmitDriver Dev State) (b : FastBridge Dev) (s : State)
    (skb : RxSkb Dev) : Option (Forwarded Dev State) :=
  if b.dev1Ready = false ∨ b.dev2Ready = false then some ⟨-1, s, skb⟩
  else if skb.dev ≠ b.dev1 ∧ skb.dev ≠ b.dev2 then some ⟨-1, s, skb⟩
  else do
    let dev := if skb.dev = b.dev1 then b.dev2 else if skb.dev = b.dev2 then b.dev1 else skb.dev
    let buff ← skbPush skb.buff ethernetHlen
    -- the answer of the device is not looked at
    let (s, _) ← driver.hardStartXmit s buff (← dev)
    some ⟨0, s, ⟨dev, .none, buff⟩⟩

end Fvs318g.Net
