import Fvs318g.Net.Forward
import Fvs318g.Verif.Transmit

/-!
# Buffers on the fast bridge

A return value of 0 tells the caller that the buffer is no longer its own. The forwarding function
returns 0 for every packet between the two devices, and the device may have refused it. Nobody owns
such a buffer.
-/

namespace Fvs318g.Verif.Forward

open Lib Kernel Net Gsw Transmit

section Bridge

variable {Dev State : Type} [DecidableEq Dev] (driver : XmitDriver Dev State) (b : FastBridge Dev)
  (s : State) (skb : RxSkb Dev)

/-- The device on the other side of a bridge that is ready. -/
def otherSide : Option Dev :=
  if b.dev1Ready = true ∧ b.dev2Ready = true then
    if skb.dev = b.dev1 then b.dev2 else if skb.dev = b.dev2 then b.dev1 else none
  else none

/-- The device on the other side does not take the buffer. -/
def Refused : Prop :=
  ∃ dev buff after answer, otherSide b skb = some dev ∧ skbPush skb.buff ethernetHlen = some buff ∧
    driver.hardStartXmit s buff dev = some (after, answer) ∧ answer ≠ 0

/-- The bridge has nothing to do with the buffer. -/
def Foreign : Prop :=
  b.dev1Ready = false ∨ b.dev2Ready = false ∨ (skb.dev ≠ b.dev1 ∧ skb.dev ≠ b.dev2)

/-- A foreign buffer is handed back as it came. -/
theorem forward_foreign (foreign : Foreign b skb) :
    fastBridgeForwardSkb driver b s skb = some ⟨-1, s, skb⟩ := by
  rw [fastBridgeForwardSkb]
  split
  · rfl
  · rename_i ready
    have neither : skb.dev ≠ b.dev1 ∧ skb.dev ≠ b.dev2 := by
      rcases foreign with first | second | neither
      · exact absurd (.inl first) ready
      · exact absurd (.inr second) ready
      · exact neither
    rw [if_pos neither]

/-- Any other buffer is given to the device on the other side. -/
theorem forward_native (native : ¬ Foreign b skb) :
    fastBridgeForwardSkb driver b s skb =
      (skbPush skb.buff ethernetHlen).bind fun buff => (otherSide b skb).bind fun dev =>
        (driver.hardStartXmit s buff dev).map fun sent =>
          ⟨0, sent.1, ⟨some dev, .none, buff⟩⟩ := by
  simp only [Foreign, not_or, not_and_or, not_not, Bool.not_eq_false] at native
  have ⟨first, second, side⟩ := native
  have ready : ¬ (b.dev1Ready = false ∨ b.dev2Ready = false) := by
    rw [first, second]
    decide
  have ours : ¬ (skb.dev ≠ b.dev1 ∧ skb.dev ≠ b.dev2) := by
    rintro ⟨notFirst, notSecond⟩
    exact side.elim notFirst notSecond
  have there : (if skb.dev = b.dev1 then b.dev2
      else if skb.dev = b.dev2 then b.dev1 else skb.dev) = otherSide b skb := by
    simp only [otherSide, first, second, and_self, if_true]
    by_cases notFirst : skb.dev = b.dev1
    · rw [if_pos notFirst, if_pos notFirst]
    · rw [if_neg notFirst, if_neg notFirst, if_pos (side.resolve_left notFirst),
        if_pos (side.resolve_left notFirst)]
  rw [fastBridgeForwardSkb, if_neg ready, if_neg ours]
  simp only [there, Option.bind_eq_bind]
  cases skbPush skb.buff ethernetHlen with
  | none => rfl
  | some buff =>
    cases otherSide b skb with
    | none => rfl
    | some dev =>
      simp only [Option.bind_some]
      cases driver.hardStartXmit s buff dev with
      | none => rfl
      | some sent => rfl

/-- A foreign buffer is not refused. -/
theorem not_refused_of_foreign (foreign : Foreign b skb) : ¬ Refused driver b s skb := by
  rintro ⟨dev, buff, after, answer, there, _⟩
  rw [otherSide] at there
  rcases foreign with notFirst | notSecond | neither
  · rw [notFirst, if_neg (fun ready => Bool.false_ne_true ready.1)] at there
    cases there
  · rw [notSecond, if_neg (fun ready => Bool.false_ne_true ready.2)] at there
    cases there
  · rw [if_neg neither.1, if_neg neither.2, ite_self] at there
    cases there

/-- A push does not change which buffer it is. -/
theorem id_of_skbPush {buff after : SkBuff} {count : Nat}
    (pushed : skbPush buff count = some after) : after.id = buff.id := by
  rw [skbPush] at pushed
  split at pushed
  · cases pushed
    rfl
  · cases pushed

/-- The buffer has an owner after a call: with 0 the device took it, with -1 the caller has it as it
was. -/
def Kept (out : Forwarded Dev State) : Prop :=
  (out.result = 0 → driver.Took out.state skb.buff.id) ∧
  (out.result = -1 → out.skb.dev = skb.dev ∧ out.skb.buff.data = skb.buff.data ∧
    out.skb.buff.len = skb.buff.len)

/-- Forwarding does not lose a buffer that the driver does not have yet exactly if the device on the
other side does not refuse it. -/
theorem fast_bridge_forward_iff
    (fresh : ¬ driver.Took s skb.buff.id) :
    (∀ out, fastBridgeForwardSkb driver b s skb = some out → Kept driver skb out) ↔
      ¬ Refused driver b s skb := by
  by_cases foreign : Foreign b skb
  · apply iff_of_true _ (not_refused_of_foreign driver b s skb foreign)
    intro out done
    rw [forward_foreign driver b s skb foreign] at done
    cases done
    exact ⟨fun zero => absurd zero (by decide : ¬ (-1 : Int) = 0), fun _ => ⟨rfl, rfl, rfl⟩⟩
  · rw [forward_native driver b s skb foreign]
    constructor
    · rintro kept ⟨dev, buff, after, answer, there, pushed, sent, busy⟩
      rw [there, pushed] at kept
      simp only [Option.bind_some, sent, Option.map_some] at kept
      have took := (kept _ rfl).1 rfl
      rw [← id_of_skbPush pushed] at took fresh
      exact fresh ((driver.took_of_busy sent busy).mp took)
    · intro taken out done
      cases pushed : skbPush skb.buff ethernetHlen with
      | none =>
        rw [pushed] at done
        cases done
      | some buff =>
        cases there : otherSide b skb with
        | none =>
          rw [pushed, there] at done
          cases done
        | some dev =>
          rw [pushed, there, Option.bind_some, Option.bind_some, Option.map_eq_some_iff] at done
          have ⟨⟨after, answer⟩, sent, result⟩ := done
          subst result
          have zero : answer = 0 := by
            by_contra busy
            exact taken ⟨dev, buff, after, answer, there, pushed, sent, busy⟩
          subst zero
          rw [Kept, ← id_of_skbPush pushed]
          exact ⟨fun _ => driver.took_of_zero sent,
            fun other => absurd other (by decide : ¬ (0 : Int) = -1)⟩

end Bridge

/-! ## The switch driver -/

/-- `star_gsw_send_packet` as a transmit function. The buffers of the calls that returned 0 are
those it has taken. -/
def starGswDriver : XmitDriver NetDevice TxWorld where
  hardStartXmit := fun w skb dev =>
    match starGswSendPacket w.driver skb dev with
    | .busy driver => some ({ w with driver := driver }, 1)
    | .sent driver => some ({ w with driver := driver, accepted := w.accepted ++ [skb] }, 0)
    | .overrun => none
  Took := fun w id => id ∈ w.accepted.map SkBuff.id
  took_of_zero := by
    intro w after skb dev sent
    split at sent
    · cases sent
    · cases sent
      rw [List.map_append]
      exact List.mem_append_right _ (List.mem_singleton.mpr rfl)
    · cases sent
  took_of_busy := by
    intro w after skb dev answer sent busy
    split at sent
    · cases sent
      exact Iff.rfl
    · cases sent
      exact absurd rfl busy
    · cases sent

/-- With a full ring the driver refuses every buffer. -/
theorem starGswDriver_full {w : TxWorld} (skb : SkBuff) (dev : NetDevice)
    (full : (slot w.driver.ring.desc w.driver.ring.curIndex).cown = false) :
    ∃ after, starGswDriver.hardStartXmit w skb dev = some (after, 1) := by
  have busy : claim skb dev w.driver.ring w.driver.ring.curIndex 0 [] (skb.nrFrags + 1) =
      .busy w.driver.ring := by
    rw [claim, if_pos full]
  simp only [starGswDriver, starGswSendPacket, busy]
  exact ⟨_, rfl⟩

/-- With a free ring the driver takes every buffer that it answers for. -/
theorem starGswDriver_free {w after : TxWorld} {skb : SkBuff} {dev : NetDevice} {answer : Int}
    (inside : w.driver.ring.curIndex < starGswMaxTfdNum)
    (free : ∀ i, i < starGswMaxTfdNum → (slot w.driver.ring.desc i).cown = true)
    (sent : starGswDriver.hardStartXmit w skb dev = some (after, answer)) : answer = 0 := by
  simp only [starGswDriver] at sent
  split at sent
  · rename_i driver busy
    simp only [starGswSendPacket] at busy
    split at busy
    · rename_i ring claimed
      rw [← Nat.mod_eq_of_lt inside] at claimed
      obtain ⟨k, _, hardware⟩ := claim_busy_at (parts_le skb) claimed
      rw [free _ (Nat.mod_lt _ ring_positive)] at hardware
      cases hardware
    · cases busy
    · cases busy
  · cases sent
    rfl
  · cases sent

/-- The LAN device. -/
def lanDevice : NetDevice := ⟨false, 1⟩

/-- The WAN device. -/
def wanDevice : NetDevice := ⟨true, 2⟩

/-- A bridge between them. -/
def lanWan : FastBridge NetDevice := ⟨some lanDevice, some wanDevice, true, true, fun _ => 1⟩

/-- A buffer from the LAN behind its Ethernet header. -/
def fromLan : RxSkb NetDevice :=
  ⟨some lanDevice, .none, (((devAllocSkb 7 0xC0100000 1536).put 60).pull ethernetHlen)⟩

/-- The state of a driver whose ring belongs to the hardware. -/
def fullRing : TxWorld :=
  { txInit with driver := { txInit.driver with ring := { txRingAlloc with
      desc := Vector.replicate starGswMaxTfdNum { slot txRingAlloc.desc 0 with cown := false } } } }

/-- With an empty ring the buffer is taken. -/
theorem fast_bridge_forward_taken :
    ¬ starGswDriver.Took txInit fromLan.buff.id ∧
    (fastBridgeForwardSkb starGswDriver lanWan txInit fromLan).isSome = true ∧
    ∀ out, fastBridgeForwardSkb starGswDriver lanWan txInit fromLan = some out →
      Kept starGswDriver fromLan out := by
  have fresh : ¬ starGswDriver.Took txInit fromLan.buff.id := List.not_mem_nil
  refine ⟨fresh, by decide +kernel, ?_⟩
  apply (fast_bridge_forward_iff starGswDriver lanWan txInit fromLan fresh).mpr
  rintro ⟨dev, buff, after, answer, _, _, sent, busy⟩
  apply busy
  apply starGswDriver_free (by decide) _ sent
  intro i inside
  simp only [txInit, txRingAlloc, slot_ofFn _ inside]

/-- With a full ring the call returns 0, and neither the driver nor the caller has the buffer. -/
theorem fast_bridge_forward_lost :
    ∃ out, fastBridgeForwardSkb starGswDriver lanWan fullRing fromLan = some out ∧
      out.result = 0 ∧ ¬ starGswDriver.Took out.state fromLan.buff.id := by
  have full : (slot fullRing.driver.ring.desc fullRing.driver.ring.curIndex).cown = false := by
    decide +kernel
  have native : ¬ Foreign lanWan fromLan := by
    simp [Foreign, lanWan, fromLan]
  have room : skbPush fromLan.buff ethernetHlen = some (fromLan.buff.push ethernetHlen) := by
    rw [skbPush, if_pos (by decide)]
  have there : otherSide lanWan fromLan = some wanDevice := by decide
  have ⟨after, sent⟩ := starGswDriver_full (fromLan.buff.push ethernetHlen) wanDevice full
  have untouched := (starGswDriver.took_of_busy sent (by decide)).not.mpr List.not_mem_nil
  refine ⟨⟨0, after, ⟨some wanDevice, .none, fromLan.buff.push ethernetHlen⟩⟩, ?_, rfl, untouched⟩
  rw [forward_native starGswDriver lanWan fullRing fromLan native, room, there, Option.bind_some,
    Option.bind_some, sent]
  rfl

end Fvs318g.Verif.Forward
