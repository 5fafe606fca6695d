import Fvs318g.Spi.Txrx

/-!
# What a transfer moves

Every byte of a transfer is clocked in order, and the byte that is shifted in with it is stored at
its index. The exception is the last byte of a transfer in both directions with more transfers to
come: the branch of the source for it drops what is shifted in.
-/

namespace Fvs318g.Verif.SpiTxrx

open Lib Spi

/-! ## One byte -/

/-- A wait that finds its condition in time ends. -/
theorem wait_of_ready {ready : Nat → Bool} {k polls : Nat} (start : Nat)
    (found : ready (start + k) = true) (inTime : k < polls) : wait ready polls start = some () := by
  induction polls generalizing start k with
  | zero => exact absurd inTime (Nat.not_lt_zero k)
  | succ polls ih =>
    rw [wait]
    by_cases now : ready start = true
    · rw [if_pos now]
    · rw [if_neg now]
      cases k with
      | zero => exact absurd found now
      | succ k =>
        apply ih (k := k)
        · rw [Nat.add_right_comm]
          exact found
        · omega

/-- The waits of the frame `n` are over within the given polls. -/
def Ready (line : Line) (polls n : Nat) : Prop :=
  wait (fun k => busIdle (line.serviceStatus n k)) polls 0 = some () ∧
    wait (fun k => txBufferEmpty (line.emptyStatus n k)) polls 0 = some () ∧
    wait (fun k => rxBufferFull (line.fullStatus n k)) polls 0 = some ()

/-- The waits of a frame end. -/
theorem exists_ready (line : Line) (n : Nat) : ∃ enough, ∀ polls, enough ≤ polls →
    Ready line polls n := by
  obtain ⟨a, idle⟩ := line.idle n
  obtain ⟨b, empty⟩ := line.empty n
  obtain ⟨c, full⟩ := line.full n
  apply Exists.intro (a + b + c + 1)
  intro polls enough
  exact ⟨wait_of_ready 0 (k := a) (by rw [Nat.zero_add]; exact idle) (by omega),
    wait_of_ready 0 (k := b) (by rw [Nat.zero_add]; exact empty) (by omega),
    wait_of_ready 0 (k := c) (by rw [Nat.zero_add]; exact full) (by omega)⟩

/-- The waits of some frames in a row end. -/
theorem exists_ready_all (line : Line) (start count : Nat) :
    ∃ enough, ∀ polls, enough ≤ polls → ∀ i < count, Ready line polls (start + i) := by
  induction count with
  | zero => exact ⟨0, fun _ _ i inside => absurd inside (Nat.not_lt_zero i)⟩
  | succ count ih =>
    obtain ⟨a, before⟩ := ih
    obtain ⟨b, last⟩ := exists_ready line (start + count)
    apply Exists.intro (a + b)
    intro polls enough i inside
    by_cases same : i = count
    · rw [same]
      exact last polls (by omega)
    · exact before polls (by omega) i (by omega)

/-- The control register has the channel in its low bits. -/
theorem controlWord_channel (control : Word) (channel eof : BitVec 8) :
    (controlWord control channel eof).setWidth 2 = channel.setWidth 2 := by
  apply BitVec.eq_of_getLsbD_eq
  intro i inside
  unfold controlWord
  match i with
  | 0 => simp
  | 1 => simp
  | i + 2 => omega

/-- The control register has the end mark above it. -/
theorem controlWord_eof (control : Word) (channel eof : BitVec 8) :
    (controlWord control channel eof).getLsbD 2 = eof.getLsbD 0 := by
  unfold controlWord
  simp

/-- A byte is clocked on its channel with its end mark, and what is received with it is returned. -/
theorem str8100SpiTxRx_eq {line : Line} {polls : Nat} {bus : Bus}
    (ready : Ready line polls bus.frames.length) (channel eof : BitVec 8) (data : Word) :
    ∃ ret control, str8100SpiTxRx line polls channel eof data bus =
      let frames := bus.frames ++
        [⟨channel.setWidth 2, eof.getLsbD 0, UInt8.ofBitVec (data.setWidth 8)⟩]
      some (ret, line.receiveBuffer frames, ⟨control, frames⟩) := by
  unfold str8100SpiTxRx
  simp only [ready.1, ready.2.1, ready.2.2, Option.bind_eq_bind, Option.bind_some, Bus.send,
    controlWord_channel, controlWord_eof]
  exact ⟨_, _, rfl⟩

/-! ## A transfer in order -/

section Transfer

variable (line : Line) (t : Transfer) (w : World)

/-- The frame for the byte `i`. -/
def frameAt (i : Nat) : Frame where
  channel := t.chipSelect.setWidth 2
  eof := t.lastInMessageList ≠ 0 ∧ i + 1 = t.len.toNat
  data :=
    match t.txBuf with
    | some tx => w.memory (tx + i)
    | none => 0xFF

/-- The frames of the first `i` bytes, behind those before the transfer. -/
def framesUpTo (i : Nat) : List Frame := w.bus.frames ++ (List.range i).map (frameAt t w)

/-- The byte that is shifted in with the byte `i`. -/
def receivedAt (i : Nat) : UInt8 :=
  UInt8.ofBitVec ((line.receiveBuffer (framesUpTo t w (i + 1))).setWidth 8)

/-- The stores of the first `i` bytes that are received. -/
def storesUpTo (i : Nat) : List (Nat × UInt8) :=
  w.stores ++
    if t.rxBuf.isSome then (List.range i).map fun i => (i, receivedAt line t w i) else []

/-- The memory with the first `i` bytes that are received. -/
def memoryUpTo (i : Nat) : Memory := fun a =>
  match t.rxBuf with
  | some rx => if rx ≤ a ∧ a < rx + i then receivedAt line t w (a - rx) else w.memory a
  | none => w.memory a

/-- The first `i` bytes have been moved, and nothing else. -/
structure Moved (i : Nat) (w' : World) : Prop where
  /-- They have been clocked. -/
  frames : w'.bus.frames = framesUpTo t w i
  /-- What was received is stored. -/
  stores : w'.stores = storesUpTo line t w i
  /-- It is in the memory. -/
  memory : w'.memory = memoryUpTo line t w i

end Transfer

variable {line : Line} {polls i : Nat} {t : Transfer} {w w' : World}

/-- Nothing has been moved at first. -/
theorem moved_zero (line : Line) (t : Transfer) (w : World) : Moved line t w 0 w where
  frames := by simp [framesUpTo]
  stores := by simp [storesUpTo]
  memory := by
    funext a
    unfold memoryUpTo
    split
    · rw [if_neg (by omega)]
    · rfl

/-- The byte of a word that was made from it. -/
theorem ofBitVec_word (byte : UInt8) :
    UInt8.ofBitVec ((byte.toBitVec.setWidth 32).setWidth 8) = byte := by
  rw [BitVec.setWidth_setWidth_of_le _ (by decide), BitVec.setWidth_eq]

/-- The byte to send is still in the transmit buffer. -/
theorem Moved.txWord (moved : Moved line t w i w') (inside : i < t.len.toNat) :
    UInt8.ofBitVec ((w'.txWord t.txBuf i).setWidth 8) = (frameAt t w i).data := by
  cases sent : t.txBuf with
  | none =>
    simp only [frameAt, World.txWord, sent]
    decide
  | some tx =>
    simp only [frameAt, World.txWord, sent, moved.memory, ofBitVec_word, memoryUpTo]
    cases stored : t.rxBuf with
    | none => rfl
    | some rx =>
      have apart := t.apart tx sent rx stored
      exact if_neg (by omega)

/-- One more frame. -/
theorem framesUpTo_succ (t : Transfer) (w : World) (i : Nat) :
    framesUpTo t w (i + 1) = framesUpTo t w i ++ [frameAt t w i] := by
  rw [framesUpTo, List.range_succ, List.map_append, ← List.append_assoc]
  rfl

/-- As many frames as bytes. -/
theorem length_framesUpTo (t : Transfer) (w : World) (i : Nat) :
    (framesUpTo t w i).length = w.bus.frames.length + i := by
  rw [framesUpTo, List.length_append, List.length_map, List.length_range]

/-- The world behind a byte: it has been clocked, and what was received is stored if there is a
buffer. -/
theorem exchange_eq (moved : Moved line t w i w') (inside : i < t.len.toNat)
    (ready : Ready line polls (w.bus.frames.length + i)) {eof : BitVec 8}
    (mark : eof.getLsbD 0 = (frameAt t w i).eof) (rx : Option Nat) :
    ∃ control, exchange line polls t eof rx i w' =
      let next : World := { w' with bus := ⟨control, framesUpTo t w (i + 1)⟩ }
      match rx with
      | some rx => some (next.put rx i (line.receiveBuffer (framesUpTo t w (i + 1))))
      | none => some next := by
  rw [← length_framesUpTo t w i, ← moved.frames] at ready
  obtain ⟨ret, control, clocked⟩ := str8100SpiTxRx_eq ready t.chipSelect eof (w'.txWord t.txBuf i)
  rw [moved.txWord inside, mark, moved.frames] at clocked
  have frame : (⟨t.chipSelect.setWidth 2, (frameAt t w i).eof, (frameAt t w i).data⟩ : Frame) =
      frameAt t w i := rfl
  rw [frame, ← framesUpTo_succ] at clocked
  apply Exists.intro control
  rw [exchange, clocked]
  rfl

/-- A byte that is stored if there is a receive buffer. -/
theorem exchange_moved (moved : Moved line t w i w') (inside : i < t.len.toNat)
    (ready : Ready line polls (w.bus.frames.length + i)) {eof : BitVec 8}
    (mark : eof.getLsbD 0 = (frameAt t w i).eof) :
    ∃ w'', exchange line polls t eof t.rxBuf i w' = some w'' ∧ Moved line t w (i + 1) w'' := by
  obtain ⟨control, behind⟩ := exchange_eq moved inside ready mark t.rxBuf
  cases stored : t.rxBuf with
  | none =>
    rw [stored] at behind
    rw [behind]
    refine ⟨_, rfl, ?_⟩
    constructor
    case frames => rfl
    case stores =>
      simp only [moved.stores, storesUpTo, stored]
      rfl
    case memory =>
      simp only [moved.memory]
      funext a
      simp only [memoryUpTo, stored]
  | some rx =>
    rw [stored] at behind
    rw [behind]
    refine ⟨_, rfl, ?_⟩
    constructor
    case frames => rfl
    case stores =>
      simp only [World.put, moved.stores, storesUpTo, stored, Option.isSome_some, if_true,
        List.range_succ, List.map_append, List.append_assoc]
      rfl
    case memory =>
      simp only [World.put, moved.memory]
      funext a
      simp only [memoryUpTo, stored]
      by_cases here : a = rx + i
      · rw [if_pos here, if_pos (by omega), here, Nat.add_sub_cancel_left]
        rfl
      · rw [if_neg here]
        by_cases before : rx ≤ a ∧ a < rx + i
        · rw [if_pos before, if_pos (by omega)]
        · rw [if_neg before, if_neg (by omega)]

/-- The loop moves the bytes before the last. -/
theorem exchangeLoop_moved {n : Nat} (moved : Moved line t w i w') (inside : i + n < t.len.toNat)
    (ready : ∀ i < t.len.toNat, Ready line polls (w.bus.frames.length + i)) :
    ∃ w'', exchangeLoop line polls t n i w' = some w'' ∧ Moved line t w (i + n) w'' := by
  induction n generalizing i w' with
  | zero => exact ⟨w', rfl, moved⟩
  | succ n ih =>
    have unmarked : (0 : BitVec 8).getLsbD 0 = (frameAt t w i).eof := by
      have early : ¬ (t.lastInMessageList ≠ 0 ∧ i + 1 = t.len.toNat) := by omega
      exact (decide_eq_false early).symm
    obtain ⟨middle, first, movedMiddle⟩ :=
      exchange_moved moved (by omega) (ready i (by omega)) unmarked
    obtain ⟨w'', rest, movedLast⟩ := ih movedMiddle (by omega)
    rw [Nat.add_right_comm, Nat.add_assoc] at movedLast
    apply Exists.intro w''
    rw [exchangeLoop, first]
    exact ⟨rest, movedLast⟩

/-! ## The last byte -/

/-- A transfer in both directions with more transfers to come. -/
def Dropped (t : Transfer) : Prop := t.txBuf.isSome ∧ t.rxBuf.isSome ∧ t.lastInMessageList = 0

instance (t : Transfer) : Decidable (Dropped t) := inferInstanceAs (Decidable (_ ∧ _))

/-- The end mark of the last byte. -/
def lastMark (t : Transfer) : BitVec 8 := if t.lastInMessageList ≠ 0 then 1 else 0

/-- The branches for the last byte differ in the end mark, and in that one does not store. -/
theorem lastExchange_eq (line : Line) (polls : Nat) (t : Transfer) (i : Nat) (w : World) :
    lastExchange line polls t i w =
      exchange line polls t (lastMark t) (if Dropped t then none else t.rxBuf) i w := by
  unfold lastExchange lastMark
  by_cases last : t.lastInMessageList ≠ 0
  · have kept : ¬ Dropped t := fun dropped => last dropped.2.2
    simp only [if_pos last, if_neg kept]
    cases t.txBuf with
    | none => rfl
    | some tx => rfl
  · simp only [if_neg last]
    cases sent : t.txBuf with
    | none =>
      have kept : ¬ Dropped t := by
        intro dropped
        have given := dropped.1
        rw [sent] at given
        cases given
      rw [if_neg kept]
    | some tx =>
      cases stored : t.rxBuf with
      | none => rw [ite_self]
      | some rx =>
        have dropped : Dropped t := ⟨by rw [sent]; rfl, by rw [stored]; rfl, not_not.mp last⟩
        rw [if_pos dropped]

/-- The end mark of the last byte says that the transfer is the last one. -/
theorem lastMark_eof {n : Nat} (last : n + 1 = t.len.toNat) :
    (lastMark t).getLsbD 0 = (frameAt t w n).eof := by
  simp only [lastMark, frameAt, last, and_true]
  by_cases more : t.lastInMessageList ≠ 0
  · rw [if_pos more, decide_eq_true more]
    rfl
  · rw [if_neg more, decide_eq_false more]
    rfl

/-- The rounds of the loop for a length that fits. -/
theorem checked_rounds (fits : t.len.toNat < 2 ^ 31) :
    checked (t.len.toInt - 1) = some ((t.len.toNat : Int) - 1) := by
  have signed : t.len.toInt = t.len.toNat := BitVec.toInt_eq_toNat_of_lt (by omega)
  have positive := t.len_pos
  rw [signed]
  exact checked_of_mem (by omega) (by omega)

/-- The bytes before the last, and the last one. -/
theorem str8100SpiTxrx_eq (fits : t.len.toNat < 2 ^ 31)
    (ready : ∀ i < t.len.toNat, Ready line polls (w.bus.frames.length + i)) :
    ∃ w', Moved line t w (t.len.toNat - 1) w' ∧
      str8100SpiTxrx line polls t w =
        (exchange line polls t (lastMark t) (if Dropped t then none else t.rxBuf)
          (t.len.toNat - 1) w').map fun w'' => (t.len, w'') := by
  have positive := t.len_pos
  obtain ⟨w', loop, moved⟩ := exchangeLoop_moved (n := t.len.toNat - 1) (moved_zero line t w)
    (by omega) ready
  rw [Nat.zero_add] at moved
  have rounds : ((t.len.toNat : Int) - 1).toNat = t.len.toNat - 1 := by omega
  apply Exists.intro w'
  apply And.intro moved
  rw [str8100SpiTxrx, checked_rounds fits]
  simp only [Option.bind_eq_bind, Option.bind_some, rounds, loop, lastExchange_eq]
  exact Option.map_eq_bind.symm

/-- A byte that is not stored. -/
theorem exchange_none_stores {eof : BitVec 8} {w'' : World}
    (ran : exchange line polls t eof none i w' = some w'') : w''.stores = w'.stores := by
  obtain ⟨clocked, _, rest⟩ := Option.bind_eq_some_iff.mp ran
  rw [← Option.some.inj rest]

/-- Every byte is one frame. -/
theorem exchange_length {eof : BitVec 8} {rx : Option Nat} {w'' : World}
    (ran : exchange line polls t eof rx i w' = some w'') :
    w''.bus.frames.length = w'.bus.frames.length + 1 := by
  obtain ⟨⟨ret, rxData, bus⟩, clocked, rest⟩ := Option.bind_eq_some_iff.mp ran
  have one : bus.frames.length = w'.bus.frames.length + 1 := by
    obtain ⟨_, _, clocked⟩ := Option.bind_eq_some_iff.mp clocked
    obtain ⟨_, _, clocked⟩ := Option.bind_eq_some_iff.mp clocked
    obtain ⟨_, _, clocked⟩ := Option.bind_eq_some_iff.mp clocked
    have same := congrArg (fun r => r.2.2.frames.length) (Option.some.inj clocked)
    simp only [Bus.send, List.length_append, List.length_singleton] at same
    exact same.symm
  cases rx with
  | none =>
    rw [← Option.some.inj rest]
    exact one
  | some rx =>
    rw [← Option.some.inj rest]
    exact one

/-! ## Every transfer -/

/-- The transfer moves every byte: enough polls bring it to its end, with all its frames on the bus,
what was shifted in stored at its index, and nothing else. -/
def MovesEvery (line : Line) (t : Transfer) (w : World) : Prop :=
  ∃ enough, ∀ polls, enough ≤ polls →
    ∃ w', str8100SpiTxrx line polls t w = some (t.len, w') ∧ Moved line t w t.len.toNat w'

/-- As many stores as bytes, if there is a receive buffer. -/
theorem length_storesUpTo (given : t.rxBuf.isSome) (i : Nat) :
    (storesUpTo line t w i).length = w.stores.length + i := by
  rw [storesUpTo, if_pos given, List.length_append, List.length_map, List.length_range]

/-- A length of 2 GiB or more is negative as an `int`: the call is undefined, or clocks one byte. -/
theorem str8100SpiTxrx_negative (large : 2 ^ 31 ≤ t.len.toNat) {r : BitVec 32}
    (ran : str8100SpiTxrx line polls t w = some (r, w')) :
    w'.bus.frames.length = w.bus.frames.length + 1 := by
  obtain ⟨count, defined, ran⟩ := Option.bind_eq_some_iff.mp ran
  have negative : count.toNat = 0 := by
    have signed := BitVec.toInt_eq_toNat_cond t.len
    have width := t.len.isLt
    rw [if_neg (by omega)] at signed
    have value := Option.some.inj (Option.ite_none_right_eq_some.mp defined).2
    omega
  rw [negative] at ran
  obtain ⟨looped, loop, rest⟩ := Option.bind_eq_some_iff.mp ran
  cases loop
  obtain ⟨sent, last, returned⟩ := Option.bind_eq_some_iff.mp rest
  have same : sent = w' := congrArg Prod.snd (Option.some.inj returned)
  rw [lastExchange_eq] at last
  rw [← exchange_length last, ← same]

/-- In a transfer in both directions with more transfers to come, a store is missing. -/
theorem str8100SpiTxrx_dropped (fits : t.len.toNat < 2 ^ 31) (dropped : Dropped t)
    (ready : ∀ i < t.len.toNat, Ready line polls (w.bus.frames.length + i)) {r : BitVec 32}
    (ran : str8100SpiTxrx line polls t w = some (r, w')) :
    w'.stores.length = w.stores.length + (t.len.toNat - 1) := by
  obtain ⟨before, moved, parts⟩ := str8100SpiTxrx_eq fits ready
  rw [ran, if_pos dropped] at parts
  obtain ⟨w'', clocked, same⟩ := Option.map_eq_some_iff.mp parts.symm
  have ended : w'' = w' := congrArg Prod.snd same
  rw [← ended, exchange_none_stores clocked, moved.stores, length_storesUpTo dropped.2.1]

/-- A transfer moves every byte unless it is one in both directions with more transfers to come, or
its length does not fit an `int`. -/
theorem str8100SpiTxrx_iff (line : Line) (t : Transfer) (w : World) :
    MovesEvery line t w ↔ t.len.toNat < 2 ^ 31 ∧ ¬ Dropped t := by
  obtain ⟨bound, ready⟩ := exists_ready_all line w.bus.frames.length t.len.toNat
  have positive := t.len_pos
  have last : t.len.toNat - 1 + 1 = t.len.toNat := Nat.sub_add_cancel positive
  constructor
  · rintro ⟨enough, moves⟩
    have ready := ready (enough + bound) (by omega)
    obtain ⟨w', ran, moved⟩ := moves (enough + bound) (by omega)
    have fits : t.len.toNat < 2 ^ 31 := by
      by_contra large
      have one := str8100SpiTxrx_negative (Nat.not_lt.mp large) ran
      rw [moved.frames, length_framesUpTo] at one
      omega
    apply And.intro fits
    intro dropped
    have stores := str8100SpiTxrx_dropped fits dropped ready ran
    rw [moved.stores, length_storesUpTo dropped.2.1] at stores
    omega
  · rintro ⟨fits, kept⟩
    apply Exists.intro bound
    intro polls enough
    have ready := ready polls enough
    obtain ⟨before, movedBefore, parts⟩ := str8100SpiTxrx_eq fits ready
    rw [if_neg kept] at parts
    obtain ⟨w', clocked, moved⟩ := exchange_moved movedBefore (by omega)
      (ready (t.len.toNat - 1) (by omega)) (lastMark_eof last)
    rw [last] at moved
    apply Exists.intro w'
    rw [parts, clocked]
    exact ⟨rfl, moved⟩

/-- A bus that is always ready, with a chip that answers `0x5A`. -/
def readyLine : Line where
  serviceStatus _ _ := 0
  emptyStatus _ _ := 8
  fullStatus _ _ := 4
  receiveControl _ := 0
  receiveBuffer _ := 0x5A
  idle _ := ⟨0, rfl⟩
  empty _ := ⟨0, rfl⟩
  full _ := ⟨0, rfl⟩

/-- One byte in place, with another transfer behind it. -/
def inPlace : Transfer where
  chipSelect := 0
  txBuf := some 0
  rxBuf := some 0
  len := 1
  lastInMessageList := 0
  len_pos := by decide
  given := .inl rfl
  apart := by simp

/-- The world before it. -/
def idleWorld : World := ⟨⟨0, []⟩, fun _ => 0, []⟩

/-- The byte is clocked, and what the chip answers is not stored. -/
theorem inPlace_dropped :
    (str8100SpiTxrx readyLine 1 inPlace idleWorld).map (fun r => (r.2.bus.frames, r.2.stores)) =
        some ([⟨0, false, 0⟩], []) ∧ ¬ MovesEvery readyLine inPlace idleWorld := by
  constructor
  · decide
  · rintro ⟨enough, moves⟩
    obtain ⟨w', ran, moved⟩ := moves (enough + 1) (Nat.le_succ enough)
    have ready : ∀ i < inPlace.len.toNat,
        Ready readyLine (enough + 1) (idleWorld.bus.frames.length + i) :=
      fun _ _ => ⟨if_pos (show busIdle 0 = true by decide),
        if_pos (show txBufferEmpty 8 = true by decide),
        if_pos (show rxBufferFull 4 = true by decide)⟩
    have stores := str8100SpiTxrx_dropped (by decide) (by decide) ready ran
    rw [moved.stores, length_storesUpTo rfl] at stores
    exact absurd stores (by decide)

end Fvs318g.Verif.SpiTxrx
