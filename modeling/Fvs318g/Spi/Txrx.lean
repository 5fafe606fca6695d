import Fvs318g.Lib.Bytes
import Fvs318g.Lib.Register

/-!
# Transfers on the SPI bus

`str8100_spi_tx_rx` clocks one byte: it waits for the bus and the transmit buffer, writes the
channel and the end mark into the control register and the byte into the transmit buffer, and
waits for the byte that is shifted in at the same time. `str8100_spi_txrx` does so for every byte
of a transfer, with the last one apart.

What the status registers show at each poll, and what the other side of the bus answers, is left
open, except that every wait ends. A wait loop polls at most as often as it is given; a call whose
waits are not over by then has no result.
-/

namespace Fvs318g.Spi

open Lib

/-- A byte on the bus, with its channel and its end mark. -/
structure Frame where
  /-- Channel, the chip that is selected. -/
  channel : BitVec 2
  /-- The end mark. -/
  eof : Bool
  /-- The byte. -/
  data : UInt8
  deriving DecidableEq, Repr

/-- `str8100_spi_bus_idle`. -/
def busIdle (serviceStatus : Word) : Bool := serviceStatus &&& 0x1 = 0

/-- `str8100_spi_tx_buffer_empty`. -/
def txBufferEmpty (interruptStatus : Word) : Bool := interruptStatus &&& (0x1 <<< 3) ≠ 0

/-- `str8100_spi_rx_buffer_full`. -/
def rxBufferFull (interruptStatus : Word) : Bool := interruptStatus &&& (0x1 <<< 2) ≠ 0

/-- What the driver sees of the controller and the bus. -/
structure Line where
  /-- `SPI_SERVICE_STATUS_REG` before a frame, at each poll. -/
  serviceStatus : Nat → Nat → Word
  /-- `SPI_INTERRUPT_STATUS_REG` before a frame, at each poll. -/
  emptyStatus : Nat → Nat → Word
  /-- `SPI_INTERRUPT_STATUS_REG` behind a frame, at each poll. -/
  fullStatus : Nat → Nat → Word
  /-- `SPI_RECEIVE_CONTROL_REG` behind the frames so far. -/
  receiveControl : List Frame → Word
  /-- `SPI_RECEIVE_BUFFER_REG` behind the frames so far. -/
  receiveBuffer : List Frame → Word
  /-- The bus becomes idle. -/
  idle : ∀ n, ∃ k, busIdle (serviceStatus n k) = true
  /-- The transmit buffer becomes empty. -/
  empty : ∀ n, ∃ k, txBufferEmpty (emptyStatus n k) = true
  /-- The receive buffer becomes full. -/
  full : ∀ n, ∃ k, rxBufferFull (fullStatus n k) = true

/-- A wait loop from its poll `k` on, for at most the given number of polls. -/
def wait (ready : Nat → Bool) : Nat → Nat → Option Unit
  | 0, _ => none
  | polls + 1, k => if ready k then some () else wait ready polls (k + 1)

/-- The controller. -/
structure Bus where
  /-- `SPI_TRANSMIT_CONTROL_REG`. -/
  transmitControl : Word
  /-- The frames so far. -/
  frames : List Frame

/-- Writing the transmit buffer clocks a frame as the control register has it. -/
def Bus.send (bus : Bus) (txData : Word) : Bus :=
  { bus with frames := bus.frames ++
      [{ channel := bus.transmitControl.setWidth 2, eof := bus.transmitControl.getLsbD 2
         data := UInt8.ofBitVec (txData.setWidth 8) }] }

/-- The two writes of the control register: clear the channel and the end mark, and set them. -/
def controlWord (control : Word) (txChannel txEofFlag : BitVec 8) : Word :=
  (control &&& ~~~ (0x7 : Word)) |||
    ((txChannel &&& 0x3).setWidth 32 ||| (txEofFlag &&& 0x1).setWidth 32 <<< 2)

/-- `str8100_spi_tx_rx`: its result, `*rx_data` and the controller. -/
def str8100SpiTxRx (line : Line) (polls : Nat) (txChannel txEofFlag : BitVec 8) (txData : Word)
    (bus : Bus) : Option (Nat × Word × Bus) := do
  let n := bus.frames.length
  wait (fun k => busIdle (line.serviceStatus n k)) polls 0
  wait (fun k => txBufferEmpty (line.emptyStatus n k)) polls 0
  let bus := { bus with transmitControl := controlWord bus.transmitControl txChannel txEofFlag }
  let bus := bus.send txData
  wait (fun k => rxBufferFull (line.fullStatus n k)) polls 0
  let rxChannel := (line.receiveControl bus.frames &&& 0x3).setWidth 8
  let rxEofFlag := if line.receiveControl bus.frames &&& (0x1 <<< 2) ≠ 0 then 1 else 0
  let rxData := line.receiveBuffer bus.frames
  some (if txChannel ≠ rxChannel ∨ txEofFlag ≠ rxEofFlag then 0 else 1, rxData, bus)

/-! ## A transfer -/

/-- `struct spi_transfer` with the chip of its `struct spi_device`. The receive buffer may be the
transmit buffer, and may lie anywhere except over bytes that are still to be sent. -/
structure Transfer where
  /-- `spi->chip_select`. -/
  chipSelect : BitVec 8
  /-- `tx_buf`. -/
  txBuf : Option Nat
  /-- `rx_buf`. -/
  rxBuf : Option Nat
  /-- `len`. -/
  len : BitVec 32
  /-- `last_in_message_list`. -/
  lastInMessageList : Word
  /-- There are bytes to transfer. -/
  len_pos : 1 ≤ len.toNat
  /-- There is a buffer. -/
  given : txBuf.isSome ∨ rxBuf.isSome
  /-- What is received does not replace what is still to be sent. -/
  apart : ∀ tx ∈ txBuf, ∀ rx ∈ rxBuf, rx ≤ tx ∨ tx + len.toNat ≤ rx

/-- The controller, the memory, and the stores to the receive buffer by their index. -/
structure World where
  /-- The controller. -/
  bus : Bus
  /-- The memory. -/
  memory : Memory
  /-- The index and the byte of each store. -/
  stores : List (Nat × UInt8)

/-- `hw->rx[i] = rx_data`. -/
def World.put (w : World) (rx i : Nat) (rxData : Word) : World :=
  let byte := UInt8.ofBitVec (rxData.setWidth 8)
  { w with
    memory := fun a => if a = rx + i then byte else w.memory a
    stores := w.stores ++ [(i, byte)] }

/-- The word that is sent for index `i`: the byte of the transmit buffer, or all ones. -/
def World.txWord (w : World) (tx : Option Nat) (i : Nat) : Word :=
  match tx with
  | some tx => (w.memory (tx + i)).toBitVec.setWidth 32
  | none => 0xff

/-- One byte of a transfer: it is clocked, and stored if there is a buffer for it. -/
def exchange (line : Line) (polls : Nat) (t : Transfer) (eof : BitVec 8) (rx : Option Nat) (i : Nat)
    (w : World) : Option World := do
  let (_, rxData, bus) ← str8100SpiTxRx line polls t.chipSelect eof (w.txWord t.txBuf i) w.bus
  let w := { w with bus }
  match rx with
  | some rx => some (w.put rx i rxData)
  | none => some w

/-- The loop over the bytes before the last, the same in both branches. -/
def exchangeLoop (line : Line) (polls : Nat) (t : Transfer) : Nat → Nat → World → Option World
  | 0, _, w => some w
  | n + 1, i, w => do exchangeLoop line polls t n (i + 1) (← exchange line polls t 0 t.rxBuf i w)

/-- The last byte, at index `i`. With a transmit buffer and more transfers to come, what is shifted
in is not stored. -/
def lastExchange (line : Line) (polls : Nat) (t : Transfer) (i : Nat) (w : World) : Option World :=
  match t.txBuf with
  | some _ =>
    if t.lastInMessageList ≠ 0 then exchange line polls t 1 t.rxBuf i w
    else exchange line polls t 0 none i w
  | none =>
    if t.lastInMessageList ≠ 0 then exchange line polls t 1 t.rxBuf i w
    else exchange line polls t 0 t.rxBuf i w

/-- `str8100_spi_txrx`: its result and what it leaves. The length is an `int` in `hw->len`. -/
def str8100SpiTxrx (line : Line) (polls : Nat) (t : Transfer) (w : World) :
    Option (BitVec 32 × World) := do
  let rounds := (← checked (t.len.toInt - 1)).toNat
  let w ← exchangeLoop line polls t rounds 0 w
  let w ← lastExchange line polls t rounds w
  some (t.len, w)

end Fvs318g.Spi
