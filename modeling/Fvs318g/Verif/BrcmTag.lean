import Fvs318g.Gsw.BrcmTag
import Fvs318g.Verif.TransmitRuns

/-!
# One tag for each frame

`brcmTagAdd` in three steps on the contents of a linear buffer: padding appends zeros,
making room appends four bytes, and the last move with the tag inserts the tag after the
MAC addresses and drops the last four bytes. With room for both the buffer holds the padded
frame with the tag inserted. Without room the memory still holds the frame with the tag,
but the buffer ends too early; that is harmless for frames that the hardware pads anyway.
The buffer remembers nothing about the tag, so every further attempt of the queueing layer
inserts one more.
-/

namespace Fvs318g.Verif.BrcmTag

open Kernel Lib Gsw Transmit
open TransmitRuns (lanDev)

/-- The frame in a linear buffer. -/
def frame (m : Memory) (skb : SkBuff) : List UInt8 := bytes m skb.data skb.len

/-- A frame with a tag after the two MAC addresses. -/
def inserted (tag frame : List UInt8) : List UInt8 := frame.take 12 ++ tag ++ frame.drop 12

/-- A frame padded to 60 bytes, with a tag after the two MAC addresses. -/
def tagged (tag frame : List UInt8) : List UInt8 :=
  inserted tag (frame ++ List.replicate (60 - frame.length) 0)

/-- Padding, without the writes. -/
def brcmPad (m : Memory) (skb : SkBuff) : Memory × SkBuff :=
  ((brcmPadTraced ⟨m, []⟩ skb).1.memory, (brcmPadTraced ⟨m, []⟩ skb).2)

/-- Making room for the tag, without the writes. -/
def brcmRoom (m : Memory) (skb : SkBuff) : Memory × SkBuff :=
  ((brcmRoomTraced ⟨m, []⟩ skb).1.memory, (brcmRoomTraced ⟨m, []⟩ skb).2)

/-! ## Padding -/

/-- The buffer has room for the padding. -/
def PadRoom (skb : SkBuff) : Prop := 60 - skb.len ≤ skb.tailroom ∨ 60 - skb.len < skb.headroom

variable {skb : SkBuff}

/-- Bytes that were put at the tail of a linear buffer. -/
theorem linear_put (linear : skb.Linear) {count : Nat} (room : count ≤ skb.tailroom) :
    (skb.put count).Linear := by
  have tail := linear.tail_eq
  have fits := linear.tail_le
  have none := linear.dataLen_eq
  have tailroom : skb.tailroom = skb.endp - skb.tail := by simp [SkBuff.tailroom, none]
  refine ⟨linear.head_le, ?_, ?_, linear.end_lt, linear.dataLen_eq, linear.frags_eq⟩
  · show skb.tail + count = skb.data + (skb.len + count)
    omega
  · show skb.tail + count ≤ skb.endp
    omega

/-- Bytes that were pushed at the head of a linear buffer. -/
theorem linear_push (linear : skb.Linear) {count : Nat} (room : count ≤ skb.headroom) :
    (skb.push count).Linear := by
  have head := linear.head_le
  have tail := linear.tail_eq
  unfold SkBuff.headroom at room
  refine ⟨?_, ?_, linear.tail_le, linear.end_lt, linear.dataLen_eq, linear.frags_eq⟩
  · show skb.head ≤ skb.data - count
    omega
  · show skb.tail = skb.data - count + (skb.len + count)
    omega

variable (m : Memory)

/-- Moving a frame down and clearing behind it appends zeros. -/
theorem frame_moved (skb : SkBuff) (count : Nat) :
    frame (memset (memmove m (skb.data - count) skb.data skb.len) (skb.data - count + skb.len) 0
      count) (skb.push count) = frame m skb ++ List.replicate count 0 := by
  show bytes _ (skb.data - count) (skb.len + count) = _
  rw [bytes_add]
  congr 1
  · apply bytes_congr
    intro i inside
    rw [memset_outside _ _ (by omega), memmove_inside _ _ _ inside]
  · apply bytes_eq_replicate
    intro i inside
    exact memset_inside _ _ _ inside

/-- With room, padding appends zeros up to 60 bytes. -/
theorem brcmPad_room (room : PadRoom skb) : frame (brcmPad m skb).1 (brcmPad m skb).2 =
      frame m skb ++ List.replicate (60 - skb.len) 0 := by
  unfold brcmPad brcmPadTraced
  by_cases short : skb.len < 60
  · rw [if_pos short]
    by_cases tail : skb.tailroom < 60 - skb.len
    · have head : skb.headroom > 60 - skb.len := by
        rcases room with enough | enough
        · omega
        · exact enough
      rw [if_pos tail, if_pos head]
      exact frame_moved ..
    · rw [if_neg tail]
      show bytes _ skb.data (skb.len + (60 - skb.len)) = _
      rw [bytes_add]
      congr 1
      · apply bytes_congr
        intro i inside
        exact memset_outside _ _ (by omega)
      · apply bytes_eq_replicate
        intro i inside
        exact memset_inside _ _ _ inside
  · rw [if_neg short]
    have none : 60 - skb.len = 0 := by omega
    simp [none]

/-- Without room, padding does nothing. -/
theorem brcmPad_none (room : ¬ PadRoom skb) : brcmPad m skb = (m, skb) := by
  unfold PadRoom at room
  have short : skb.len < 60 := by omega
  have tail : skb.tailroom < 60 - skb.len := by omega
  have head : ¬ skb.headroom > 60 - skb.len := by omega
  rw [brcmPad, brcmPadTraced, if_pos short, if_pos tail, if_neg head]

/-- Padding keeps a buffer linear. -/
theorem brcmPad_linear (linear : skb.Linear) : (brcmPad m skb).2.Linear := by
  unfold brcmPad brcmPadTraced
  by_cases short : skb.len < 60
  · rw [if_pos short]
    by_cases tail : skb.tailroom < 60 - skb.len
    · rw [if_pos tail]
      by_cases head : skb.headroom > 60 - skb.len
      · rw [if_pos head]
        exact linear_push linear (by omega)
      · rw [if_neg head]
        exact linear
    · rw [if_neg tail]
      exact linear_put linear (by omega)
  · rw [if_neg short]
    exact linear

/-! ## Room for the tag -/

/-- The buffer has room for the tag. -/
def EndRoom (skb : SkBuff) : Prop := brcmTagSize < skb.tailroom ∨ brcmTagSize < skb.headroom

/-- With room, four bytes are appended. -/
theorem brcmRoom_room (room : EndRoom skb) : (brcmRoom m skb).2.len = skb.len + 4 ∧
      ∃ rest, frame (brcmRoom m skb).1 (brcmRoom m skb).2 = frame m skb ++ rest := by
  unfold brcmRoom brcmRoomTraced
  by_cases tail : skb.tailroom > brcmTagSize
  · rw [if_pos tail]
    exact ⟨rfl, bytes m (skb.data + skb.len) brcmTagSize, bytes_add ..⟩
  · have head : skb.headroom > brcmTagSize := by
      rcases room with enough | enough
      · exact absurd enough tail
      · exact enough
    rw [if_neg tail, if_pos head]
    exact ⟨rfl, _, frame_moved ..⟩

/-- Without room, nothing changes. -/
theorem brcmRoom_none (room : ¬ EndRoom skb) : brcmRoom m skb = (m, skb) := by
  unfold EndRoom at room
  have tail : ¬ skb.tailroom > brcmTagSize := by omega
  have head : ¬ skb.headroom > brcmTagSize := by omega
  rw [brcmRoom, brcmRoomTraced, if_neg tail, if_neg head]

/-- Making room keeps a buffer linear. -/
theorem brcmRoom_linear (linear : skb.Linear) : (brcmRoom m skb).2.Linear := by
  unfold brcmRoom brcmRoomTraced
  split
  · exact linear_put linear (by omega)
  · split
    · exact linear_push linear (by omega)
    · exact linear

/-! ## The buffer before the tag is written -/

/-- What was written before does not matter for the padding. -/
theorem brcmPadTraced_eq (t : Traced) (skb : SkBuff) :
    (brcmPadTraced t skb).1.memory = (brcmPad t.memory skb).1 ∧
      (brcmPadTraced t skb).2 = (brcmPad t.memory skb).2 := by
  simp only [brcmPad, brcmPadTraced]
  split
  · split
    · split
      · exact ⟨rfl, rfl⟩
      · exact ⟨rfl, rfl⟩
    · exact ⟨rfl, rfl⟩
  · exact ⟨rfl, rfl⟩

/-- What was written before does not matter for the room. -/
theorem brcmRoomTraced_eq (t : Traced) (skb : SkBuff) :
    (brcmRoomTraced t skb).1.memory = (brcmRoom t.memory skb).1 ∧
      (brcmRoomTraced t skb).2 = (brcmRoom t.memory skb).2 := by
  unfold brcmRoom brcmRoomTraced
  split
  · exact ⟨rfl, rfl⟩
  · split
    · exact ⟨rfl, rfl⟩
    · exact ⟨rfl, rfl⟩

/-- The buffer in which `brcmTagAdd` writes the tag, with the memory and what was written. -/
def madeTraced (t : Traced) (skb : SkBuff) : Traced × SkBuff :=
  brcmRoomTraced (brcmPadTraced t skb).1 (brcmPadTraced t skb).2

/-- The buffer and memory in which `brcmTagAdd` writes the tag. -/
def made (m : Memory) (skb : SkBuff) : Memory × SkBuff :=
  brcmRoom (brcmPad m skb).1 (brcmPad m skb).2

/-- The two agree. -/
theorem madeTraced_eq (t : Traced) (skb : SkBuff) :
    (madeTraced t skb).1.memory = (made t.memory skb).1 ∧
      (madeTraced t skb).2 = (made t.memory skb).2 := by
  have pad := brcmPadTraced_eq t skb
  have room := brcmRoomTraced_eq (brcmPadTraced t skb).1 (brcmPadTraced t skb).2
  rw [pad.1, pad.2] at room
  rw [madeTraced, pad.2]
  exact room

/-- Padding and making room keep a buffer linear. -/
theorem made_linear (linear : skb.Linear) :
    (made m skb).2.Linear := brcmRoom_linear _ (brcmPad_linear m linear)

/-- Padding and making room keep the frame at the beginning of the buffer. -/
theorem made_extends (skb : SkBuff) :
    ∃ rest, frame (made m skb).1 (made m skb).2 = frame m skb ++ rest := by
  have padded : ∃ rest, frame (brcmPad m skb).1 (brcmPad m skb).2 = frame m skb ++ rest := by
    by_cases room : PadRoom skb
    · exact ⟨_, brcmPad_room m room⟩
    · rw [brcmPad_none m room]
      exact ⟨[], by simp⟩
  obtain ⟨rest, pad⟩ := padded
  by_cases room : EndRoom (brcmPad m skb).2
  · obtain ⟨_, rest', grown⟩ := brcmRoom_room (brcmPad m skb).1 room
    refine ⟨rest ++ rest', ?_⟩
    rw [made, grown, pad, List.append_assoc]
  · rw [made, brcmRoom_none _ room]
    exact ⟨rest, pad⟩

/-- The length of a buffer that starts with a frame. -/
theorem len_le_of_extends {m m' : Memory} {skb skb' : SkBuff} {rest : List UInt8}
    (grown : frame m' skb' = frame m skb ++ rest) : skb.len ≤ skb'.len := by
  have length := congrArg List.length grown
  simp only [frame, length_bytes, List.length_append] at length
  omega

/-- A byte of the frame at the beginning of a buffer. -/
theorem byte_of_extends {m m' : Memory} {skb skb' : SkBuff} {rest : List UInt8}
    (grown : frame m' skb' = frame m skb ++ rest) {i : Nat} (inside : i < skb.len) :
    m' (skb'.data + i) = m (skb.data + i) := by
  have longer := len_le_of_extends grown
  have entry := congrArg (fun l => l[i]?) grown
  simp only [frame] at entry
  rw [List.getElem?_append_left (by simpa using inside), getElem?_bytes _ _ inside,
    getElem?_bytes _ _ (by omega)] at entry
  exact Option.some.inj entry

/-- The destination of the frame at the beginning of a buffer. -/
theorem macAt_of_extends {m m' : Memory} {skb skb' : SkBuff} {rest : List UInt8}
    (grown : frame m' skb' = frame m skb ++ rest) (address : 6 ≤ skb.len) :
    macAt m' skb'.data = macAt m skb.data := by
  have byte : ∀ i, i < 6 → m' (skb'.data + i) = m (skb.data + i) := fun i inside =>
    byte_of_extends grown (by omega)
  have first := byte 0 (by omega)
  rw [macAt, macAt]
  rw [byte 1 (by omega), byte 2 (by omega), byte 3 (by omega), byte 4 (by omega), byte 5 (by omega)]
  simpa using first

/-! ## Writing the tag -/

variable (table : ArlTable)

/-- A tag has four bytes. -/
@[simp] theorem length_brcmTag (mac : MacAddr) : (brcmTag table mac).length = 4 := by
  unfold brcmTag
  split <;> rfl

/-- `brcmTagAdd` from the buffer with its room on. -/
theorem brcmTagAdd_made (skb : SkBuff) :
    let moved := memmove (made m skb).1 ((made m skb).2.data + 16) ((made m skb).2.data + 12)
      (((made m skb).2.len + 2 ^ 32 - 12) % 2 ^ 32)
    brcmTagAdd m table skb =
      (store moved ((made m skb).2.data + 12) (brcmTag table (macAt moved (made m skb).2.data)),
        (made m skb).2) := by
  have same := madeTraced_eq ⟨m, []⟩ skb
  simp only [madeTraced] at same
  simp only [brcmTagAdd, brcmTagAddTraced, Traced.memmove, Traced.store, same.1, same.2]

/-- `brcmTagAdd` writes the tag of the frame's destination over moved memory. -/
theorem brcmTagAdd_tag (address : 6 ≤ skb.len) : brcmTagAdd m table skb =
      (store (memmove (made m skb).1 ((made m skb).2.data + 16) ((made m skb).2.data + 12)
        (((made m skb).2.len + 2 ^ 32 - 12) % 2 ^ 32)) ((made m skb).2.data + 12)
        (brcmTag table (macAt m skb.data)), (made m skb).2) := by
  obtain ⟨rest, grown⟩ := made_extends m skb
  have target : macAt (memmove (made m skb).1 ((made m skb).2.data + 16)
      ((made m skb).2.data + 12) (((made m skb).2.len + 2 ^ 32 - 12) % 2 ^ 32))
        (made m skb).2.data = macAt m skb.data := by
    rw [← macAt_of_extends grown address]
    simp only [macAt]
    rw [memmove_outside _ _ (by omega), memmove_outside _ _ (by omega),
      memmove_outside _ _ (by omega), memmove_outside _ _ (by omega),
      memmove_outside _ _ (by omega), memmove_outside _ _ (by omega)]
  rw [brcmTagAdd_made, target]

/-- The length of the last move, which is computed in unsigned arithmetic. -/
theorem moved_length (linear : skb.Linear) (ethernet : 14 ≤ skb.len) :
    ((made m skb).2.len + 2 ^ 32 - 12) % 2 ^ 32 = (made m skb).2.len - 12 := by
  obtain ⟨rest, grown⟩ := made_extends m skb
  have longer := len_le_of_extends grown
  have linear' := made_linear m linear
  have tail := linear'.tail_eq
  have fits := linear'.tail_le
  have space := linear'.end_lt
  omega

/-- On a linear buffer the move ends with the buffer. -/
theorem brcmTagAdd_eq (linear : skb.Linear) (ethernet : 14 ≤ skb.len) : brcmTagAdd m table skb =
      (store (memmove (made m skb).1 ((made m skb).2.data + 16) ((made m skb).2.data + 12)
        ((made m skb).2.len - 12)) ((made m skb).2.data + 12)
        (brcmTag table (macAt m skb.data)), (made m skb).2) := by
  rw [brcmTagAdd_tag m table (by omega), moved_length m linear ethernet]

/-- What stands in memory after everything behind the MAC addresses was moved up and the tag was
written: the addresses, the tag, and as much of the rest as was moved. -/
theorem bytes_spliced (data : Nat) {moved count : Nat} {tag : List UInt8} (four : tag.length = 4)
    (inside : count ≤ moved) :
    bytes (store (memmove m (data + 16) (data + 12) moved) (data + 12) tag) data (16 + count) =
      bytes m data 12 ++ tag ++ bytes m (data + 12) count := by
  have parts : 16 + count = 12 + (4 + count) := by omega
  rw [parts, bytes_add, bytes_add, ← List.append_assoc]
  congr 1
  · congr 1
    · apply bytes_congr
      intro i low
      rw [store_outside _ _ (by omega), memmove_outside _ _ (by omega)]
    · rw [← four]
      exact bytes_store ..
  · apply bytes_congr
    intro i low
    have place : data + 12 + 4 + i = data + 16 + i := by omega
    rw [place, store_outside _ _ (by omega), memmove_inside _ _ _ (by omega)]

/-- The first byte of the tag is in place, and the byte that was there has moved up. -/
theorem bytes_inserted (skb : SkBuff) (first second third fourth : UInt8) (enough : 12 < skb.len) :
    let m' := store (memmove m (skb.data + 16) (skb.data + 12) (skb.len - 12)) (skb.data + 12)
      [first, second, third, fourth]
    m' (skb.data + 12) = first ∧ m' (skb.data + 16) = m (skb.data + 12) := by
  intro m'
  constructor
  · exact store_inside _ _ [first, second, third, fourth] (i := 0) (by simp)
  · have outside : m' (skb.data + 16) = memmove m (skb.data + 16) (skb.data + 12) (skb.len - 12)
        (skb.data + 16) := store_outside _ _ (.inr (Nat.le_refl _))
    rw [outside]
    exact memmove_inside m (skb.data + 16) (skb.data + 12) (i := 0) (by omega)

/-- The buffer has room for the padding and then for the tag. -/
def TagRoom (skb : SkBuff) : Prop :=
  if 60 - skb.len ≤ skb.tailroom then
    brcmTagSize < skb.tailroom - (60 - skb.len) ∨ brcmTagSize < skb.headroom
  else
    60 - skb.len < skb.headroom ∧
      (brcmTagSize < skb.tailroom ∨ brcmTagSize < skb.headroom - (60 - skb.len))

/-- The two kinds of room, one after the other. -/
theorem tagRoom_iff (linear : skb.Linear) :
    TagRoom skb ↔ PadRoom skb ∧ EndRoom (brcmPad m skb).2 := by
  have none := linear.dataLen_eq
  have tailroom : skb.tailroom = skb.endp - skb.tail := by simp [SkBuff.tailroom, none]
  have headroom : skb.headroom = skb.data - skb.head := rfl
  have pushTail : (skb.push (60 - skb.len)).tailroom = skb.tailroom := rfl
  have pushHead : (skb.push (60 - skb.len)).headroom = skb.headroom - (60 - skb.len) := by
    show skb.data - (60 - skb.len) - skb.head = skb.data - skb.head - (60 - skb.len)
    omega
  have putTail : (skb.put (60 - skb.len)).tailroom = skb.tailroom - (60 - skb.len) := by
    simp only [SkBuff.tailroom, SkBuff.put, none, ne_eq, not_true_eq_false, ↓reduceIte]
    omega
  have putHead : (skb.put (60 - skb.len)).headroom = skb.headroom := rfl
  unfold TagRoom PadRoom EndRoom brcmPad brcmPadTraced
  by_cases short : skb.len < 60
  · by_cases tail : skb.tailroom < 60 - skb.len
    · by_cases head : skb.headroom > 60 - skb.len
      · rw [if_neg (by omega), if_pos short, if_pos tail, if_pos head, pushTail, pushHead]
        omega
      · rw [if_neg (by omega)]
        omega
    · rw [if_pos (by omega), if_pos short, if_neg tail, putTail, putHead]
      omega
  · rw [if_pos (by omega), if_neg short]
    dsimp only
    omega

/-- With room the buffer holds the padded frame with one tag, and is longer by padding and
tag. -/
theorem brcmTagAdd_room (linear : skb.Linear) (ethernet : 14 ≤ skb.len) (room : TagRoom skb) :
    (brcmTagAdd m table skb).2.len = skb.len + (60 - skb.len) + 4 ∧
      frame (brcmTagAdd m table skb).1 (brcmTagAdd m table skb).2 =
        tagged (brcmTag table (macAt m skb.data)) (frame m skb) := by
  have rooms := (tagRoom_iff m linear).mp room
  have pad := brcmPad_room m rooms.1
  obtain ⟨longer, rest, grown⟩ := brcmRoom_room (brcmPad m skb).1 rooms.2
  have length : (brcmPad m skb).2.len = skb.len + (60 - skb.len) := by
    have lengths := congrArg List.length pad
    simpa [frame] using lengths
  have total : (made m skb).2.len = skb.len + (60 - skb.len) + 4 := longer.trans (by rw [length])
  rw [brcmTagAdd_eq m table linear ethernet]
  refine ⟨total, ?_⟩
  have contents : frame (made m skb).1 (made m skb).2 =
      (frame m skb ++ List.replicate (60 - skb.len) 0) ++ rest := by rw [← pad]; exact grown
  have size : (frame m skb ++ List.replicate (60 - skb.len) (0 : UInt8)).length =
      skb.len + (60 - skb.len) := by simp [frame]
  -- what is left of the old end is the padded frame without the MAC addresses
  have ending : bytes (made m skb).1 ((made m skb).2.data + 12) ((made m skb).2.len - 16) =
      (frame m skb ++ List.replicate (60 - skb.len) 0).drop 12 := by
    have whole : ((frame (made m skb).1 (made m skb).2).drop 12).take ((made m skb).2.len - 16) =
        bytes (made m skb).1 ((made m skb).2.data + 12) ((made m skb).2.len - 16) := by
      rw [frame, drop_bytes _ _ (by omega), take_bytes _ _ (by omega)]
    rw [← whole, contents, List.drop_append_of_le_length (by omega),
      List.take_left' (by rw [List.length_drop, size, total]; omega)]
  have start : bytes (made m skb).1 (made m skb).2.data 12 =
      (frame m skb ++ List.replicate (60 - skb.len) 0).take 12 := by
    rw [← take_bytes (made m skb).1 (made m skb).2.data (by omega : 12 ≤ (made m skb).2.len)]
    show (frame (made m skb).1 (made m skb).2).take 12 = _
    rw [contents, List.take_append_of_le_length (by omega)]
  have parts : (made m skb).2.len = 16 + ((made m skb).2.len - 16) := by omega
  have size' : (frame m skb).length = skb.len := length_bytes ..
  rw [tagged, inserted, size', ← start, ← ending, frame]
  dsimp only
  conv_lhs => rw [parts]
  exact bytes_spliced _ _ (length_brcmTag ..) (by omega)

/-- Without room for both the buffer gets no longer than the padded frame. -/
theorem brcmTagAdd_short (linear : skb.Linear) (ethernet : 14 ≤ skb.len) (room : ¬ TagRoom skb) :
    (brcmTagAdd m table skb).2.len ≤ skb.len + (60 - skb.len) := by
  rw [brcmTagAdd_eq m table linear ethernet]
  show (made m skb).2.len ≤ _
  rw [tagRoom_iff m linear] at room
  unfold made
  by_cases padRoom : PadRoom skb
  · have lengths := congrArg List.length (brcmPad_room m padRoom)
    simp only [frame, length_bytes, List.length_append, List.length_replicate] at lengths
    rw [brcmRoom_none _ (fun enough => room ⟨padRoom, enough⟩)]
    exact Nat.le_of_eq lengths
  · have short : skb.tailroom < 60 - skb.len ∧ skb.headroom ≤ 60 - skb.len := by
      unfold PadRoom at padRoom
      omega
    rw [brcmPad_none m padRoom]
    by_cases endRoom : EndRoom skb
    · -- room for the tag but not for the padding: the frame is short enough
      have longer := (brcmRoom_room m endRoom).1
      unfold EndRoom brcmTagSize at endRoom
      dsimp only
      omega
    · rw [brcmRoom_none _ endRoom]
      dsimp only
      omega

/-- Whatever the room, the memory from the beginning of the buffer on holds the frame with one tag
inserted. -/
theorem brcmTagAdd_keeps (linear : skb.Linear) (ethernet : 14 ≤ skb.len) {count : Nat}
    (enough : skb.len + 4 ≤ count) :
    ∃ rest, bytes (brcmTagAdd m table skb).1 (brcmTagAdd m table skb).2.data count =
      inserted (brcmTag table (macAt m skb.data)) (frame m skb) ++ rest := by
  obtain ⟨rest, grown⟩ := made_extends m skb
  have longer := len_le_of_extends grown
  have start : bytes (made m skb).1 (made m skb).2.data 12 = (frame m skb).take 12 := by
    rw [frame, take_bytes _ _ (by omega)]
    exact bytes_congr fun i low => byte_of_extends grown (by omega)
  have ending : bytes (made m skb).1 ((made m skb).2.data + 12) (skb.len - 12) =
      (frame m skb).drop 12 := by
    rw [frame, drop_bytes _ _ (by omega)]
    apply bytes_congr
    intro i low
    rw [Nat.add_assoc, Nat.add_assoc]
    exact byte_of_extends grown (by omega)
  have parts : count = 16 + (skb.len - 12) + (count - (skb.len + 4)) := by omega
  rw [brcmTagAdd_eq m table linear ethernet, parts, bytes_add,
    bytes_spliced _ _ (length_brcmTag ..) (by omega), start, ending]
  exact ⟨_, rfl⟩

/-- The buffer after any call is linear and no shorter, its thirteenth byte is the first of
a tag, and its seventeenth byte is the old thirteenth. -/
theorem brcmTagAdd_bytes (linear : skb.Linear) (ethernet : 14 ≤ skb.len) :
    (brcmTagAdd m table skb).2.Linear ∧ 14 ≤ (brcmTagAdd m table skb).2.len ∧
      (brcmTagAdd m table skb).1 ((brcmTagAdd m table skb).2.data + 12) ≠ 0xff ∧
      (brcmTagAdd m table skb).1 ((brcmTagAdd m table skb).2.data + 16) = m (skb.data + 12) := by
  obtain ⟨rest, grown⟩ := made_extends m skb
  have longer := len_le_of_extends grown
  rw [brcmTagAdd_eq m table linear ethernet]
  refine ⟨made_linear m linear, Nat.le_trans ethernet longer, ?_⟩
  have kept : (made m skb).1 ((made m skb).2.data + 12) = m (skb.data + 12) :=
    byte_of_extends grown (by omega)
  unfold brcmTag
  split
  · have written := bytes_inserted (made m skb).1 (made m skb).2 0x20 0 0
      (UInt8.ofNat (groupPorts table (macAt m skb.data))) (by omega)
    exact ⟨fun same => absurd (written.1.symm.trans same) (by decide), written.2.trans kept⟩
  · have written := bytes_inserted (made m skb).1 (made m skb).2 0 0 0 0 (by omega)
    exact ⟨fun same => absurd (written.1.symm.trans same) (by decide), written.2.trans kept⟩

/-! ## Attempts -/

/-- The attempt finds no free descriptor. -/
def Full (attempt : Attempt) : Prop :=
  attempt.driver.ring.curIndex < starGswMaxTfdNum ∧
    (slot attempt.driver.ring.desc attempt.driver.ring.curIndex).cown = false

/-- The attempt finds a free descriptor. -/
def Free (attempt : Attempt) : Prop :=
  attempt.driver.ring.curIndex < starGswMaxTfdNum ∧
    (slot attempt.driver.ring.desc attempt.driver.ring.curIndex).cown = true

/-- A linear buffer is refused by a full ring. -/
theorem send_full {attempt : Attempt} (full : Full attempt) (linear : skb.Linear)
    (dev : NetDevice) : ∃ driver, starGswSendPacket attempt.driver skb dev = .busy driver := by
  have parts : skb.nrFrags = 0 := by rw [SkBuff.nrFrags, linear.frags_eq, List.length_nil]
  have busy : claim skb dev attempt.driver.ring attempt.driver.ring.curIndex 0 [] 1 =
      .busy attempt.driver.ring := by
    rw [claim, if_pos full.2]
  simp only [starGswSendPacket, parts, Nat.zero_add, busy]
  exact ⟨_, rfl⟩

/-- What the hardware reads of a linear buffer. -/
theorem linear_reads {driver driver' : TxDriver} {dev : NetDevice}
    (cur : driver.ring.curIndex < starGswMaxTfdNum) (linear : skb.Linear)
    (sent : starGswSendPacket driver skb dev = .sent driver') (m : Memory) :
    hwFrame m (slot driver'.ring.desc driver.ring.curIndex) =
      bytes m skb.data (linearLength skb) := by
  have same := Nat.mod_eq_of_lt cur
  have shown := ((send_sent same.symm sent).desc 0 (Nat.succ_pos _)).1
  rw [Nat.add_zero, same] at shown
  have pointer : (slot driver'.ring.desc driver.ring.curIndex).dataPtr = virtToPhys skb.data :=
    congrArg TxSegment.dataPtr shown
  have length : (slot driver'.ring.desc driver.ring.curIndex).length = linearLength skb :=
    congrArg TxSegment.length shown
  have tail := linear.tail_eq
  have fits := linear.tail_le
  have space := linear.end_lt
  rw [hwFrame, pointer, length, physToVirt_virtToPhys _ (by omega)]

/-- A linear buffer is accepted by a ring with a free descriptor, and the hardware reads it
from there. -/
theorem send_free {attempt : Attempt} (free : Free attempt) (linear : skb.Linear)
    (dev : NetDevice) :
    ∃ driver, starGswSendPacket attempt.driver skb dev = .sent driver ∧ ∀ m,
      hwFrame m (slot driver.ring.desc attempt.driver.ring.curIndex) =
        bytes m skb.data (linearLength skb) := by
  have parts : skb.nrFrags = 0 := by rw [SkBuff.nrFrags, linear.frags_eq, List.length_nil]
  have room : ∀ kept, ∃ list, storeFree [] kept = some list := by
    intro kept
    cases kept with
    | none => exact ⟨_, rfl⟩
    | some old =>
      have empty : ([] : List SkBuff).length < maxSkbFrags := by decide
      exact ⟨_, by rw [storeFree, if_pos empty]⟩
  obtain ⟨list, stored⟩ := room (slot attempt.driver.ring.skbPtr attempt.driver.ring.curIndex)
  have owned : ¬ (slot attempt.driver.ring.desc attempt.driver.ring.curIndex).cown = false := by
    rw [free.2]
    decide
  have claimed : ∃ ring, claim skb dev attempt.driver.ring attempt.driver.ring.curIndex 0 [] 1 =
      .claimed ring list := by
    rw [claim, if_neg owned, stored]
    exact ⟨_, rfl⟩
  obtain ⟨ring, claimed⟩ := claimed
  have sent : ∃ driver, starGswSendPacket attempt.driver skb dev = .sent driver := by
    simp only [starGswSendPacket, parts, Nat.zero_add, claimed]
    exact ⟨_, rfl⟩
  obtain ⟨driver, sent⟩ := sent
  exact ⟨driver, sent, linear_reads free.1 linear sent⟩

/-- A refused attempt with snooping on leaves one more tag in the buffer. -/
theorem transmit_full {attempt : Attempt} (full : Full attempt) (rest : List Attempt)
    (dev : NetDevice) (m : Memory) (linear : skb.Linear) (ethernet : 14 ≤ skb.len) :
    transmit true ethLanInt dev (attempt :: rest) m skb =
      transmit true ethLanInt dev rest (brcmTagAdd m attempt.table skb).1
        (brcmTagAdd m attempt.table skb).2 := by
  have after := (brcmTagAdd_bytes m attempt.table linear ethernet).1
  obtain ⟨driver, busy⟩ := send_full full after dev
  simp only [transmit, starGswSendPacketWrapper, and_self, ↓reduceIte, busy]

/-- An accepted attempt with snooping on. -/
theorem transmit_free {attempt : Attempt} (free : Free attempt) (dev : NetDevice) (m : Memory)
    (linear : skb.Linear) (ethernet : 14 ≤ skb.len) : transmit true ethLanInt dev [attempt] m skb =
      some (bytes (brcmTagAdd m attempt.table skb).1 (brcmTagAdd m attempt.table skb).2.data
        (linearLength (brcmTagAdd m attempt.table skb).2)) := by
  have after := (brcmTagAdd_bytes m attempt.table linear ethernet).1
  obtain ⟨driver, sent, reads⟩ := send_free free after dev
  simp only [transmit, starGswSendPacketWrapper, and_self, ↓reduceIte, sent, reads]

/-- The length that the descriptor of a linear buffer carries. -/
theorem linearLength_linear (linear : skb.Linear) :
    linearLength skb = if skb.len < 60 then 60 else skb.len % 2 ^ 16 := by
  have parts : skb.nrFrags = 0 := by rw [SkBuff.nrFrags, linear.frags_eq, List.length_nil]
  have headlen : skb.headlen = skb.len := by rw [SkBuff.headlen, linear.dataLen_eq, Nat.sub_zero]
  simp only [linearLength, parts, headlen, true_and, minPacketLen]

/-- The length of a frame with a tag. -/
theorem length_inserted (tag frame : List UInt8) :
    (inserted tag frame).length = frame.length + tag.length := by
  simp only [inserted, List.length_append, List.length_take, List.length_drop]
  omega

/-- The length of a padded frame with a tag. -/
theorem length_tagged {tag frame : List UInt8} (four : tag.length = 4) :
    (tagged tag frame).length = frame.length + (60 - frame.length) + 4 := by
  rw [tagged, length_inserted, List.length_append, List.length_replicate, four]

/-- The seventeenth byte of a frame with a tag is the thirteenth of the frame. -/
theorem getElem?_inserted {tag frame : List UInt8} (four : tag.length = 4)
    (ethernet : 14 ≤ frame.length) (rest : List UInt8) :
    (inserted tag frame ++ rest)[16]? = frame[12]? := by
  have front : (frame.take 12 ++ tag).length = 16 := by
    rw [List.length_append, List.length_take, four]
    omega
  rw [List.getElem?_append_left (by rw [length_inserted]; omega), inserted,
    List.getElem?_append_right (by omega), front, List.getElem?_drop]

/-- The hardware reads the whole frame and the tag if and only if the frame stays within the length
to which the hardware pads or the buffer has room, and the length fits the descriptor. -/
theorem reads_whole_iff (linear : skb.Linear) (ethernet : 14 ≤ skb.len) :
    skb.len + 4 ≤ linearLength (brcmTagAdd m table skb).2 ↔
      (skb.len ≤ 56 ∨ TagRoom skb) ∧ skb.len + 4 < 2 ^ 16 := by
  rw [linearLength_linear (brcmTagAdd_bytes m table linear ethernet).1]
  by_cases room : TagRoom skb
  · have length := (brcmTagAdd_room m table linear ethernet room).1
    rw [if_neg (by omega), length]
    simp only [room, or_true, true_and]
    omega
  · have length := brcmTagAdd_short m table linear ethernet room
    simp only [room, or_false]
    split
    · omega
    · omega

/-- Once a tag is in the buffer, the frame that is finally sent shows it at the place of the
old thirteenth byte. -/
theorem transmit_again {busy : List Attempt} {last : Attempt} (refused : ∀ a ∈ busy, Full a)
    (accepted : Free last) (dev : NetDevice) {m : Memory} (linear : skb.Linear)
    (ethernet : 14 ≤ skb.len) (tag : m (skb.data + 12) ≠ 0xff) :
    ∃ sent, transmit true ethLanInt dev (busy ++ [last]) m skb = some sent ∧
      sent[16]? ≠ some 0xff := by
  induction busy generalizing m skb with
  | nil =>
    have after := brcmTagAdd_bytes m last.table linear ethernet
    refine ⟨_, transmit_free accepted dev m linear ethernet, ?_⟩
    by_cases inside : 16 < linearLength (brcmTagAdd m last.table skb).2
    · rw [getElem?_bytes _ _ inside, after.2.2.2]
      exact fun same => tag (Option.some.inj same)
    · have beyond : (bytes (brcmTagAdd m last.table skb).1 (brcmTagAdd m last.table skb).2.data
          (linearLength (brcmTagAdd m last.table skb).2))[16]? = none :=
        List.getElem?_eq_none (by rw [length_bytes]; omega)
      rw [beyond]
      simp
  | cons first rest ih =>
    have after := brcmTagAdd_bytes m first.table linear ethernet
    have full := refused first (List.mem_cons_self ..)
    rw [List.cons_append, transmit_full full _ dev m linear ethernet]
    exact ih (fun a member => refused a (List.mem_cons_of_mem _ member)) after.1 after.2.1
      after.2.2.1

/-- The frame given to the hardware has exactly one tag inserted after its MAC addresses, and every
byte of the frame is kept, for all contents of the buffer, if and only if the first attempt is
accepted, the frame has at most 56 bytes or the buffer has room for padding and tag, and the length
fits the descriptor. What follows the frame is padding. -/
theorem one_tag_iff {skb : SkBuff} (linear : skb.Linear) (ethernet : 14 ≤ skb.len)
    (dev : NetDevice) (busy : List Attempt) (last : Attempt) (refused : ∀ a ∈ busy, Full a)
    (accepted : Free last) :
    (∀ m, ∃ rest, transmit true ethLanInt dev (busy ++ [last]) m skb =
      some (inserted (brcmTag last.table (macAt m skb.data)) (frame m skb) ++ rest)) ↔
    busy = [] ∧ (skb.len ≤ 56 ∨ TagRoom skb) ∧ skb.len + 4 < 2 ^ 16 := by
  have size : ∀ m, (frame m skb).length = skb.len := fun m => length_bytes ..
  constructor
  · intro right
    cases busy with
    | nil =>
      -- a single attempt: compare the lengths
      obtain ⟨rest, sent⟩ := right fun _ => 0
      rw [List.nil_append, transmit_free accepted dev _ linear ethernet] at sent
      have lengths := congrArg List.length (Option.some.inj sent)
      rw [length_bytes, List.length_append, length_inserted, length_brcmTag, size] at lengths
      exact ⟨rfl, (reads_whole_iff (fun _ => 0) last.table linear ethernet).mp (by omega)⟩
    | cons first rest =>
      -- a second tag shows at the seventeenth byte of a buffer full of 0xff
      obtain ⟨behind, sent⟩ := right fun _ => 0xff
      have after := brcmTagAdd_bytes (fun _ => 0xff) first.table linear ethernet
      have full := refused first (List.mem_cons_self ..)
      rw [List.cons_append, transmit_full full _ dev _ linear ethernet] at sent
      obtain ⟨shown, again, different⟩ := transmit_again
        (fun a member => refused a (List.mem_cons_of_mem _ member)) accepted dev after.1
        after.2.1 after.2.2.1
      rw [again] at sent
      rw [Option.some.inj sent, getElem?_inserted (length_brcmTag ..)
        (by rw [size]; exact ethernet), frame, getElem?_bytes _ _ (by omega)] at different
      exact absurd rfl different
  · rintro ⟨rfl, fits⟩ m
    have whole := (reads_whole_iff m last.table linear ethernet).mpr fits
    obtain ⟨rest, contents⟩ := brcmTagAdd_keeps m last.table linear ethernet whole
    refine ⟨rest, ?_⟩
    rw [List.nil_append, transmit_free accepted dev m linear ethernet, contents]

/-- A linear buffer with a frame of 60 bytes and room on both sides. -/
def linearSkb : SkBuff where
  id := 0
  head := 0xC0100000
  data := 0xC0100040
  tail := 0xC010007C
  endp := 0xC0100100
  len := 60
  dataLen := 0
  macRaw := 0xC0100040
  protocol := ethPIp
  ipProtocol := ipprotoTcp
  frags := []
  frags_le := Nat.zero_le _

/-- The buffer is linear. -/
theorem linearSkb_linear : linearSkb.Linear := by
  constructor <;> decide

/-- A driver whose descriptors are all with the hardware, with transmit DMA running. -/
def fullDriver : TxDriver :=
  { txInit.driver with
    ring := { txRingAlloc with desc := Vector.replicate starGswMaxTfdNum {} }, tsDma := true }

/-- An attempt that meets a ring full of unsent frames. -/
def refusedAttempt : Attempt := ⟨fullDriver, fun _ => 0⟩

/-- An attempt that meets an empty ring. -/
def acceptedAttempt : Attempt := ⟨txInit.driver, fun _ => 0⟩

/-- A frame of 42 bytes in a buffer without room for padding and tag. -/
def shortSkb : SkBuff where
  id := 0
  head := 0xC0100000
  data := 0xC0100010
  tail := 0xC010003A
  endp := 0xC010003F
  len := 42
  dataLen := 0
  macRaw := 0xC0100010
  protocol := ethPIp
  ipProtocol := ipprotoTcp
  frags := []
  frags_le := Nat.zero_le _

/-- The law for a frame that is accepted at once: with room, and for a short one without. -/
theorem one_tag_accepted_at_once :
    (∃ rest, transmit true ethLanInt lanDev [acceptedAttempt] (fun _ => 0xff) linearSkb =
      some (inserted [0, 0, 0, 0] (List.replicate 60 0xff) ++ rest)) ∧
    ¬ TagRoom shortSkb ∧
    ∃ rest, transmit true ethLanInt lanDev [acceptedAttempt] (fun _ => 0xff) shortSkb =
      some (inserted [0, 0, 0, 0] (List.replicate 42 0xff) ++ rest) := by
  have free : Free acceptedAttempt := ⟨by decide, by decide +kernel⟩
  have room : TagRoom linearSkb := by unfold TagRoom; decide
  have short : shortSkb.Linear := by constructor <;> decide
  have none : ∀ a ∈ ([] : List Attempt), Full a := fun a member => absurd member List.not_mem_nil
  refine ⟨?_, by unfold TagRoom; decide, ?_⟩
  · exact (one_tag_iff linearSkb_linear (by decide) lanDev [] acceptedAttempt none free).mpr
      ⟨rfl, .inr room, by decide⟩ fun _ => 0xff
  · exact (one_tag_iff short (by decide) lanDev [] acceptedAttempt none free).mpr
      ⟨rfl, .inl (by decide), by decide⟩ fun _ => 0xff

/-- One busy result, and the frame goes out with two tags. -/
theorem two_tags_after_busy :
    Full refusedAttempt ∧ Free acceptedAttempt ∧
    transmit true ethLanInt lanDev [refusedAttempt, acceptedAttempt] (fun _ => 0xff) linearSkb =
      some (List.replicate 12 0xff ++ [0, 0, 0, 0] ++ [0, 0, 0, 0] ++ List.replicate 48 0xff) ∧
    ∀ tag rest : List UInt8, tag.length = 4 →
      transmit true ethLanInt lanDev [refusedAttempt, acceptedAttempt] (fun _ => 0xff) linearSkb ≠
        some (inserted tag (frame (fun _ => 0xff) linearSkb) ++ rest) := by
  have sent : transmit true ethLanInt lanDev [refusedAttempt, acceptedAttempt] (fun _ => 0xff)
      linearSkb = some (List.replicate 12 0xff ++ [0, 0, 0, 0] ++ [0, 0, 0, 0] ++
        List.replicate 48 0xff) := by decide +kernel
  refine ⟨⟨by decide, by decide +kernel⟩, ⟨by decide, by decide +kernel⟩, sent, ?_⟩
  intro tag rest four same
  have length : (frame (fun _ => 0xff) linearSkb).length = 60 := length_bytes ..
  rw [sent] at same
  have shown := congrArg (fun l => l[16]?) (Option.some.inj same)
  rw [getElem?_inserted four (by omega), frame,
    getElem?_bytes _ _ (by decide : 12 < linearSkb.len)] at shown
  exact absurd shown (by decide)

end Fvs318g.Verif.BrcmTag
