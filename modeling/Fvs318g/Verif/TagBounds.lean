import Fvs318g.Verif.BrcmTag

/-!
# What `brcmTagAdd` writes

The last move of `brcmTagAdd` shifts everything behind the MAC addresses up by four bytes, and
takes its length from a buffer that has already grown by the tag. It moves four bytes too many,
so it ends four bytes behind the end of the data. The buffer holds that only with four bytes of
tailroom left after the tag was made room for; a buffer with less is written past its end. With
neither tailroom nor headroom for the tag, the data does not grow at all.
-/

namespace Fvs318g.Verif.TagBounds

open Kernel Lib Gsw BrcmTag

/-! ## The ranges -/

variable {skb : SkBuff}

/-- Padding writes inside the buffer. -/
theorem brcmPadTraced_inside {t : Traced} (linear : skb.Linear)
    (inside : RangesIn t.writes skb.head skb.endp) :
    RangesIn (brcmPadTraced t skb).1.writes skb.head skb.endp := by
  have head := linear.head_le
  have tail := linear.tail_eq
  have fits := linear.tail_le
  have tailroom : skb.tailroom = skb.endp - skb.tail := by
    simp [SkBuff.tailroom, linear.dataLen_eq]
  have headroom : skb.headroom = skb.data - skb.head := rfl
  unfold brcmPadTraced
  by_cases short : skb.len < 60
  · rw [if_pos short]
    by_cases little : skb.tailroom < 60 - skb.len
    · rw [if_pos little]
      by_cases down : skb.headroom > 60 - skb.len
      · rw [if_pos down]
        refine rangesIn_cons.mpr ⟨.inr (by omega), ?_⟩
        exact rangesIn_cons.mpr ⟨.inr (by omega), inside⟩
      · rw [if_neg down]
        exact inside
    · rw [if_neg little]
      exact rangesIn_cons.mpr ⟨.inr (by omega), inside⟩
  · rw [if_neg short]
    exact inside

/-- Making room writes inside the buffer. -/
theorem brcmRoomTraced_inside {t : Traced} (linear : skb.Linear)
    (inside : RangesIn t.writes skb.head skb.endp) :
    RangesIn (brcmRoomTraced t skb).1.writes skb.head skb.endp := by
  have head := linear.head_le
  have tail := linear.tail_eq
  have fits := linear.tail_le
  have headroom : skb.headroom = skb.data - skb.head := rfl
  unfold brcmRoomTraced
  by_cases up : skb.tailroom > brcmTagSize
  · rw [if_pos up]
    exact inside
  · rw [if_neg up]
    by_cases down : skb.headroom > brcmTagSize
    · rw [if_pos down]
      simp only [brcmTagSize] at down ⊢
      refine rangesIn_cons.mpr ⟨.inr (by omega), ?_⟩
      exact rangesIn_cons.mpr ⟨.inr (by omega), inside⟩
    · rw [if_neg down]
      exact inside

variable (m : Memory)

/-- The buffer itself stays where it is. -/
theorem brcmPad_ends (skb : SkBuff) :
    (brcmPad m skb).2.head = skb.head ∧ (brcmPad m skb).2.endp = skb.endp := by
  simp only [brcmPad, brcmPadTraced]
  split
  · split
    · split
      · exact ⟨rfl, rfl⟩
      · exact ⟨rfl, rfl⟩
    · exact ⟨rfl, rfl⟩
  · exact ⟨rfl, rfl⟩

/-- Making room leaves the buffer where it is. -/
theorem made_ends (skb : SkBuff) :
    (made m skb).2.head = skb.head ∧ (made m skb).2.endp = skb.endp := by
  rw [← (brcmPad_ends m skb).1, ← (brcmPad_ends m skb).2]
  unfold made brcmRoom brcmRoomTraced
  split
  · exact ⟨rfl, rfl⟩
  · split
    · exact ⟨rfl, rfl⟩
    · exact ⟨rfl, rfl⟩

/-- All that is written before the last move lies inside the buffer. -/
theorem madeTraced_inside {t : Traced} (linear : skb.Linear)
    (inside : RangesIn t.writes skb.head skb.endp) :
    RangesIn (madeTraced t skb).1.writes skb.head skb.endp := by
  have padded := brcmPadTraced_inside linear inside
  have same := (brcmPadTraced_eq t skb).2
  have ends := brcmPad_ends t.memory skb
  have linear' : (brcmPadTraced t skb).2.Linear := by
    rw [same]
    exact brcmPad_linear t.memory linear
  rw [← ends.1, ← ends.2, ← same] at padded ⊢
  exact brcmRoomTraced_inside linear' padded

/-- The writes of the function: the tag, the last move, and what was written before. -/
theorem writes_eq (table : ArlTable) (linear : skb.Linear) (ethernet : 14 ≤ skb.len) :
    (brcmTagAddTraced ⟨m, []⟩ table skb).1.writes =
      ((made m skb).2.data + 12, 4) ::
        ((made m skb).2.data + 16, (made m skb).2.len - 12) ::
          (madeTraced ⟨m, []⟩ skb).1.writes := by
  have same : (madeTraced ⟨m, []⟩ skb).2 = (made m skb).2 := (madeTraced_eq ⟨m, []⟩ skb).2
  rw [← moved_length m linear ethernet, ← same]
  simp only [brcmTagAddTraced, madeTraced, Traced.store, Traced.memmove, length_brcmTag]

/-- All writes lie inside the buffer if and only if four bytes of tailroom are left behind the
room for the tag. -/
theorem inside_iff (table : ArlTable) (linear : skb.Linear) (ethernet : 14 ≤ skb.len) :
    RangesIn (brcmTagAddTraced ⟨m, []⟩ table skb).1.writes skb.head skb.endp ↔
      4 ≤ (made m skb).2.tailroom := by
  have before : RangesIn (madeTraced ⟨m, []⟩ skb).1.writes skb.head skb.endp :=
    madeTraced_inside linear (fun range written => absurd written List.not_mem_nil)
  obtain ⟨rest, grown⟩ := made_extends m skb
  have longer := len_le_of_extends grown
  have linear' := made_linear m linear
  have head := linear'.head_le
  have tail := linear'.tail_eq
  have fits := linear'.tail_le
  have ends := made_ends m skb
  have tailroom : (made m skb).2.tailroom = (made m skb).2.endp - (made m skb).2.tail := by
    simp [SkBuff.tailroom, linear'.dataLen_eq]
  rw [writes_eq m table linear ethernet, rangesIn_cons, rangesIn_cons]
  simp only [before, and_true]
  omega

/-! ## Room -/

/-- The room that the tag needs, with what is left after padding: both branches leave four
bytes of tailroom behind the room for the tag. -/
def TagSpace (tailroom headroom : Nat) : Prop := 8 ≤ tailroom ∨ tailroom = 4 ∧ 4 < headroom

/-- The room that padding and tag need. -/
def TagFits (skb : SkBuff) : Prop :=
  if 60 - skb.len ≤ skb.tailroom then TagSpace (skb.tailroom - (60 - skb.len)) skb.headroom
  else 60 - skb.len < skb.headroom ∧ TagSpace skb.tailroom (skb.headroom - (60 - skb.len))

/-- Tailroom after padding. -/
theorem brcmPad_tailroom (linear : skb.Linear) : (brcmPad m skb).2.tailroom =
      if 60 - skb.len ≤ skb.tailroom then skb.tailroom - (60 - skb.len) else skb.tailroom := by
  have putTail : (skb.put (60 - skb.len)).tailroom = skb.tailroom - (60 - skb.len) := by
    simp only [SkBuff.tailroom, SkBuff.put, linear.dataLen_eq, ne_eq, not_true_eq_false, ↓reduceIte]
    omega
  simp only [brcmPad, brcmPadTraced]
  by_cases short : skb.len < 60
  · by_cases tail : skb.tailroom < 60 - skb.len
    · have little : ¬60 - skb.len ≤ skb.tailroom := by omega
      rw [if_pos short, if_pos tail, if_neg little]
      split
      · rfl
      · rfl
    · rw [if_pos short, if_neg tail, if_pos (by omega)]
      exact putTail
  · rw [if_neg short, if_pos (by omega)]
    dsimp only
    omega

/-- Tailroom after the room for the tag was made. -/
theorem brcmRoom_tailroom (linear : skb.Linear) : (brcmRoom m skb).2.tailroom =
      if brcmTagSize < skb.tailroom then skb.tailroom - brcmTagSize else skb.tailroom := by
  unfold brcmRoom brcmRoomTraced
  by_cases up : skb.tailroom > brcmTagSize
  · rw [if_pos up, if_pos up]
    simp only [SkBuff.tailroom, SkBuff.put, linear.dataLen_eq, ne_eq, not_true_eq_false, ↓reduceIte]
    omega
  · rw [if_neg up, if_neg up]
    split
    · rfl
    · rfl

/-- The data grows by padding and tag, and nothing is written behind the buffer, if and only if
the room fits. -/
theorem tagFits_iff (linear : skb.Linear) :
    TagFits skb ↔ TagRoom skb ∧ 4 ≤ (made m skb).2.tailroom := by
  have pad := brcmPad_tailroom m linear
  have room := brcmRoom_tailroom (brcmPad m skb).1 (brcmPad_linear m linear)
  rw [made, room, pad]
  unfold TagFits TagRoom TagSpace
  simp only [brcmTagSize]
  by_cases enough : 60 - skb.len ≤ skb.tailroom
  · simp only [if_pos enough]
    split <;> omega
  · simp only [if_neg enough]
    split <;> omega

/-! ## The function -/

/-- What one call of `brcmTagAdd` should do: report success with the tag inserted and nothing
written outside of the buffer, or report a failure and change nothing. -/
def TagInserted (m : Memory) (table : ArlTable) (skb : SkBuff) : Prop :=
  let (t, skb', result) := brcmTagAddTraced ⟨m, []⟩ table skb
  (result = 0 ∧ frame t.memory skb' = tagged (brcmTag table (macAt m skb.data)) (frame m skb) ∧
      RangesIn t.writes skb.head skb.endp) ∨
    (result ≠ 0 ∧ skb'.data = skb.data ∧ skb'.len = skb.len ∧ frame t.memory skb' = frame m skb)

/-- The tag is inserted exactly, inside the buffer, if and only if the room fits. -/
theorem tag_inserted_iff (m : Memory) (table : ArlTable) {skb : SkBuff} (linear : skb.Linear)
    (ethernet : 14 ≤ skb.len) : TagInserted m table skb ↔ TagFits skb := by
  have result : (brcmTagAddTraced ⟨m, []⟩ table skb).2.2 = 0 := rfl
  have exact_iff : frame (brcmTagAdd m table skb).1 (brcmTagAdd m table skb).2 =
      tagged (brcmTag table (macAt m skb.data)) (frame m skb) ↔ TagRoom skb := by
    constructor
    · intro same
      by_contra short
      have shorter := brcmTagAdd_short m table linear ethernet short
      have lengths := congrArg List.length same
      rw [length_tagged (length_brcmTag ..)] at lengths
      simp only [frame, length_bytes] at lengths
      omega
    · exact fun room => (brcmTagAdd_room m table linear ethernet room).2
  rw [tagFits_iff m linear, ← exact_iff, ← inside_iff m table linear ethernet]
  simp only [TagInserted, brcmTagAdd, result, ne_eq, not_true_eq_false, false_and, or_false,
    true_and]

/-- The law at a buffer with room on both sides. -/
theorem tag_inserted_with_room : TagInserted (fun _ => 0xff) (fun _ => 0) linearSkb := by
  have fits : TagFits linearSkb := by
    unfold TagFits TagSpace
    decide
  exact (tag_inserted_iff _ _ linearSkb_linear (by decide)).mpr fits

/-- A full-sized frame that leaves two bytes of tailroom. -/
def tightSkb : SkBuff where
  id := 0
  head := 0xC0100000
  data := 0xC0100012
  tail := 0xC01005FC
  endp := 0xC01005FE
  len := 1514
  dataLen := 0
  macRaw := 0xC0100012
  protocol := ethPIp
  ipProtocol := ipprotoTcp
  frags := []
  frags_le := Nat.zero_le _

/-- The last move writes past the end of a buffer with little tailroom, and reports success. -/
theorem tag_written_past_end : ¬∀ (m : Memory) (table : ArlTable) (skb : SkBuff),
    skb.Linear → 14 ≤ skb.len → TagInserted m table skb := by
  intro always
  have linear : tightSkb.Linear := by constructor <;> decide
  have inserted := always (fun _ => 0) (fun _ => 0) tightSkb linear (by decide)
  have fits := (tag_inserted_iff _ _ linear (by decide)).mp inserted
  have misfit : ¬TagFits tightSkb := by
    unfold TagFits TagSpace
    decide
  exact misfit fits

end Fvs318g.Verif.TagBounds
