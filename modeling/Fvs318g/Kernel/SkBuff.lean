import Mathlib.Data.Nat.Bitwise

/-!
# Socket buffers

`struct sk_buff` as the drivers use it: the four pointers into one linear buffer, the
lengths, the page fragments of a scattered buffer and the header fields that the transmit
path reads. Pointers are natural numbers; the bytes they point to live in a separate
memory. Fields that no modelled function reads are left out.
-/

namespace Fvs318g.Kernel

/-- `PAGE_SIZE` of the ARM port. -/
def pageSize : Nat := 4096

/-- `MAX_SKB_FRAGS`: the capacity of `skb_shinfo(skb)->frags`. -/
def maxSkbFrags : Nat := 65536 / pageSize + 2

/-- `PAGE_OFFSET`: the virtual address of the start of memory. -/
def pageOffset : Nat := 0xC0000000

/-- `PHYS_OFFSET`: the physical address of the start of memory. -/
def physOffset : Nat := 0x00000000

/-- `virt_to_phys`, in 32-bit unsigned arithmetic. -/
def virtToPhys (x : Nat) : Nat := (x + (2 ^ 32 - pageOffset) + physOffset) % 2 ^ 32

/-- `phys_to_virt`, in 32-bit unsigned arithmetic. -/
def physToVirt (x : Nat) : Nat := (x + (2 ^ 32 - physOffset) + pageOffset) % 2 ^ 32

/-- The two translations are inverse on 32-bit addresses. -/
theorem physToVirt_virtToPhys (x : Nat) (fits : x < 2 ^ 32) : physToVirt (virtToPhys x) = x := by
  unfold physToVirt virtToPhys pageOffset physOffset
  omega

/-- `htons` and `ntohs` on a little-endian machine: the two bytes change places. -/
def htons (x : UInt16) : UInt16 := (x <<< 8) ||| (x >>> 8)

/-- The value after the exchange of the two bytes. -/
theorem toNat_htons (x : UInt16) : (htons x).toNat = x.toNat % 256 * 256 + x.toNat / 256 := by
  have bound : x.toNat < 65536 := x.toNat_lt
  have left : x.toNat <<< 8 % 2 ^ 16 = (x.toNat % 256) <<< 8 := by
    rw [Nat.shiftLeft_eq, Nat.shiftLeft_eq]
    omega
  have right : x.toNat >>> 8 < 2 ^ 8 := by
    rw [Nat.shiftRight_eq_div_pow]
    omega
  unfold htons
  rw [UInt16.toNat_or, UInt16.toNat_shiftLeft, UInt16.toNat_shiftRight]
  show x.toNat <<< 8 % 2 ^ 16 ||| x.toNat >>> 8 = _
  rw [left, ← Nat.shiftLeft_add_eq_or_of_lt right, Nat.shiftLeft_eq, Nat.shiftRight_eq_div_pow]

/-- Network order of network order is host order. -/
@[simp]
theorem htons_htons (x : UInt16) : htons (htons x) = x := by
  have bound : x.toNat < 65536 := x.toNat_lt
  apply UInt16.toNat_inj.mp
  rw [toNat_htons, toNat_htons]
  omega

/-- `skb_frag_t`: a part of a page. -/
structure SkbFrag where
  /-- `page_address(frag->page)`. -/
  pageAddress : Nat
  /-- `frag->page_offset`. -/
  pageOffset : Nat
  /-- `frag->size`. -/
  size : Nat
  deriving DecidableEq, Repr

/-- `struct sk_buff`. -/
structure SkBuff where
  /-- The identity of the buffer: no two allocations share it. -/
  id : Nat
  /-- Start of the linear buffer. -/
  head : Nat
  /-- Start of the data. -/
  data : Nat
  /-- End of the data. -/
  tail : Nat
  /-- End of the linear buffer. -/
  endp : Nat
  /-- Length of all the data. -/
  len : Nat
  /-- Length of the data held in page fragments. -/
  dataLen : Nat
  /-- `skb->mac.raw`: start of the link-layer header. -/
  macRaw : Nat
  /-- `skb->protocol`, in network order. -/
  protocol : UInt16
  /-- `skb->nh.iph->protocol`. -/
  ipProtocol : UInt8
  /-- `skb_shinfo(skb)->frags`. -/
  frags : List SkbFrag
  /-- The fragments fit the array that holds them. -/
  frags_le : frags.length ≤ maxSkbFrags
  deriving DecidableEq, Repr

namespace SkBuff

/-- `skb_shinfo(skb)->nr_frags`. -/
def nrFrags (skb : SkBuff) : Nat := skb.frags.length

/-- `skb_headlen`: the bytes in the linear buffer. -/
def headlen (skb : SkBuff) : Nat := skb.len - skb.dataLen

/-- `skb_headroom`. -/
def headroom (skb : SkBuff) : Nat := skb.data - skb.head

/-- `skb_tailroom`: none for a buffer with fragments. -/
def tailroom (skb : SkBuff) : Nat := if skb.dataLen ≠ 0 then 0 else skb.endp - skb.tail

/-- `skb_put`, called with enough tailroom. -/
def put (skb : SkBuff) (count : Nat) : SkBuff :=
  { skb with tail := skb.tail + count, len := skb.len + count }

/-- `skb_push`, called with enough headroom. -/
def push (skb : SkBuff) (count : Nat) : SkBuff :=
  { skb with data := skb.data - count, len := skb.len + count }

/-- `skb_pull`: a request beyond the data changes nothing. -/
def pull (skb : SkBuff) (count : Nat) : SkBuff :=
  if skb.len < count then skb
  else { skb with data := skb.data + count, len := skb.len - count }

/-- `skb_reserve`, on an empty buffer. -/
def reserve (skb : SkBuff) (count : Nat) : SkBuff :=
  { skb with data := skb.data + count, tail := skb.tail + count }

/-- The memory of two buffers does not overlap. -/
def Apart (a b : SkBuff) : Prop := a.endp ≤ b.head ∨ b.endp ≤ a.head

instance (a b : SkBuff) : Decidable (a.Apart b) := inferInstanceAs (Decidable (_ ∨ _))

/-- Disjointness is symmetric. -/
theorem Apart.symm {a b : SkBuff} (apart : a.Apart b) : b.Apart a := Or.symm apart

/-- A buffer without fragments whose pointers are in order, inside 32-bit memory. -/
structure Linear (skb : SkBuff) : Prop where
  /-- The data starts inside the buffer. -/
  head_le : skb.head ≤ skb.data
  /-- The length is the distance of the data pointers. -/
  tail_eq : skb.tail = skb.data + skb.len
  /-- The data ends inside the buffer. -/
  tail_le : skb.tail ≤ skb.endp
  /-- The buffer lies in the address space. -/
  end_lt : skb.endp < 2 ^ 32
  /-- No bytes are held in fragments. -/
  dataLen_eq : skb.dataLen = 0
  /-- There are no fragments. -/
  frags_eq : skb.frags = []

end SkBuff

/-- `dev_alloc_skb` when the allocator answers with memory at `head`: an empty buffer with
16 bytes of headroom built in. -/
def devAllocSkb (id head length : Nat) : SkBuff where
  id := id
  head := head
  data := head + 16
  tail := head + 16
  endp := head + 16 + length
  len := 0
  dataLen := 0
  macRaw := 0
  protocol := 0
  ipProtocol := 0
  frags := []
  frags_le := Nat.zero_le _

end Fvs318g.Kernel
