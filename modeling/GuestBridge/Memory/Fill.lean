import GuestBridge.Memory.Basic

/-! # Filling guest memory

A range of guest memory is filled with one value by `Memory.fill`, which replaces whole pages at
once, so that large ranges are filled quickly. Its view is that of a store: each address of the
range holds the value and nothing else changes (`Memory.byte_fill`). The checked access
`Memory.wipe?` overwrites a region with zeros and succeeds exactly on the regions that lie inside
the memory.
-/

namespace GuestBridge.Memory

/-- The memory with a range filled byte by byte. -/
def fillBytes (memory : Memory) (value : UInt8) (address : Nat) : (length : Nat) → Memory
  | 0 => memory
  | length + 1 => (memory.setByte address value).fillBytes value (address + 1) length

/-- The memory with one page replaced; nothing changes outside the memory. -/
def setPage (memory : Memory) (index : Nat) (page : Page) : Memory :=
  { memory with pages := memory.pages.setIfInBounds index page }

/-- The memory with a run of pages replaced, all by the same one. -/
def setPages (memory : Memory) (page : Page) (index : Nat) : (count : Nat) → Memory
  | 0 => memory
  | count + 1 => (memory.setPage index page).setPages page (index + 1) count

/-- How many bytes of a range lie before the next start of a page. -/
def headLength (address length : Nat) : Nat :=
  min length ((pageSize - address % pageSize) % pageSize)

/-- The memory with a range filled with a value; nothing changes outside the memory. -/
def fill (memory : Memory) (address length : Nat) (value : UInt8) : Memory :=
  let head := headLength address length
  let count := (length - head) / pageSize
  let filled := memory.fillBytes value address head
  if count = 0 then filled.fillBytes value (address + head) (length - head)
  else
    (filled.setPages (Page.constant value) ((address + head) / pageSize) count).fillBytes value
      (address + head + count * pageSize) (length - head - count * pageSize)

/-- The memory with a region overwritten by zeros, if the region lies inside it. -/
def wipe? (memory : Memory) (region : Region) : Option Memory :=
  if memory.Holds region then some (memory.fill region.ptr.toNat region.len.toNat 0) else none

/-! ## The view -/

@[simp] theorem size_fillBytes (memory : Memory) (value : UInt8) (address length : Nat) :
    (memory.fillBytes value address length).size = memory.size := by
  induction length generalizing memory address with
  | zero => rfl
  | succ length ih => rw [fillBytes, ih, size_setByte]

@[simp] theorem pageLimit_fillBytes (memory : Memory) (value : UInt8) (address length : Nat) :
    (memory.fillBytes value address length).pageLimit = memory.pageLimit := by
  induction length generalizing memory address with
  | zero => rfl
  | succ length ih => rw [fillBytes, ih, pageLimit_setByte]

theorem byte_fillBytes (memory : Memory) (value : UInt8) (address length other : Nat) :
    (memory.fillBytes value address length).byte other =
      if address ≤ other ∧ other < address + length ∧ other < memory.size then value
      else memory.byte other := by
  induction length generalizing memory address with
  | zero => rw [fillBytes, if_neg (by omega)]
  | succ length ih =>
    rw [fillBytes, ih, byte_setByte, size_setByte]
    by_cases later : address + 1 ≤ other ∧ other < address + 1 + length ∧ other < memory.size
    · rw [if_pos later, if_pos (by omega)]
    · rw [if_neg later]
      by_cases here : address = other ∧ address < memory.size
      · rw [if_pos here, if_pos (by omega)]
      · rw [if_neg here, if_neg (by omega)]

@[simp] theorem size_setPage (memory : Memory) (index : Nat) (page : Page) :
    (memory.setPage index page).size = memory.size := by
  simp [size, setPage]

@[simp] theorem pageLimit_setPage (memory : Memory) (index : Nat) (page : Page) :
    (memory.setPage index page).pageLimit = memory.pageLimit := rfl

/-- A new page determines the bytes at its addresses and no others. -/
theorem byte_setPage (memory : Memory) (index : Nat) (page : Page) (other : Nat) :
    (memory.setPage index page).byte other =
      if other / pageSize = index ∧ other < memory.size then
        page.get (other % pageSize) (Nat.mod_lt _ (by decide))
      else memory.byte other := by
  have inside : other < memory.size ↔ other / pageSize < memory.pages.size :=
    (Nat.div_lt_iff_lt_mul (by decide)).symm
  unfold byte setPage
  simp only [Array.size_setIfInBounds, inside]
  by_cases bound : other / pageSize < memory.pages.size
  · by_cases here : other / pageSize = index
    · subst here
      simp [bound]
    · simp [bound, here, Ne.symm here]
  · simp [bound]

@[simp] theorem size_setPages (memory : Memory) (page : Page) (index count : Nat) :
    (memory.setPages page index count).size = memory.size := by
  induction count generalizing memory index with
  | zero => rfl
  | succ count ih => rw [setPages, ih, size_setPage]

@[simp] theorem pageLimit_setPages (memory : Memory) (page : Page) (index count : Nat) :
    (memory.setPages page index count).pageLimit = memory.pageLimit := by
  induction count generalizing memory index with
  | zero => rfl
  | succ count ih => rw [setPages, ih, pageLimit_setPage]

theorem byte_setPages (memory : Memory) (page : Page) (index count other : Nat) :
    (memory.setPages page index count).byte other =
      if index ≤ other / pageSize ∧ other / pageSize < index + count ∧ other < memory.size then
        page.get (other % pageSize) (Nat.mod_lt _ (by decide))
      else memory.byte other := by
  induction count generalizing memory index with
  | zero => rw [setPages, if_neg (by omega)]
  | succ count ih =>
    rw [setPages, ih, byte_setPage, size_setPage]
    by_cases later : index + 1 ≤ other / pageSize ∧ other / pageSize < index + 1 + count ∧
        other < memory.size
    · rw [if_pos later, if_pos (by omega)]
    · rw [if_neg later]
      by_cases here : other / pageSize = index ∧ other < memory.size
      · rw [if_pos here, if_pos (by omega)]
      · rw [if_neg here, if_neg (by omega)]

@[simp] theorem size_fill (memory : Memory) (address length : Nat) (value : UInt8) :
    (memory.fill address length value).size = memory.size := by
  rw [fill]
  split <;> simp

@[simp] theorem pageLimit_fill (memory : Memory) (address length : Nat) (value : UInt8) :
    (memory.fill address length value).pageLimit = memory.pageLimit := by
  rw [fill]
  split <;> simp

/-- Two ways to one value are one condition. -/
private theorem ite_either {α : Type} (first second : Prop) [Decidable first] [Decidable second]
    (value other : α) :
    (if first then value else if second then value else other) =
      if first ∨ second then value else other := by
  by_cases first <;> simp [*]

/-- After a range is filled, each address of it that is inside the memory holds the value, and all
others hold what they held before. -/
theorem byte_fill (memory : Memory) (address length other : Nat) (value : UInt8) :
    (memory.fill address length value).byte other =
      if address ≤ other ∧ other < address + length ∧ other < memory.size then value
      else memory.byte other := by
  have head : headLength address length ≤ length := Nat.min_le_left ..
  have boundary : headLength address length = length ∨
      (address + headLength address length) % pageSize = 0 := by
    simp only [headLength, pageSize]
    omega
  rw [fill]
  split
  · simp only [byte_fillBytes, size_fillBytes, ite_either]
    exact ite_congr (propext (by omega)) (fun _ => rfl) fun _ => rfl
  · next whole =>
    have aligned : (address + headLength address length) % pageSize = 0 := by
      rcases boundary with same | aligned
      · rw [same, Nat.sub_self, Nat.zero_div] at whole
        exact absurd rfl whole
      · exact aligned
    simp only [byte_fillBytes, size_fillBytes, byte_setPages, size_setPages, Page.get_constant,
      ite_either]
    refine ite_congr (propext ?_) (fun _ => rfl) fun _ => rfl
    simp only [pageSize] at aligned ⊢
    omega

end GuestBridge.Memory
