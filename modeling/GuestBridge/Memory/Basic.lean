import GuestBridge.Bytes
import GuestBridge.Memory.Page
import GuestBridge.PackedResult

/-! # Guest memory

The memory of a guest is a row of pages that can grow up to a limit. Its view is the byte at each
address (`Memory.byte`) together with its size in bytes (`Memory.size`); two memories with the same
view and limit are equal (`Memory.ext_byte`). Ranges are read with `Memory.bytesAt` and written with
`Memory.store`, both without any check. The checked accesses are `Memory.read?` and `Memory.write?`:
each succeeds exactly on the regions that lie inside the memory (`Memory.Holds`).
-/

namespace GuestBridge

/-- The memory of a guest: its pages, and how many pages it may grow to. -/
structure Memory where
  pages : Array Page
  pageLimit : Nat

namespace Memory

/-- A memory of so many pages of zeros. -/
def zeroed (pageCount pageLimit : Nat) : Memory :=
  ⟨Array.replicate pageCount Page.zero, pageLimit⟩

/-- The size in bytes. -/
def size (memory : Memory) : Nat :=
  memory.pages.size * pageSize

/-- The byte at an address; zero outside the memory. -/
def byte (memory : Memory) (address : Nat) : UInt8 :=
  if h : address / pageSize < memory.pages.size then
    memory.pages[address / pageSize].get (address % pageSize) (Nat.mod_lt _ (by decide))
  else 0

/-- The memory with one byte replaced; nothing changes outside the memory. -/
def setByte (memory : Memory) (address : Nat) (value : UInt8) : Memory :=
  { memory with
    pages := memory.pages.modify (address / pageSize)
      (·.set (address % pageSize) value (Nat.mod_lt _ (by decide))) }

/-- The bytes from an address on. -/
def bytesAt (memory : Memory) (address length : Nat) : Bytes :=
  (List.range length).map fun offset => memory.byte (address + offset)

/-- The memory with consecutive bytes replaced. -/
def store (memory : Memory) (address : Nat) : Bytes → Memory
  | [] => memory
  | value :: values => (memory.setByte address value).store (address + 1) values

/-- The memory with more pages of zeros at its end, unless that exceeds its limit. -/
def grow? (memory : Memory) (pageCount : Nat) : Option Memory :=
  if memory.pages.size + pageCount ≤ memory.pageLimit then
    some { memory with pages := memory.pages ++ Array.replicate pageCount Page.zero }
  else none

/-! ## Checked access -/

/-- A region lies inside the memory. -/
def Holds (memory : Memory) (region : Region) : Prop :=
  region.stop ≤ memory.size

instance (memory : Memory) (region : Region) : Decidable (memory.Holds region) :=
  inferInstanceAs (Decidable (_ ≤ _))

/-- The bytes of a region, if it lies inside the memory. -/
def read? (memory : Memory) (region : Region) : Option Bytes :=
  if memory.Holds region then some (memory.bytesAt region.ptr.toNat region.len.toNat) else none

/-- The memory with bytes stored at a pointer, if all of them fall inside it. -/
def write? (memory : Memory) (ptr : UInt32) (bytes : Bytes) : Option Memory :=
  if ptr.toNat + bytes.length ≤ memory.size then some (memory.store ptr.toNat bytes) else none

/-! ## The view -/

/-- A write to a single byte changes that byte, if it is inside the memory, and no other. -/
theorem byte_setByte (memory : Memory) (address other : Nat) (value : UInt8) :
    (memory.setByte address value).byte other =
      if address = other ∧ address < memory.size then value else memory.byte other := by
  have positive : 0 < pageSize := by decide
  have inside : address < memory.size ↔ address / pageSize < memory.pages.size :=
    (Nat.div_lt_iff_lt_mul positive).symm
  unfold byte setByte
  simp only [Array.size_modify, Array.getElem_modify, inside]
  by_cases page : address / pageSize = other / pageSize
  · by_cases bound : other / pageSize < memory.pages.size
    · simp only [page, bound, dite_true, if_true, Page.get_set, and_true]
      have : address % pageSize = other % pageSize ↔ address = other := by
        constructor
        · intro offset
          rw [← Nat.div_add_mod address pageSize, ← Nat.div_add_mod other pageSize, page, offset]
        · rintro rfl
          rfl
      simp only [this]
    · simp [page, bound]
  · have : address ≠ other := fun h => page (h ▸ rfl)
    simp [page, this]

@[simp] theorem size_setByte (memory : Memory) (address : Nat) (value : UInt8) :
    (memory.setByte address value).size = memory.size := by
  simp [size, setByte]

@[simp] theorem pageLimit_setByte (memory : Memory) (address : Nat) (value : UInt8) :
    (memory.setByte address value).pageLimit = memory.pageLimit := rfl

@[simp] theorem store_nil (memory : Memory) (address : Nat) : memory.store address [] = memory :=
  rfl

@[simp] theorem store_cons (memory : Memory) (address : Nat) (value : UInt8) (values : Bytes) :
    memory.store address (value :: values) =
      (memory.setByte address value).store (address + 1) values := rfl

@[simp] theorem size_store (memory : Memory) (address : Nat) (values : Bytes) :
    (memory.store address values).size = memory.size := by
  induction values generalizing memory address with
  | nil => rfl
  | cons value values ih => rw [store_cons, ih, size_setByte]

@[simp] theorem pageLimit_store (memory : Memory) (address : Nat) (values : Bytes) :
    (memory.store address values).pageLimit = memory.pageLimit := by
  induction values generalizing memory address with
  | nil => rfl
  | cons value values ih => rw [store_cons, ih, pageLimit_setByte]

/-- After a store that stays inside the memory, each address holds the byte stored there, or what it
held before if nothing was stored there. -/
theorem byte_store (memory : Memory) (address other : Nat) (values : Bytes)
    (inside : address + values.length ≤ memory.size) :
    (memory.store address values).byte other =
      if address ≤ other ∧ other < address + values.length then values.getD (other - address) 0
      else memory.byte other := by
  induction values generalizing memory address with
  | nil => simp [show ¬(address ≤ other ∧ other < address) by omega]
  | cons value values ih =>
    simp only [List.length_cons] at inside
    rw [store_cons, ih _ _ (by rw [size_setByte]; omega), byte_setByte]
    by_cases here : address = other
    · subst here
      have notLater : ¬address + 1 ≤ address := by omega
      simp [notLater, show address < memory.size by omega]
    · by_cases later : address + 1 ≤ other ∧ other < address + 1 + values.length
      · rw [if_pos later, if_pos (by simp only [List.length_cons]; omega),
          show other - address = (other - (address + 1)) + 1 by omega, List.getD_cons_succ]
      · rw [if_neg later, if_neg (by omega), if_neg (by simp only [List.length_cons]; omega)]

@[simp] theorem length_bytesAt (memory : Memory) (address length : Nat) :
    (memory.bytesAt address length).length = length := by
  simp [bytesAt]

@[simp] theorem getElem_bytesAt (memory : Memory) (address length offset : Nat)
    (h : offset < (memory.bytesAt address length).length) :
    (memory.bytesAt address length)[offset] = memory.byte (address + offset) := by
  simp [bytesAt]

/-- Memories with the same size, limit and bytes are equal. -/
theorem ext_byte {memory other : Memory} (size : memory.size = other.size)
    (limit : memory.pageLimit = other.pageLimit)
    (bytes : ∀ address < memory.size, memory.byte address = other.byte address) :
    memory = other := by
  have positive : 0 < pageSize := by decide
  obtain ⟨pages, pageLimit⟩ := memory
  obtain ⟨otherPages, otherLimit⟩ := other
  have count : pages.size = otherPages.size := Nat.eq_of_mul_eq_mul_right positive size
  obtain rfl : pageLimit = otherLimit := limit
  congr 1
  apply Array.ext count
  intro index h h'
  rcases page : pages[index] with ⟨bytes₁, size₁⟩
  rcases otherPage : otherPages[index] with ⟨bytes₂, size₂⟩
  congr 1
  apply ByteArray.ext
  have size₁' : bytes₁.data.size = pageSize := size₁
  have size₂' : bytes₂.data.size = pageSize := size₂
  apply Array.ext (size₁'.trans size₂'.symm)
  intro offset hoffset hoffset'
  have bound : offset < pageSize := size₁' ▸ hoffset
  have at_index : (index * pageSize + offset) / pageSize = index := by
    rw [Nat.mul_comm, Nat.mul_add_div positive, Nat.div_eq_of_lt bound, Nat.add_zero]
  have at_offset : (index * pageSize + offset) % pageSize = offset := by
    rw [Nat.mul_comm, Nat.mul_add_mod, Nat.mod_eq_of_lt bound]
  have address : index * pageSize + offset < pages.size * pageSize := by
    have := Nat.mul_le_mul_right pageSize (Nat.succ_le_of_lt h)
    rw [Nat.succ_mul] at this
    omega
  have := bytes (index * pageSize + offset) address
  simp only [byte, at_index, at_offset, h, h', dite_true, page, otherPage] at this
  exact this

/-! ## Reading a region -/

/-- A region inside two memories with the same bytes there reads the same in both. -/
theorem read?_congr {memory other : Memory} {region : Region} (hin : memory.Holds region)
    (hin' : other.Holds region)
    (hbytes : ∀ address, region.ptr.toNat ≤ address → address < region.stop →
      other.byte address = memory.byte address) : other.read? region = memory.read? region := by
  rw [read?, read?, if_pos hin, if_pos hin', Option.some.injEq]
  refine List.map_congr_left fun offset hoffset => hbytes _ (Nat.le_add_right _ _) ?_
  exact Nat.add_lt_add_left (List.mem_range.1 hoffset) _

/-- What was stored in a region is read from it. -/
theorem read?_store (memory : Memory) {region : Region} {bytes : Bytes}
    (hlen : region.len.toNat = bytes.length) (hin : memory.Holds region) :
    (memory.store region.ptr.toNat bytes).read? region = some bytes := by
  have hin' : (memory.store region.ptr.toNat bytes).Holds region := by
    rw [Holds, size_store]
    exact hin
  have hinside : region.ptr.toNat + bytes.length ≤ memory.size := hlen ▸ hin
  rw [read?, if_pos hin', Option.some.injEq]
  refine List.ext_getElem ((length_bytesAt _ _ _).trans hlen) fun offset hoffset hoffset' => ?_
  rw [getElem_bytesAt, byte_store _ _ _ _ hinside, if_pos ⟨Nat.le_add_right _ _, by omega⟩,
    Nat.add_sub_cancel_left, List.getD_eq_getElem?_getD, List.getElem?_eq_getElem hoffset',
    Option.getD_some]

theorem len_of_read? {memory : Memory} {region : Region} {bytes : Bytes}
    (hread : memory.read? region = some bytes) : region.len.toNat = bytes.length := by
  obtain ⟨-, hsome⟩ := Option.ite_none_right_eq_some.1 hread
  rw [← Option.some.inj hsome, length_bytesAt]

end Memory

end GuestBridge
