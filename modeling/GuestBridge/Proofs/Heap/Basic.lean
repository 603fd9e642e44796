import GuestBridge.Proofs.Operation.Course

/-!
# Guests with a sound allocator

To the host, the heap of a guest is the set of its live blocks, some of which it has lent to the
host (`Heap`). `SoundGuest` collects what the host may expect of a guest that manages its heap well:
blocks do not overlap, a call lends at most one block that was not lent before and leaves alone what
is lent already, and releasing a lent block takes it back unless the call panics. Nothing is assumed
about how the guest keeps its books, except that it does not keep them in blocks that it has lent.
-/

namespace GuestBridge

/-- A live block of guest memory. -/
structure Block where
  capacity : Nat
  /-- Whether the guest has handed the block to the host and not got it back yet. -/
  lent : Bool

/-- The live blocks of a guest, by the addresses where they start. -/
abbrev Heap : Type := UInt32 → Option Block

namespace Heap

/-- The capacity of the block at an address, if there is one and it is lent to the host. -/
def lentAt (heap : Heap) (ptr : UInt32) : Option Nat :=
  match heap ptr with
  | some ⟨capacity, true⟩ => some capacity
  | _ => none

/-- A byte belongs to the live block that starts at an address. -/
def Covers (heap : Heap) (ptr : UInt32) (address : Nat) : Prop :=
  ∃ block, heap ptr = some block ∧ ptr.toNat ≤ address ∧ address < ptr.toNat + block.capacity

/-- A byte belongs to a block that is lent to the host. -/
def Lends (heap : Heap) (address : Nat) : Prop :=
  ∃ ptr capacity, heap.lentAt ptr = some capacity ∧ ptr.toNat ≤ address ∧
    address < ptr.toNat + capacity

/-- Live blocks are not null, lie inside memory and do not overlap. -/
structure WellFormed (heap : Heap) (memory : Memory) : Prop where
  null : heap 0 = none
  inside : ∀ ptr block, heap ptr = some block → ptr.toNat + block.capacity ≤ memory.size
  disjoint : ∀ ptr other address, heap.Covers ptr address → heap.Covers other address → ptr = other

theorem eq_some_of_lentAt {heap : Heap} {ptr : UInt32} {capacity : Nat}
    (hlent : heap.lentAt ptr = some capacity) : heap ptr = some ⟨capacity, true⟩ := by
  unfold lentAt at hlent
  split at hlent
  · next heq => rw [heq, Option.some.inj hlent]
  · cases hlent

theorem covers_of_lentAt {heap : Heap} {ptr : UInt32} {capacity address : Nat}
    (hlent : heap.lentAt ptr = some capacity) (hge : ptr.toNat ≤ address)
    (hlt : address < ptr.toNat + capacity) : heap.Covers ptr address :=
  ⟨⟨capacity, true⟩, eq_some_of_lentAt hlent, hge, hlt⟩

end Heap

section
variable {σ : Type}

/-- The region that a call of the allocator handed over. -/
def Ending.allocated? (size : UInt32) : Ending UInt32 → Option Region
  | .returned ptr => if ptr = 0 then none else some ⟨ptr, size⟩
  | _ => none

/-- The region that a call for a packed result handed over. -/
def Ending.result? : Ending (List Value) → Option Region
  | .returned values => regionOf? values
  | _ => none

theorem Ending.allocated?_eq_none {size : UInt32} {ending : Ending UInt32}
    (hnull : ∀ ptr, ending = .returned ptr → ptr = 0) : ending.allocated? size = none := by
  cases ending with
  | returned ptr => exact if_pos (hnull ptr rfl)
  | trapped | panicked => rfl

theorem Ending.result?_eq_none {ending : Ending (List Value)}
    (hnull : ∀ values, ending = .returned values → regionOf? values = none) :
    ending.result? = none := by
  cases ending with
  | returned values => exact hnull values rfl
  | trapped | panicked => rfl

/-- A guest call kept the heap in order, left alone the blocks lent to the host, and lent at most
one more. -/
structure Lending (heapOf : Instance σ → Heap) (Sane : Instance σ → Prop) (handed : Option Region)
    (before after : Instance σ) : Prop where
  sane : Sane after
  /-- What was handed over is the start of a block that was not lent before. -/
  fresh : ∀ region, handed = some region → (heapOf before).lentAt region.ptr = none
  large : ∀ region, handed = some region →
    ∃ capacity, (heapOf after).lentAt region.ptr = some capacity ∧ region.len.toNat ≤ capacity
  others : ∀ ptr, (∀ region, handed = some region → region.ptr ≠ ptr) →
    (heapOf after).lentAt ptr = (heapOf before).lentAt ptr
  bytes : ∀ address, (heapOf before).Lends address →
    after.memory.byte address = before.memory.byte address

/-- A call that does nothing lends nothing. -/
theorem Lending.refl {heapOf : Instance σ → Heap} {Sane : Instance σ → Prop} {guest : Instance σ}
    (hsane : Sane guest) : Lending heapOf Sane none guest guest where
  sane := hsane
  fresh := nofun
  large := nofun
  others _ _ := rfl
  bytes _ _ := rfl

/-- A call of the release function took back a block lent to the host: the block is no longer lent,
the others are, and they were left alone. -/
structure Returning (heapOf : Instance σ → Heap) (Sane : Instance σ → Prop) (ptr : UInt32)
    (before : Instance σ) (reply : Reply σ Unit) : Prop where
  sane : Sane reply.guest
  dead : (heapOf reply.guest).lentAt ptr = none
  others : ∀ other, other ≠ ptr → (heapOf reply.guest).lentAt other = (heapOf before).lentAt other
  bytes : ∀ address, (heapOf before).Lends address → ¬(heapOf before).Covers ptr address →
    reply.guest.memory.byte address = before.memory.byte address

/-- A guest that manages its heap well, as long as it is in a sane state. -/
structure SoundGuest (exports : Exports σ) (heapOf : Instance σ → Heap)
    (Sane : Instance σ → Prop) : Prop where
  wellFormed : ∀ guest, Sane guest → (heapOf guest).WellFormed guest.memory
  /-- The heap does not depend on what the host stores in blocks that are lent to it. -/
  stores : ∀ guest memory, Sane guest → memory.size = guest.memory.size →
    memory.pageLimit = guest.memory.pageLimit →
    (∀ address, ¬(heapOf guest).Lends address →
      memory.byte address = guest.memory.byte address) →
    Sane { guest with memory := memory } ∧ heapOf { guest with memory := memory } = heapOf guest
  /-- The allocator hands over nothing or a block that is large enough. -/
  alloc : ∀ guest tripwire size, Sane guest →
    Lending heapOf Sane ((exports.alloc [size] tripwire guest).ending.allocated? size) guest
      (exports.alloc [size] tripwire guest).guest
  /-- A packed export fails or hands over its result as a block. -/
  packed : ∀ entry args guest tripwire, Sane guest →
    Lending heapOf Sane (exports.packed entry args tripwire guest).ending.result? guest
      (exports.packed entry args tripwire guest).guest
  /-- A block that is lent to the host can be released, if the call does not panic. -/
  dealloc : ∀ guest tripwire ptr sizeHint capacity, Sane guest →
    (heapOf guest).lentAt ptr = some capacity →
    (exports.dealloc [ptr, sizeHint] tripwire guest).ending.isPanic = false →
    Returning heapOf Sane ptr guest (exports.dealloc [ptr, sizeHint] tripwire guest)

end

end GuestBridge
