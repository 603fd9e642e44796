import GuestBridge.Guest.Capability
import GuestBridge.Memory.Fill
import Mathlib.Logic.Basic

/-!
# Ranges of memory in words of the machine

Whoever gets at a range of guest memory takes a part of it, a `Slice`, and there are three ways to
come by one. The end of the range is the sum of two machine words, which is capped where the host
reads or overwrites (`Memory.cappedSlice?`) and refused if it overflows where the guest has called a
capability (`Memory.checkedSlice?`). Where the host writes, there is no sum: what lies before the
range is cut off first, and what is left is cut to the length of the bytes
(`Memory.tailSlice?`). A machine word has 64 bits. All three find a slice exactly in the ranges that
lie inside memory, and the same one (`cappedSlice?_eq`, `checkedSlice?_eq`, `tailSlice?_eq`). So the
accesses that go through these slices are those of the library (`Memory.Sliced`).
-/

namespace GuestBridge

/-! ## Sums of machine words -/

/-- The sum of two words, or the greatest word if it overflows. -/
def cappedSum (left right : UInt64) : UInt64 :=
  if left.toNat + right.toNat < UInt64.size then left + right else UInt64.ofNat (UInt64.size - 1)

/-- The sum of two words, unless it overflows. -/
def checkedSum? (left right : UInt64) : Option UInt64 :=
  if left.toNat + right.toNat < UInt64.size then some (left + right) else none

/-- Where a region of 32-bit addresses starts, as a machine word. -/
def Region.startWord (region : Region) : UInt64 :=
  region.ptr.toUInt64

/-- The length of a region, as a machine word. -/
def Region.lengthWord (region : Region) : UInt64 :=
  region.len.toUInt64

section
variable (region : Region)

/-- The end of a region may need one bit more than an address, and there is room for it. -/
theorem Region.words_lt : region.startWord.toNat + region.lengthWord.toNat < UInt64.size := by
  have hptr := region.ptr.toNat_lt
  have hlen := region.len.toNat_lt
  rw [startWord, lengthWord, UInt32.toNat_toUInt64, UInt32.toNat_toUInt64]
  show _ < 2 ^ 64
  omega

theorem Region.toNat_words :
    (region.startWord + region.lengthWord).toNat = region.ptr.toNat + region.len.toNat := by
  rw [UInt64.toNat_add, Nat.mod_eq_of_lt region.words_lt, startWord, lengthWord,
    UInt32.toNat_toUInt64, UInt32.toNat_toUInt64]

theorem cappedSum_words :
    cappedSum region.startWord region.lengthWord = region.startWord + region.lengthWord :=
  if_pos region.words_lt

theorem checkedSum?_words :
    checkedSum? region.startWord region.lengthWord =
      some (region.startWord + region.lengthWord) :=
  if_pos region.words_lt

end

/-! ## Slices -/

/-- A part of memory without gaps: the address at which it starts, and its length. -/
structure Slice where
  start : Nat
  length : Nat

namespace Slice

/-- The part between two places, if they are in order and not behind the end. -/
def between? (slice : Slice) (start stop : UInt64) : Option Slice :=
  if start ≤ stop ∧ stop.toNat ≤ slice.length then
    some ⟨slice.start + start.toNat, (stop - start).toNat⟩
  else none

/-- The part from a place on, if it is not behind the end. -/
def from? (slice : Slice) (start : UInt64) : Option Slice :=
  if start.toNat ≤ slice.length then
    some ⟨slice.start + start.toNat, slice.length - start.toNat⟩
  else none

/-- The first part with the given length, if there is so much. -/
def upTo? (slice : Slice) (length : Nat) : Option Slice :=
  if length ≤ slice.length then some ⟨slice.start, length⟩ else none

end Slice

namespace Memory

/-- All of a memory. -/
def whole (memory : Memory) : Slice :=
  ⟨0, memory.size⟩

/-- The slice of a region, with its end capped at the greatest word. -/
def cappedSlice? (memory : Memory) (region : Region) : Option Slice :=
  memory.whole.between? region.startWord (cappedSum region.startWord region.lengthWord)

/-- The slice of a region, unless its end is no word. -/
def checkedSlice? (memory : Memory) (region : Region) : Option Slice :=
  (checkedSum? region.startWord region.lengthWord).bind fun stop =>
    memory.whole.between? region.startWord stop

/-- The slice of so many bytes from a pointer on. -/
def tailSlice? (memory : Memory) (ptr : UInt32) (length : Nat) : Option Slice :=
  (memory.whole.from? ptr.toUInt64).bind fun rest => rest.upTo? length

section
variable (memory : Memory) (region : Region)

theorem between?_words :
    memory.whole.between? region.startWord (region.startWord + region.lengthWord) =
      if memory.Holds region then some ⟨region.ptr.toNat, region.len.toNat⟩ else none := by
  have hptr : region.startWord.toNat = region.ptr.toNat := region.ptr.toNat_toUInt64
  have hlen : region.lengthWord.toNat = region.len.toNat := region.len.toNat_toUInt64
  have hstop := region.toNat_words
  have hordered : region.startWord ≤ region.startWord + region.lengthWord := by
    rw [UInt64.le_iff_toNat_le, hstop, hptr]
    exact Nat.le_add_right _ _
  have hlength : region.startWord + region.lengthWord - region.startWord = region.lengthWord := by
    rw [UInt64.add_comm, UInt64.add_sub_cancel]
  have hinside : (region.startWord ≤ region.startWord + region.lengthWord ∧
      (region.startWord + region.lengthWord).toNat ≤ memory.whole.length) ↔
        memory.Holds region := by
    rw [hstop]
    exact and_iff_right hordered
  rw [Slice.between?, if_congr hinside rfl rfl, hlength, hptr, hlen]
  show (if _ then some (Slice.mk (0 + _) _) else none) = _
  rw [Nat.zero_add]

theorem cappedSlice?_eq :
    memory.cappedSlice? region =
      if memory.Holds region then some ⟨region.ptr.toNat, region.len.toNat⟩ else none := by
  rw [cappedSlice?, cappedSum_words, between?_words]

theorem checkedSlice?_eq :
    memory.checkedSlice? region =
      if memory.Holds region then some ⟨region.ptr.toNat, region.len.toNat⟩ else none := by
  rw [checkedSlice?, checkedSum?_words, Option.bind_some, between?_words]

theorem tailSlice?_eq (ptr : UInt32) (length : Nat) :
    memory.tailSlice? ptr length =
      if ptr.toNat + length ≤ memory.size then some ⟨ptr.toNat, length⟩ else none := by
  have hptr : ptr.toUInt64.toNat = ptr.toNat := ptr.toNat_toUInt64
  rw [tailSlice?, Slice.from?, hptr]
  show (if ptr.toNat ≤ memory.size then some (Slice.mk (0 + _) _) else none).bind _ = _
  rw [Nat.zero_add]
  by_cases hstart : ptr.toNat ≤ memory.size
  · rw [if_pos hstart, Option.bind_some, Slice.upTo?]
    -- A length that is too large for what is left is too large for all of memory.
    have hlength : length ≤ memory.size - ptr.toNat ↔ ptr.toNat + length ≤ memory.size := by omega
    exact if_congr hlength rfl rfl
  · rw [if_neg hstart, Option.bind_none, if_neg (by omega)]

end

/-! ## Accesses by way of a slice -/

/-- Reads a region by way of its slice. -/
def readSliced? (memory : Memory) (region : Region) : Option Bytes :=
  (memory.cappedSlice? region).map fun slice => memory.bytesAt slice.start slice.length

/-- Overwrites a region with zeros by way of its slice. -/
def wipeSliced? (memory : Memory) (region : Region) : Option Memory :=
  (memory.cappedSlice? region).map fun slice => memory.fill slice.start slice.length 0

/-- Stores bytes at a pointer by way of their slice. -/
def writeSliced? (memory : Memory) (ptr : UInt32) (bytes : Bytes) : Option Memory :=
  (memory.tailSlice? ptr bytes.length).map fun slice => memory.store slice.start bytes

/-- What the log subscriber notices when the guest logs a region, by way of its slice. -/
def logSliced (memory : Memory) (region : Region) : Notice :=
  match memory.checkedSlice? region with
  | some slice => .logged (Utf8.decodeLossy (memory.bytesAt slice.start slice.length))
  | none => .logOutOfBounds region.ptr region.len

/-- What a request for random bytes leaves behind, by way of the slice of the region. -/
def randomSliced (memory : Memory) (entropy : Entropy) (region : Region) : Capability.Drawn :=
  match memory.checkedSlice? region with
  | some slice =>
    ⟨memory.store slice.start (entropy.next slice.length), entropy.skip slice.length, [],
      Capability.success⟩
  | none =>
    ⟨memory, entropy, [.randomOutOfBounds region.ptr region.len], Capability.badAddress⟩

/-- Every access to a region of memory is what it is by way of a slice in words of the machine. -/
structure Sliced (memory : Memory) (region : Region) : Prop where
  read : memory.readSliced? region = memory.read? region
  write : ∀ bytes, memory.writeSliced? region.ptr bytes = memory.write? region.ptr bytes
  wipe : memory.wipeSliced? region = memory.wipe? region
  log : memory.logSliced region = Capability.log (some memory) region
  random : ∀ entropy,
    memory.randomSliced entropy region = Capability.random true memory entropy region

theorem sliced (memory : Memory) (region : Region) : memory.Sliced region where
  read := by
    rw [readSliced?, cappedSlice?_eq, read?]
    split <;> rfl
  write bytes := by
    rw [writeSliced?, tailSlice?_eq, write?]
    split <;> rfl
  wipe := by
    rw [wipeSliced?, cappedSlice?_eq, wipe?]
    split <;> rfl
  log := by
    rw [logSliced, checkedSlice?_eq, Capability.log, read?]
    by_cases hin : memory.Holds region
    · rw [if_pos hin, if_pos hin]
    · rw [if_neg hin, if_neg hin]
  random entropy := by
    rw [randomSliced, checkedSlice?_eq, Capability.random, if_pos rfl]
    by_cases hin : memory.Holds region
    · rw [if_pos hin, if_pos hin]
    · rw [if_neg hin, if_neg hin]

end Memory

end GuestBridge
