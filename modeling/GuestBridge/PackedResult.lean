/-! # Packed result words

A guest function that produces a buffer returns one 64-bit word: the pointer in its low half, the
length in its high half. A zero pointer denotes failure whatever the length says, so decoding gives
a tagged outcome (`PackedResult.decode`) and `PackedResult.encode` is its inverse but for one case:
a success with pointer zero has the word of a failure.
-/

namespace GuestBridge

/-- The outcome that a packed result word stands for. -/
inductive PackedResult
  /-- The guest produced a buffer. -/
  | success (ptr len : UInt32)
  /-- The guest reported a failure; the length carries no meaning and serves diagnostics only. -/
  | failure (len : UInt32)
deriving DecidableEq

namespace PackedResult

/-- The outcome that a word stands for. -/
def decode (word : UInt64) : PackedResult :=
  let ptr := word.toUInt32
  let len := (word >>> 32).toUInt32
  if ptr = 0 then .failure len else .success ptr len

/-- The word that stands for an outcome. -/
def encode : PackedResult → UInt64
  | .success ptr len => (len.toUInt64 <<< 32) ||| ptr.toUInt64
  | .failure len => len.toUInt64 <<< 32

/-- Whether the guest produced a buffer. -/
def isSuccess : PackedResult → Bool
  | .success _ _ => true
  | .failure _ => false

/-- The diagnostic text of an outcome. -/
def describe : PackedResult → String
  | .success ptr len => s!"Success \x7b ptr: {ptr}, len: {len} \x7d"
  | .failure len => s!"Failure \x7b len: {len} \x7d"

end PackedResult

/-- A range of guest addresses: where a buffer starts and how long it is. -/
structure Region where
  ptr : UInt32
  len : UInt32
deriving DecidableEq

namespace Region

/-- The first address behind the region; it may lie outside the 32-bit address space. -/
def stop (region : Region) : Nat :=
  region.ptr.toNat + region.len.toNat

/-- The region that a successful outcome refers to. -/
def ofPacked? : PackedResult → Option Region
  | .success ptr len => some ⟨ptr, len⟩
  | .failure _ => none

end Region

end GuestBridge
