import GuestBridge.Bytes

/-! # The chunks of a message

A message that is to be formatted is padded with zeros to a number of chunks of 512 bytes, and a
chunk is read as 32 fields of 16 bytes, each a number in little-endian form. This module holds the
sizes, the limits that a request has to respect (`Message.Fits`), and the cut of a message into the
numbers of its fields (`Message.chunkFields`).
-/

namespace GuestBridge.Message

/-- The number of bytes in a field. -/
def fieldLength : Nat := 16

/-- The number of fields in a chunk. -/
def fieldsPerChunk : Nat := 32

/-- The number of bytes in a chunk. -/
def chunkLength : Nat := fieldLength * fieldsPerChunk

/-- The largest number of chunks. -/
def maxChunks : Nat := 32

/-- Whether a message of so many bytes can be laid out in so many chunks. -/
def Fits (length chunks : Nat) : Prop :=
  1 ≤ chunks ∧ chunks ≤ maxChunks ∧ length ≤ chunks * chunkLength

instance (length chunks : Nat) : Decidable (Fits length chunks) :=
  inferInstanceAs (Decidable (_ ∧ _ ∧ _))

/-- A message followed by zeros up to the end of its last chunk. -/
def padded (message : Bytes) (chunks : Nat) : Bytes :=
  message ++ List.replicate (chunks * chunkLength - message.length) 0

/-- The first `count` consecutive groups of `size` bytes. -/
def groups : (count size : Nat) → Bytes → List Bytes
  | 0, _, _ => []
  | count + 1, size, bytes => bytes.take size :: groups count size (bytes.drop size)

/-- The numbers of the fields of each chunk of a message. -/
def chunkFields (message : Bytes) (chunks : Nat) : List (List Nat) :=
  (groups chunks chunkLength (padded message chunks)).map fun chunk =>
    (groups fieldsPerChunk fieldLength chunk).map Bytes.toNatLE

end GuestBridge.Message
