import GuestBridge.Guest.Instance
import GuestBridge.Text.Utf8

/-! # Capabilities of the host

A guest can call two functions of the host. `Capability.log` shows a text of the guest to the log
subscriber; `Capability.random` fills a range of guest memory with random bytes. Both work on the
memory that the guest exports, both check the range against it exactly as the host's own accesses
do, and neither stops the guest when the check fails. The one thing that does stop it is a panic of
the log subscriber. The operating system is taken to have random bytes whenever they are asked for;
that it may refuse them, which is an event of level `ERROR` and an answer of its own, is left out.
-/

namespace GuestBridge.Capability

/-- The answer of `random` when it filled the range. -/
def success : UInt32 := 0

/-- The answer of `random` when the range leaves the memory, or there is no memory. -/
def badAddress : UInt32 := 21

/-- What the log subscriber notices when the guest logs a region of its exported memory. -/
def log (exported : Option Memory) (region : Region) : Notice :=
  match exported with
  | none => .logWithoutMemory
  | some memory =>
    match memory.read? region with
    | some bytes => .logged (Utf8.decodeLossy bytes)
    | none => .logOutOfBounds region.ptr region.len

/-- The payload with which the log subscriber panics at a notice, if it does: a tripwire answers to
exactly its own text. -/
def tripped (tripwire : Option Tripwire) (notice : Notice) : Option Payload :=
  match tripwire, notice with
  | some wire, .logged text => if text = wire.text then some wire.payload else none
  | _, _ => none

/-- What a request for random bytes leaves behind. -/
structure Drawn where
  memory : Memory
  entropy : Entropy
  notices : List Notice
  answer : UInt32

/-- Fills a region of memory with random bytes, if the memory is exported and holds the region. -/
def random (isExported : Bool) (memory : Memory) (entropy : Entropy) (region : Region) : Drawn :=
  if isExported then
    if memory.Holds region then
      let count := region.len.toNat
      ⟨memory.store region.ptr.toNat (entropy.next count), entropy.skip count, [], success⟩
    else ⟨memory, entropy, [.randomOutOfBounds region.ptr region.len], badAddress⟩
  else ⟨memory, entropy, [], badAddress⟩

end GuestBridge.Capability
