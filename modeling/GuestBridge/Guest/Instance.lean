import GuestBridge.Error
import GuestBridge.Memory.Basic

/-! # Guest instances and guest functions

To the host a guest is a black box: an instance with memory, private state of some type `σ` and a
stream of random bytes, and functions that may do anything to the instance. A guest function is
given its arguments and the tripwire of the log subscriber. It returns the instance as it left it,
what the host capabilities noticed meanwhile, and how the call ended (`Reply`).
-/

namespace GuestBridge

/-- A stream of random bytes together with the number of bytes already drawn from it. -/
structure Entropy where
  byteAt : Nat → UInt8
  drawn : Nat

namespace Entropy

/-- A stream from which nothing has been drawn. -/
def ofStream (byteAt : Nat → UInt8) : Entropy := ⟨byteAt, 0⟩

/-- The next bytes of the stream. -/
def next (entropy : Entropy) (count : Nat) : Bytes :=
  (List.range count).map fun offset => entropy.byteAt (entropy.drawn + offset)

/-- The stream after bytes were drawn. -/
def skip (entropy : Entropy) (count : Nat) : Entropy :=
  { entropy with drawn := entropy.drawn + count }

end Entropy

/-- The log subscriber panics with this payload when it sees this text, and is then spent. -/
structure Tripwire where
  text : String
  payload : Payload

/-- What the host capabilities notice while guest code runs. -/
inductive Notice
  /-- The guest logged a text. -/
  | logged (text : String)
  /-- The guest logged a range that leaves its memory. -/
  | logOutOfBounds (ptr len : UInt32)
  /-- The guest logged without exporting a memory. -/
  | logWithoutMemory
  /-- The guest asked for random bytes in a range that leaves its memory. -/
  | randomOutOfBounds (ptr len : UInt32)
deriving DecidableEq

/-- The state of a live guest: its memory, its private state and its stream of random bytes. -/
structure Instance (σ : Type) where
  memory : Memory
  state : σ
  entropy : Entropy

/-- How a guest call ends. -/
inductive Ending (α : Type)
  /-- The function returned. -/
  | returned (result : α)
  /-- The function was stopped. -/
  | trapped (trap : Trap)
  /-- A panic of the log subscriber unwound through the function. -/
  | panicked (payload : Payload)

/-- The ending with its result mapped. -/
def Ending.map {α β : Type} (f : α → β) : Ending α → Ending β
  | .returned result => .returned (f result)
  | .trapped trap => .trapped trap
  | .panicked payload => .panicked payload

/-- What a guest call leaves behind: the instance, what was noticed, and how the call ended. Effects
of a call that did not return stay. -/
structure Reply (σ α : Type) where
  guest : Instance σ
  notices : List Notice
  ending : Ending α

/-- A function of a guest. All arguments that the host passes are 32-bit words. -/
abbrev GuestFunction (σ α : Type) : Type :=
  List UInt32 → Option Tripwire → Instance σ → Reply σ α

/-- The guest function with its result mapped. -/
def GuestFunction.map {σ α β : Type} (f : α → β) (function : GuestFunction σ α) :
    GuestFunction σ β := fun args tripwire guest =>
  let reply := function args tripwire guest
  ⟨reply.guest, reply.notices, reply.ending.map f⟩

/-- The tripwire after a call: a panic has spent it. -/
def Ending.rearm {α : Type} (tripwire : Option Tripwire) : Ending α → Option Tripwire
  | .panicked _ => none
  | _ => tripwire

end GuestBridge
