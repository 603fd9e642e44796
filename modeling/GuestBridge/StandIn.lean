import GuestBridge.Key
import GuestBridge.Memory.Basic
import GuestBridge.Message.Parse
import GuestBridge.Message.Render
import GuestBridge.Text.Utf8

/-! # The stand-in guest

The stand-in guest answers with placeholder algorithms: its keys, its hash and its message layout.
Its functions work on an `Arena`. They read their operands from memory, put the answer of the
algorithm into a block of its own (`StandIn.handOver`) and return the packed word of that block, or
the zero word if there is no answer. A block is preceded by a header with its size, so that it can
be given back without being told how large it is. Where blocks come from is up to the `Platform`
that the guest runs on; a `Heap` is an arena of a plain one.
-/

namespace GuestBridge.StandIn

/-- The memory of the guest and the state of the platform that it runs on. -/
structure Arena (τ : Type) where
  memory : Memory
  state : τ

/-- What the guest runs on: how many bytes a machine word has, and an underlying allocator. It
reserves so many bytes, aligned to the length of a header: what it returns is their address, or zero
if it cannot. -/
class Platform (τ : Type) where
  wordLength : Nat
  reserve : Arena τ → Nat → Nat × Arena τ

/-- The number of bytes in front of a block; blocks are aligned to it as well. -/
def headerLength : Nat := 8

/-- The number of pages that 32-bit addresses can reach. -/
def maxPages : Nat := 65536

/-- The word that a failing function returns. -/
def failure : UInt64 := 0

/-- The least multiple of the alignment that is not below a number. -/
def aligned (n : Nat) : Nat :=
  (n + headerLength - 1) / headerLength * headerLength

/-- The size of a block with its header, unless it is no machine word or, once aligned, no size that
a machine with such words can have. -/
def blockSize? (wordLength size : Nat) : Option Nat :=
  let total := size + headerLength
  let words := Nat.pow 256 wordLength
  if total < words ∧ aligned total < words / 2 then some total else none

namespace Arena

variable {τ : Type}

/-- Allocates a block. The address is zero if there is no such block. -/
def alloc [Platform τ] (arena : Arena τ) (size : Nat) : Nat × Arena τ :=
  match blockSize? (Platform.wordLength τ) size with
  | none => (0, arena)
  | some total =>
    match Platform.reserve arena total with
    | (0, arena) => (0, arena)
    | (base, arena) =>
      let header := Bytes.ofNatLE (Platform.wordLength τ) size
      (base + headerLength, { arena with memory := arena.memory.store base header })

/-- Puts bytes at an address. -/
def put (arena : Arena τ) (address : Nat) (bytes : Bytes) : Arena τ :=
  { arena with memory := arena.memory.store address bytes }

/-- An operand of a function; nothing is read if it is empty. -/
def operand (arena : Arena τ) (address length : Nat) : Bytes :=
  if length = 0 then [] else arena.memory.bytesAt address length

end Arena

/-! ## The plain platform -/

/-- The state of the plain platform: the address behind its last block. -/
structure Frontier where
  next : Nat

/-- An arena of the plain platform. -/
abbrev Heap : Type := Arena Frontier

/-- A heap without blocks. -/
def Heap.empty : Heap :=
  ⟨.zeroed 1 maxPages, ⟨1024⟩⟩

/-- Reserves so many bytes at the end of the heap, adding pages to the memory if necessary. It fails
if 32-bit addresses do not reach so far. -/
def Heap.reserve (heap : Heap) (size : Nat) : Nat × Heap :=
  let base := heap.state.next
  let stop := base + aligned size
  let missing := (stop + pageSize - 1) / pageSize - heap.memory.pages.size
  match heap.memory.grow? missing with
  | some memory => (base, ⟨memory, ⟨stop⟩⟩)
  | none => (0, heap)

instance : Platform Frontier where
  wordLength := 8
  reserve := Heap.reserve

/-! ## Handing over answers -/

section
variable {τ : Type} [Platform τ]

/-- The packed word of an address and a length, of which the low 32 bits count. -/
def pack (address length : Nat) : UInt64 :=
  ((UInt32.ofNat length).toUInt64 <<< 32) ||| (UInt32.ofNat address).toUInt64

/-- Puts bytes into a new block and packs its location. -/
def handOver (arena : Arena τ) (bytes : Bytes) : UInt64 × Arena τ :=
  match arena.alloc bytes.length with
  | (0, arena) => (failure, arena)
  | (address, arena) => (pack address bytes.length, arena.put address bytes)

/-- Hands over the answer of an algorithm, if there is one. -/
def answer (arena : Arena τ) : Option Bytes → UInt64 × Arena τ
  | some bytes => handOver arena bytes
  | none => (failure, arena)

/-! ## The functions -/

/-- Derives the address of a private key. -/
def getAddress (arena : Arena τ) (keyPtr keyLength : Nat) : UInt64 × Arena τ :=
  answer arena (Key.address (arena.operand keyPtr keyLength))

/-- Signs a message with a private key. -/
def sign (arena : Arena τ) (keyPtr keyLength messagePtr messageLength : Nat) : UInt64 × Arena τ :=
  answer arena
    (Key.sign (arena.operand keyPtr keyLength) (arena.operand messagePtr messageLength))

/-- Hashes a message to a literal. -/
def hashMessage (arena : Arena τ) (ptr length : Nat) : UInt64 × Arena τ :=
  handOver arena (Bytes.ofText (Fnv.literal (arena.operand ptr length)))

/-- Hashes a message to bytes. -/
def hashMessageBytes (arena : Arena τ) (ptr length : Nat) : UInt64 × Arena τ :=
  handOver arena (Fnv.leBytes (arena.operand ptr length))

/-- Formats a message in so many chunks. -/
def formatMessage (arena : Arena τ) (ptr length chunks : Nat) : UInt64 × Arena τ :=
  answer arena ((Message.render (arena.operand ptr length) chunks).map Bytes.ofText)

/-- Recovers a message from its formatted form, which has to be well-formed text. -/
def recoverMessage (arena : Arena τ) (ptr length : Nat) : UInt64 × Arena τ :=
  answer arena ((Utf8.decode? (arena.operand ptr length)).bind Message.parse)

end

end GuestBridge.StandIn
