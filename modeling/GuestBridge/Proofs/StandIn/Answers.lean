import GuestBridge.Proofs.Guest.PackedWord

/-!
# The stand-in guest delivers the answers of its algorithms

The words that the stand-in guest returns are packed by code of its own, and the host decodes them
with other code. Both agree on all addresses and lengths of 32 bits (`decode_pack`). So a function
of the guest that puts its answer into a new block delivers it: the word that it returns is decoded
to a region that holds the answer, also if the answer is empty, and to a failure if there is none
(`delivers_answers`). That takes an underlying allocator that provides a block for the answer
(`Arena.Provides`), and nothing else of the platform: neither how large its words are, nor what its
allocator does to the rest of memory.
-/

namespace GuestBridge.StandIn

variable {τ : Type}

/-! ## Packed words -/

/-- The word of an address and a length is decoded to both of them, unless the address is null. -/
theorem decode_pack {address length : Nat} (hne : address ≠ 0) (haddress : address < UInt32.size) :
    PackedResult.decode (pack address length) =
      .success (UInt32.ofNat address) (UInt32.ofNat length) := by
  have hptr : UInt32.ofNat address ≠ 0 := by
    intro hnull
    have hzero := congrArg UInt32.toNat hnull
    rw [UInt32.toNat_ofNat_of_lt' haddress] at hzero
    exact hne hzero
  have hpack : pack address length =
      PackedResult.encode (.success (UInt32.ofNat address) (UInt32.ofNat length)) := rfl
  rw [hpack, PackedResult.decode_encode_success, if_neg hptr]

/-! ## Operands -/

/-- The operand that a region holds is what the guest takes from there. -/
theorem Arena.operand_eq {arena : Arena τ} {region : Region} {bytes : Bytes}
    (hread : arena.memory.read? region = some bytes) :
    arena.operand region.ptr.toNat region.len.toNat = bytes := by
  obtain ⟨-, hbytes⟩ := Option.ite_none_right_eq_some.1 hread
  unfold operand
  split
  · next hempty =>
    rw [hempty] at hbytes
    exact Option.some.inj hbytes
  · exact Option.some.inj hbytes

/-! ## Blocks -/

variable [Platform τ]

/-- The underlying allocation of a block for so many bytes succeeds. The block has a size that the
machine can ask for, and what is reserved for it and its header is not at the null address, lies
inside memory and has 32-bit addresses. -/
structure Arena.Provides (arena : Arena τ) (size : Nat) : Prop where
  size_lt : size < UInt32.size
  layout : blockSize? (Platform.wordLength τ) size = some (size + headerLength)
  base_ne : (Platform.reserve arena (size + headerLength)).1 ≠ 0
  data_lt : (Platform.reserve arena (size + headerLength)).1 + headerLength < UInt32.size
  inside : (Platform.reserve arena (size + headerLength)).1 + headerLength + size ≤
    (Platform.reserve arena (size + headerLength)).2.memory.size

/-- With words of 64 bits, no buffer that 32-bit lengths can describe is too large to ask for. -/
theorem blockSize?_eight {size : Nat} (hlt : size < UInt32.size) :
    blockSize? 8 size = some (size + headerLength) := by
  have hsize : size < 2 ^ 32 := hlt
  have hwords : Nat.pow 256 8 = 2 ^ 64 := rfl
  unfold blockSize?
  rw [hwords]
  refine if_pos ⟨?_, ?_⟩
  · unfold headerLength
    omega
  · unfold aligned headerLength
    omega

/-- A block that is provided is allocated behind its header. -/
theorem Arena.Provides.alloc_eq {arena : Arena τ} {size : Nat} (hprovides : arena.Provides size) :
    arena.alloc size =
      let reserved := Platform.reserve arena (size + headerLength)
      (reserved.1 + headerLength, { reserved.2 with
        memory := reserved.2.memory.store reserved.1
          (Bytes.ofNatLE (Platform.wordLength τ) size) }) := by
  have hne := hprovides.base_ne
  rw [alloc, hprovides.layout]
  dsimp only
  generalize Platform.reserve arena (size + headerLength) = reserved at hne ⊢
  obtain ⟨_ | base, after⟩ := reserved
  · exact absurd rfl hne
  · rfl

/-! ## Answers -/

/-- What a function returned conveys an answer: the word that it returned is decoded to a region
that holds the answer, or to a failure if there is none. -/
def Conveys (result : UInt64 × Arena τ) : Option Bytes → Prop
  | some bytes => ∃ ptr len, PackedResult.decode result.1 = .success ptr len ∧
      len.toNat = bytes.length ∧ result.2.memory.read? ⟨ptr, len⟩ = some bytes
  | none => ∃ len, PackedResult.decode result.1 = .failure len

/-- What a function returned conveys an answer as long as there is a block for it. -/
def Delivers (arena : Arena τ) (result : UInt64 × Arena τ) (answer : Option Bytes) : Prop :=
  (∀ bytes, answer = some bytes → arena.Provides bytes.length) → Conveys result answer

variable {arena : Arena τ}

theorem conveys_handOver {bytes : Bytes} (hprovides : arena.Provides bytes.length) :
    Conveys (handOver arena bytes) (some bytes) := by
  let reserved := Platform.reserve arena (bytes.length + headerLength)
  let header := Bytes.ofNatLE (Platform.wordLength τ) bytes.length
  let region : Region := ⟨UInt32.ofNat (reserved.1 + headerLength), UInt32.ofNat bytes.length⟩
  have hptr : region.ptr.toNat = reserved.1 + headerLength :=
    UInt32.toNat_ofNat_of_lt' hprovides.data_lt
  have hlen : region.len.toNat = bytes.length := UInt32.toNat_ofNat_of_lt' hprovides.size_lt
  have hne : reserved.1 + headerLength ≠ 0 := Nat.succ_ne_zero _
  have hresult : handOver arena bytes = (pack (reserved.1 + headerLength) bytes.length,
      { reserved.2 with memory :=
        (reserved.2.memory.store reserved.1 header).store region.ptr.toNat bytes }) := by
    rw [handOver, hprovides.alloc_eq, hptr]
    rfl
  have hin : (reserved.2.memory.store reserved.1 header).Holds region := by
    rw [Memory.Holds, Region.stop, Memory.size_store, hptr, hlen]
    exact hprovides.inside
  rw [hresult]
  exact ⟨region.ptr, region.len, decode_pack hne hprovides.data_lt, hlen,
    Memory.read?_store _ hlen hin⟩

theorem delivers_handOver (bytes : Bytes) :
    Delivers arena (handOver arena bytes) (some bytes) :=
  fun hprovides => conveys_handOver (hprovides bytes rfl)

theorem delivers_answer (found : Option Bytes) : Delivers arena (answer arena found) found := by
  cases found with
  | some bytes => exact delivers_handOver bytes
  | none =>
    have hfailure : PackedResult.decode failure = .failure 0 := by decide
    exact fun _ => ⟨0, hfailure⟩

/-- All functions of the stand-in guest that have operands deliver the answers of its algorithms. -/
theorem delivers_answers {key message : Region} {keyBytes messageBytes : Bytes}
    (hkey : arena.memory.read? key = some keyBytes)
    (hmessage : arena.memory.read? message = some messageBytes) (chunks : Nat) :
    Delivers arena (getAddress arena key.ptr.toNat key.len.toNat) (Key.address keyBytes) ∧
    Delivers arena
      (sign arena key.ptr.toNat key.len.toNat message.ptr.toNat message.len.toNat)
      (Key.sign keyBytes messageBytes) ∧
    Delivers arena (hashMessage arena message.ptr.toNat message.len.toNat)
      (some (Bytes.ofText (Fnv.literal messageBytes))) ∧
    Delivers arena (hashMessageBytes arena message.ptr.toNat message.len.toNat)
      (some (Fnv.leBytes messageBytes)) ∧
    Delivers arena (formatMessage arena message.ptr.toNat message.len.toNat chunks)
      ((Message.render messageBytes chunks).map Bytes.ofText) ∧
    Delivers arena (recoverMessage arena message.ptr.toNat message.len.toNat)
      ((Utf8.decode? messageBytes).bind Message.parse) := by
  rw [getAddress, sign, hashMessage, hashMessageBytes, formatMessage, recoverMessage,
    Arena.operand_eq hkey, Arena.operand_eq hmessage]
  exact ⟨delivers_answer _, delivers_answer _, delivers_handOver _, delivers_handOver _,
    delivers_answer _, delivers_answer _⟩

/-! ## An empty operand -/

/-- A heap of the plain platform with a key of two bytes in it. -/
def keyedHeap : Heap :=
  Heap.empty.put 1032 [0x6B, 0x79]

/-- On that heap, the hash of an empty message is delivered, and so is that two bytes are no key. -/
theorem delivers_answers_keyedHeap :
    keyedHeap.memory.read? ⟨1032, 2⟩ = some [0x6B, 0x79] ∧
    keyedHeap.memory.read? ⟨1040, 0⟩ = some [] ∧
    keyedHeap.Provides (Fnv.leBytes []).length ∧
    Conveys (hashMessageBytes keyedHeap 1040 0) (some (Fnv.leBytes [])) ∧
    Conveys (getAddress keyedHeap 1032 2) none := by
  have hkey : keyedHeap.memory.read? ⟨1032, 2⟩ = some [0x6B, 0x79] :=
    Memory.read?_store _ rfl (by decide)
  have hmessage : keyedHeap.memory.read? ⟨1040, 0⟩ = some [] := by decide
  have hprovides : keyedHeap.Provides (Fnv.leBytes []).length :=
    ⟨by decide, blockSize?_eight (by decide), by decide +kernel, by decide +kernel,
      by decide +kernel⟩
  obtain ⟨haddress, -, -, hhash, -, -⟩ := delivers_answers hkey hmessage 1
  refine ⟨hkey, hmessage, hprovides, hhash ?_, haddress ?_⟩
  · rintro bytes ⟨⟩
    exact hprovides
  · nofun

end GuestBridge.StandIn
