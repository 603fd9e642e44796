import GuestBridge.Proofs.Heap.Transport
import GuestBridge.Proofs.Key.Shape
import GuestBridge.Proofs.Text.Lossy

/-!
# Addresses and signatures pass the checks of the host

The blocks that a seed expands to make up a stream without an end, in which each byte has its place
(`streamByte`). An expansion selects its characters by the first bytes of that stream, wherever its
last block ends (`expand_eq`), so it has as many characters as were asked for and all of them are of
the alphabet. Therefore addresses and signatures have their shapes for every key and every message.
The host checks the length of such a result and that it is text, and neither check ever fails
(`Accepted`); `presents_expand` collects this for whatever is expanded under the test for private
keys, and `addresses_and_signatures_pass` says it of addresses and signatures.
-/

namespace GuestBridge.Key

/-! ## The stream of blocks -/

/-- The byte at a place of the stream that the blocks of a seed make up, one behind the other. -/
def streamByte (seed : Fnv.State) (place : Nat) : UInt8 :=
  (block seed (place / 16)).getD (place % 16) 0

/-- A block covers sixteen places of the stream. -/
theorem block_eq (seed : Fnv.State) (counter : Nat) :
    block seed counter =
      (List.range 16).map fun offset => streamByte seed (counter * 16 + offset) := by
  have hlength : (block seed counter).length = 16 := Bytes.length_ofNatLE 16 _
  refine List.ext_getElem (by rw [hlength, List.length_map, List.length_range]) ?_
  intro offset hoffset _
  have hlt : offset < 16 := hlength ▸ hoffset
  have hblock : (counter * 16 + offset) / 16 = counter := by omega
  have hplace : (counter * 16 + offset) % 16 = offset := by omega
  rw [List.getElem_map, List.getElem_range, streamByte, hblock, hplace,
    List.getD_eq_getElem _ _ hoffset]

/-- So many blocks are the beginning of the stream. -/
theorem flatMap_block (seed : Fnv.State) (count : Nat) :
    (List.range count).flatMap (block seed) =
      (List.range (count * 16)).map (streamByte seed) := by
  induction count with
  | zero => rfl
  | succ count ih =>
    rw [List.range_succ, List.flatMap_append, ih, List.flatMap_singleton, Nat.succ_mul,
      List.range_add, List.map_append, List.map_map, block_eq]
    rfl

/-- The characters of an expansion are selected by the first bytes of the stream. -/
theorem expand_eq (seed : Fnv.State) (alphabet : Bytes) (length : Nat) :
    expand seed alphabet length =
      (List.range length).map fun place => pick alphabet (streamByte seed place) := by
  have hcovered : length ≤ (length + 15) / 16 * 16 := by omega
  rw [expand, flatMap_block, ← List.map_take, List.take_range, Nat.min_eq_left hcovered,
    List.map_map]
  rfl

theorem shaped_append_expand (start : Bytes) {alphabet : Bytes} (hne : alphabet ≠ [])
    (seed : Fnv.State) (count : Nat) :
    Shaped start alphabet count (start ++ expand seed alphabet count) := by
  refine ⟨expand seed alphabet count, rfl, ?_, fun char hchar => ?_⟩
  · rw [expand_eq, List.length_map, List.length_range]
  · rw [expand_eq] at hchar
    obtain ⟨place, -, rfl⟩ := List.mem_map.1 hchar
    exact pick_mem hne _

/-! ## The checks of the host -/

/-- The host accepts a byte string as the result of an export that has to be a text of a certain
size: from whatever region it reads these bytes, its checks of the length and of the text succeed,
and the text that it gets has these bytes. -/
def Accepted (entry : PackedExport) (size : Nat) (bytes : Bytes) : Prop :=
  ∀ {σ : Type} (lease : Lease σ) (region : Region),
    lease.guest.memory.read? region = some bytes → ∃ text last,
      (do Lease.expectLength entry size region; Lease.readText entry region) lease =
        .ok text last ∧ Bytes.ofText text = bytes

theorem accepted_of_isAscii (entry : PackedExport) {size : Nat} {bytes : Bytes}
    (hlength : bytes.length = size) (hascii : Bytes.IsAscii bytes) : Accepted entry size bytes := by
  intro σ lease region hread
  let text := String.ofList (bytes.map Char.ofUInt8)
  have hbytes : Bytes.ofText text = bytes := hascii.ofText_eq_self
  have hdecoded : Utf8.decode? bytes = some text := Utf8.decode?_eq_some_iff.2 hbytes
  have hcopied : Lease.read region lease = .ok bytes (lease.recorded (.read region)) := by
    rw [Lease.read_eq, hread]
  have htext : Lease.readText entry region lease = .ok text (lease.recorded (.read region)) := by
    rw [Lease.readText, Lease.bind_of_ok hcopied, hdecoded]
    rfl
  have hchecked : Lease.expectLength entry size region lease = .ok () lease :=
    Operation.expectLength_eq_ok hread entry hlength
  exact ⟨text, _, (Lease.bind_of_ok hchecked _).trans htext, hbytes⟩

/-! ## What is made from a private key -/

/-- What is made from a key is there exactly if the key is a private key. Then it has so many bytes
in all, namely a beginning and so many characters of an alphabet, and the host accepts it as the
result of an export that has to be a text of a certain size. -/
structure Presents (key start alphabet : Bytes) (count total : Nat) (entry : PackedExport)
    (size : Nat) (made : Option Bytes) : Prop where
  isSome_iff : made.isSome = true ↔ isPrivateKey key = true
  length_eq : ∀ bytes ∈ made, bytes.length = total
  shaped : ∀ bytes ∈ made, Shaped start alphabet count bytes
  accepted : ∀ bytes ∈ made, Accepted entry size bytes

/-- Whatever is expanded behind a beginning if a key is a private key is presentable, as long as the
beginning and the alphabet are ASCII. -/
theorem presents_expand (key : Bytes) {start alphabet : Bytes} {count size : Nat}
    (hne : alphabet ≠ []) (hstart : Bytes.IsAscii start) (halphabet : Bytes.IsAscii alphabet)
    (hsize : start.length + count = size) (entry : PackedExport) (seed : Fnv.State) :
    Presents key start alphabet count size entry size
      (if isPrivateKey key then some (start ++ expand seed alphabet count) else none) := by
  have hshaped := shaped_append_expand start hne seed count
  have hlength := hshaped.length_eq.trans hsize
  by_cases hkey : isPrivateKey key = true
  · rw [if_pos hkey]
    refine ⟨iff_of_true rfl hkey, ?_, ?_, ?_⟩
    · rintro _ ⟨⟩
      exact hlength
    · rintro _ ⟨⟩
      exact hshaped
    · rintro _ ⟨⟩
      exact accepted_of_isAscii entry hlength (hshaped.isAscii hstart halphabet)
  · rw [if_neg hkey]
    exact ⟨iff_of_false Bool.false_ne_true hkey, nofun, nofun, nofun⟩

/-- There are an address of a key and a signature with it exactly if it is a private key, whatever
the message is. Both have their shapes, and the host never rejects them. -/
theorem addresses_and_signatures_pass (key message : Bytes) :
    Presents key (Bytes.ofText "aleo1") bech32 58 63 .getAddress Operation.addressSize
        (address key) ∧
      Presents key (Bytes.ofText "sign1") base58 211 216 .sign Operation.signatureSize
        (sign key message) := by
  have haddress : Bytes.ofText "aleo1" = addressPrefix := by decide +kernel
  have hsignature : Bytes.ofText "sign1" = signaturePrefix := by decide +kernel
  have hbech32 : Bytes.IsAscii bech32 := by decide +kernel
  rw [haddress, hsignature]
  exact ⟨presents_expand key (by decide) (by decide +kernel) hbech32 rfl .getAddress
      (Fnv.digest key),
    presents_expand key (by decide) (by decide +kernel) isAscii_base58 rfl .sign
      (signatureSeed key message)⟩

end GuestBridge.Key
