import GuestBridge.Key
import GuestBridge.Proofs.Text.Encoding
import Mathlib.Data.List.GetD
import Mathlib.Data.Set.List

/-!
# The shape of keys

Keys, addresses and signatures have one shape in common: a fixed beginning, and behind it so many
characters of an alphabet (`Shaped`). The test for private keys is the test for the shape of one
(`isPrivateKey_iff_shaped`). What bytes select from an alphabet are its characters, and every
character is selected by a byte as long as there are not more characters than bytes (`exists_pick`).
So whatever has the shape of a private key is spelled by a seed, and the test accepts exactly the
keys that are generated (`accepts_exactly_generated`).
-/

namespace GuestBridge.Key

/-! ## Alphabets -/

theorem pick_mem {alphabet : Bytes} (hne : alphabet ≠ []) (byte : UInt8) :
    pick alphabet byte ∈ alphabet := by
  have hplace : byte.toNat % alphabet.length < alphabet.length :=
    Nat.mod_lt _ (List.length_pos_iff.2 hne)
  rw [pick, List.getD_eq_getElem _ _ hplace]
  exact List.getElem_mem hplace

/-- A byte selects each character of an alphabet that has not more characters than there are
bytes. -/
theorem exists_pick {alphabet : Bytes} (hsize : alphabet.length ≤ 256) {char : UInt8}
    (hmem : char ∈ alphabet) : ∃ byte, pick alphabet byte = char := by
  obtain ⟨place, hplace, hchar⟩ := List.getElem_of_mem hmem
  have hbyte : (UInt8.ofNat place).toNat = place :=
    UInt8.toNat_ofNat_of_lt' (Nat.lt_of_lt_of_le hplace hsize)
  refine ⟨UInt8.ofNat place, ?_⟩
  rw [pick, hbyte, Nat.mod_eq_of_lt hplace, List.getD_eq_getElem _ _ hplace, hchar]

/-- Texts over an alphabet are what byte strings of the same length select from it. -/
theorem exists_map_pick {alphabet : Bytes} (hsize : alphabet.length ≤ 256) {text : Bytes}
    (hmem : ∀ char ∈ text, char ∈ alphabet) :
    ∃ seed : Bytes, seed.length = text.length ∧ seed.map (pick alphabet) = text := by
  have hrange : text ∈ Set.range (List.map (pick alphabet)) := by
    rw [Set.range_list_map]
    exact fun char hchar => exists_pick hsize (hmem char hchar)
  obtain ⟨seed, rfl⟩ := hrange
  exact ⟨seed, (List.length_map _).symm, rfl⟩

/-! ## Shapes -/

/-- A byte string has the shape of a beginning with so many characters of an alphabet behind it. -/
def Shaped (start alphabet : Bytes) (count : Nat) (bytes : Bytes) : Prop :=
  ∃ body, bytes = start ++ body ∧ body.length = count ∧ ∀ char ∈ body, char ∈ alphabet

namespace Shaped

variable {start alphabet bytes : Bytes} {count : Nat}

theorem length_eq (hshaped : Shaped start alphabet count bytes) :
    bytes.length = start.length + count := by
  obtain ⟨body, rfl, rfl, -⟩ := hshaped
  exact List.length_append

theorem start_prefix (hshaped : Shaped start alphabet count bytes) : start <+: bytes := by
  obtain ⟨body, rfl, -, -⟩ := hshaped
  exact List.prefix_append _ _

theorem isAscii (hshaped : Shaped start alphabet count bytes) (hstart : Bytes.IsAscii start)
    (halphabet : Bytes.IsAscii alphabet) : Bytes.IsAscii bytes := by
  obtain ⟨body, rfl, -, hbody⟩ := hshaped
  intro byte hmem
  rcases List.mem_append.1 hmem with hfront | hback
  · exact hstart byte hfront
  · exact halphabet byte (hbody byte hback)

end Shaped

/-! ## Private keys -/

theorem isAscii_base58 : Bytes.IsAscii base58 := by
  decide +kernel

theorem privateKeyPrefix_eq : privateKeyPrefix = Bytes.ofText "APrivateKey1" := by
  decide +kernel

/-- What passes for a private key is what has the shape of one. -/
theorem isPrivateKey_iff_shaped {key : Bytes} :
    isPrivateKey key = true ↔ Shaped privateKeyPrefix base58 seedLength key := by
  rw [isPrivateKey, Bool.and_eq_true, Bool.and_eq_true, beq_iff_eq, List.isPrefixOf_iff_prefix,
    List.all_eq_true]
  have hlength : privateKeyPrefix.length + seedLength = privateKeyLength := rfl
  constructor
  · rintro ⟨⟨hkey, body, rfl⟩, hbody⟩
    rw [List.drop_left] at hbody
    rw [List.length_append, ← hlength] at hkey
    exact ⟨body, rfl, Nat.add_left_cancel hkey,
      fun char hchar => List.contains_iff_mem.1 (hbody char hchar)⟩
  · intro hshaped
    refine ⟨⟨hshaped.length_eq, hshaped.start_prefix⟩, ?_⟩
    obtain ⟨body, rfl, -, hbody⟩ := hshaped
    rw [List.drop_left]
    exact fun char hchar => List.contains_iff_mem.2 (hbody char hchar)

/-- A seed spells something with the shape of a private key. -/
theorem shaped_privateKey {seed : Bytes} (hseed : seed.length = seedLength) :
    Shaped privateKeyPrefix base58 seedLength (privateKey seed) := by
  have hne : base58 ≠ [] := by decide
  refine ⟨seed.map (pick base58), rfl, (List.length_map _).trans hseed, fun char hchar => ?_⟩
  obtain ⟨byte, -, rfl⟩ := List.mem_map.1 hchar
  exact pick_mem hne byte

/-- Whatever has the shape of a private key is spelled by a seed. -/
theorem exists_privateKey_eq {key : Bytes}
    (hshaped : Shaped privateKeyPrefix base58 seedLength key) :
    ∃ seed, seed.length = seedLength ∧ privateKey seed = key := by
  have hsize : base58.length ≤ 256 := by decide
  obtain ⟨body, rfl, hlength, hbody⟩ := hshaped
  obtain ⟨seed, hseed, hpicked⟩ := exists_map_pick hsize hbody
  refine ⟨seed, hseed.trans hlength, ?_⟩
  rw [privateKey, hpicked]

/-- The byte strings that pass for a private key are the keys of the seeds of 47 bytes, and each of
these has 59 bytes, begins as it should and is ASCII. -/
theorem accepts_exactly_generated :
    (∀ key, isPrivateKey key = true ↔ ∃ seed, seed.length = 47 ∧ privateKey seed = key) ∧
      ∀ seed, seed.length = 47 → (privateKey seed).length = 59 ∧
        Bytes.ofText "APrivateKey1" <+: privateKey seed ∧
        ∀ byte ∈ privateKey seed, byte < 0x80 := by
  have hstart : Bytes.IsAscii privateKeyPrefix := by decide +kernel
  refine ⟨fun key => ?_, fun seed hseed => ?_⟩
  · rw [isPrivateKey_iff_shaped]
    constructor
    · exact exists_privateKey_eq
    · rintro ⟨seed, hseed, rfl⟩
      exact shaped_privateKey hseed
  · have hshaped := shaped_privateKey hseed
    rw [← privateKeyPrefix_eq]
    exact ⟨hshaped.length_eq, hshaped.start_prefix, hshaped.isAscii hstart isAscii_base58⟩

/-- The key of a seed of bytes that are larger than the alphabet passes and is an ASCII text of 59
bytes. -/
theorem accepts_exactly_generated_large :
    let seed : Bytes := List.replicate 47 0xFF
    seed.length = 47 ∧ isPrivateKey (privateKey seed) = true ∧ (privateKey seed).length = 59 ∧
      Bytes.ofText "APrivateKey1" <+: privateKey seed ∧ ∀ byte ∈ privateKey seed, byte < 0x80 := by
  intro seed
  have hseed : seed.length = 47 := List.length_replicate
  obtain ⟨haccepts, hgenerated⟩ := accepts_exactly_generated
  exact ⟨hseed, (haccepts _).2 ⟨seed, hseed, rfl⟩, hgenerated seed hseed⟩

end GuestBridge.Key
