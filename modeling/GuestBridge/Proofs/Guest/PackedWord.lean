import GuestBridge.Proofs.Lease.Step
import GuestBridge.StandIn

/-!
# Words and the results they stand for

The two halves of a packed word are the pointer and the length of a result, so a word says the same
as the result that it is decoded to (`encode_decode`). The other way round there is one exception: a
success with a null pointer has the word of a failure (`decode_encode_success`). All other results
are `Proper`, and words and proper results correspond one to one (`words_are_results`). The word may
be read as a signed number on its way to the host, and the guest packs it by code of its own
(`StandIn.pack`). Neither makes a difference.
-/

namespace GuestBridge

namespace PackedResult

/-! ## The halves of a word -/

section
variable (ptr len : UInt32)

/-- The word of a result has its length in the high half and its pointer in the low half. -/
theorem toNat_encode_success :
    (encode (.success ptr len)).toNat = len.toNat * 2 ^ 32 + ptr.toNat := by
  have hptr := ptr.toNat_lt
  have hlen := len.toNat_lt
  have hor := Nat.shiftLeft_add_eq_or_of_lt hptr len.toNat
  have hshift : (32 : UInt64).toNat % 64 = 32 := rfl
  rw [encode, UInt64.toNat_or, UInt64.toNat_shiftLeft, UInt32.toNat_toUInt64,
    UInt32.toNat_toUInt64, hshift, Nat.mod_eq_of_lt, ← hor, Nat.shiftLeft_eq]
  rw [Nat.shiftLeft_eq]
  omega

theorem low_encode_success : (encode (.success ptr len)).toUInt32 = ptr := by
  have hptr := ptr.toNat_lt
  rw [← UInt32.toNat_inj, UInt64.toNat_toUInt32, toNat_encode_success]
  omega

theorem high_encode_success : (encode (.success ptr len) >>> 32).toUInt32 = len := by
  have hptr := ptr.toNat_lt
  have hlen := len.toNat_lt
  have hshift : (32 : UInt64).toNat % 64 = 32 := rfl
  rw [← UInt32.toNat_inj, UInt64.toNat_toUInt32, UInt64.toNat_shiftRight, toNat_encode_success,
    hshift, Nat.shiftRight_eq_div_pow]
  omega

/-- The word of a success stands for that success, unless the pointer is null. -/
theorem decode_encode_success :
    decode (encode (.success ptr len)) = if ptr = 0 then .failure len else .success ptr len := by
  rw [decode, low_encode_success, high_encode_success]

/-- A failure has the word of a success with a null pointer. -/
theorem encode_failure : encode (.failure len) = encode (.success 0 len) := by
  have hnull : (0 : UInt32).toUInt64 = 0 := rfl
  rw [encode, encode, hnull, UInt64.or_zero]

theorem decode_encode_failure : decode (encode (.failure len)) = .failure len := by
  rw [encode_failure, decode_encode_success, if_pos rfl]

end

section
variable (word : UInt64)

theorem toNat_low : word.toUInt32.toNat = word.toNat % 2 ^ 32 :=
  word.toNat_toUInt32

theorem toNat_high : (word >>> 32).toUInt32.toNat = word.toNat / 2 ^ 32 := by
  have hword := word.toNat_lt
  have hshift : (32 : UInt64).toNat % 64 = 32 := rfl
  rw [UInt64.toNat_toUInt32, UInt64.toNat_shiftRight, hshift, Nat.shiftRight_eq_div_pow]
  omega

/-- The halves of a word make up the word. -/
theorem encode_halves : encode (.success word.toUInt32 (word >>> 32).toUInt32) = word := by
  rw [← UInt64.toNat_inj, toNat_encode_success, toNat_high, toNat_low, Nat.mul_comm,
    Nat.div_add_mod]

theorem low_eq_zero_iff : word.toUInt32 = 0 ↔ 2 ^ 32 ∣ word.toNat := by
  rw [← UInt32.toNat_inj, toNat_low, UInt32.toNat_zero, Nat.dvd_iff_mod_eq_zero]

/-! ## One to one -/

/-- Decoding loses nothing. -/
theorem encode_decode : encode (decode word) = word := by
  unfold decode
  by_cases hnull : word.toUInt32 = 0
  · have hword := encode_halves word
    rw [hnull] at hword
    rw [if_pos hnull, encode_failure, hword]
  · rw [if_neg hnull, encode_halves]

/-- A word stands for a failure exactly if its low half is null. -/
theorem exists_decode_eq_failure_iff :
    (∃ len, decode word = .failure len) ↔ 2 ^ 32 ∣ word.toNat := by
  rw [← low_eq_zero_iff]
  unfold decode
  by_cases hnull : word.toUInt32 = 0
  · rw [if_pos hnull]
    exact ⟨fun _ => hnull, fun _ => ⟨_, rfl⟩⟩
  · rw [if_neg hnull]
    exact ⟨nofun, fun h => absurd h hnull⟩

end

/-- A result that is not a success with a null pointer. -/
def Proper (result : PackedResult) : Prop :=
  ∀ len, result ≠ .success 0 len

theorem proper_success_iff {ptr len : UInt32} : Proper (.success ptr len) ↔ ptr ≠ 0 := by
  constructor
  · rintro hproper rfl
    exact hproper len rfl
  · rintro hptr other ⟨⟩
    exact hptr rfl

theorem proper_decode (word : UInt64) : (decode word).Proper := by
  unfold decode
  by_cases hnull : word.toUInt32 = 0
  · rw [if_pos hnull]
    nofun
  · rw [if_neg hnull]
    exact proper_success_iff.2 hnull

/-- The proper results are those that their words stand for. -/
theorem decode_encode_iff {result : PackedResult} :
    decode (encode result) = result ↔ result.Proper := by
  constructor
  · intro hresult
    rw [← hresult]
    exact proper_decode _
  · intro hproper
    cases result with
    | success ptr len => rw [decode_encode_success, if_neg (proper_success_iff.1 hproper)]
    | failure len => exact decode_encode_failure len

theorem invOn_encode_decode : Set.InvOn encode decode Set.univ {result | result.Proper} :=
  ⟨fun word _ => encode_decode word, fun _ hproper => decode_encode_iff.2 hproper⟩

/-- The guest packs an address and a length as the host does. -/
theorem pack_toNat (ptr len : UInt32) :
    StandIn.pack ptr.toNat len.toNat = encode (.success ptr len) := by
  rw [StandIn.pack, UInt32.ofNat_toNat, UInt32.ofNat_toNat, encode]

end PackedResult

/-! ## Words that the host unpacks -/

/-- The word from which a region was unpacked is the word of that region. -/
theorem Lease.unpack_eq_ok_iff {σ : Type} {entry : PackedExport} {word : UInt64}
    {more : List Value} {lease : Lease σ} {region : Region} :
    (∃ after, Lease.unpack entry (.i64 word :: more) lease = .ok region after) ↔
      region.ptr ≠ 0 ∧ (PackedResult.success region.ptr region.len).encode = word := by
  obtain ⟨ptr, len⟩ := region
  have hregion : regionOf? (.i64 word :: more) = some ⟨ptr, len⟩ ↔
      PackedResult.decode word = .success ptr len := by
    show Region.ofPacked? (PackedResult.decode word) = _ ↔ _
    cases PackedResult.decode word <;> simp [Region.ofPacked?]
  rw [Lease.unpack_eq]
  constructor
  · rintro ⟨after, hok⟩
    cases hunpacked : regionOf? (.i64 word :: more) with
    | none => rw [hunpacked] at hok; cases hok
    | some found =>
      rw [hunpacked] at hok
      cases hok
      have hdecode := hregion.1 hunpacked
      have hproper := PackedResult.proper_decode word
      rw [hdecode] at hproper
      refine ⟨PackedResult.proper_success_iff.1 hproper, ?_⟩
      rw [← hdecode, PackedResult.encode_decode]
  · rintro ⟨hptr, rfl⟩
    rw [hregion.2 (PackedResult.decode_encode_iff.2 (PackedResult.proper_success_iff.2 hptr))]
    exact ⟨lease, rfl⟩

namespace PackedResult

/-- Words and proper results correspond one to one. A word may be read as a signed number in
between, a word that is divisible by `2 ^ 32` stands for a failure, and a success with a null
pointer has the word of a failure with the same length. What the host unpacks from a word is the
region whose word it is, and the guest packs its results into just these words. -/
theorem words_are_results :
    (∀ word, encode (decode word) = word) ∧
    (∀ signed : Int64, (encode (decode signed.toUInt64)).toInt64 = signed) ∧
    (∀ result, decode (encode result) = result ↔ result.Proper) ∧
    (∀ len, decode (encode (.success 0 len)) = .failure len) ∧
    (∀ word, (∃ len, decode word = .failure len) ↔ 2 ^ 32 ∣ word.toNat) ∧
    (∀ (σ : Type) entry word more (lease : Lease σ) (region : Region),
      (∃ after, Lease.unpack entry (.i64 word :: more) lease = .ok region after) ↔
        region.ptr ≠ 0 ∧ encode (.success region.ptr region.len) = word) ∧
    (∀ ptr len : UInt32, decode (StandIn.pack ptr.toNat len.toNat) =
      if 0 < ptr then .success ptr len else .failure len) ∧
    Set.InvOn encode decode Set.univ {result | result.Proper} ∧
    Set.BijOn decode Set.univ {result | result.Proper} ∧
    Set.BijOn encode {result | result.Proper} Set.univ := by
  refine ⟨encode_decode, fun signed => ?_, fun _ => decode_encode_iff, fun len => ?_,
    exists_decode_eq_failure_iff, fun _ _ _ _ _ _ => Lease.unpack_eq_ok_iff, fun ptr len => ?_,
    invOn_encode_decode, ?_, ?_⟩
  · rw [encode_decode, Int64.toInt64_toUInt64]
  · rw [decode_encode_success, if_pos rfl]
  · rw [pack_toNat, decode_encode_success]
    by_cases hnull : ptr = 0
    · rw [if_pos hnull, if_neg (by rw [hnull]; decide)]
    · rw [if_neg hnull, if_pos (UInt32.pos_iff_ne_zero.2 hnull)]
  · exact invOn_encode_decode.bijOn (fun word _ => proper_decode word) fun _ _ => Set.mem_univ _
  · exact invOn_encode_decode.symm.bijOn (fun _ _ => Set.mem_univ _) fun word _ =>
      proper_decode word

end PackedResult

end GuestBridge
