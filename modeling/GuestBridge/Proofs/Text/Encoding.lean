import GuestBridge.Operation
import Mathlib.Tactic.SplitIfs

/-!
# Texts as bytes

The bytes of a text are the encodings of its characters, one behind the other (`Bytes.ofText_eq`),
and decoding them gives the text back (`Utf8.decode?_ofText`). ASCII bytes are the bytes of a text
(`Bytes.IsAscii.ofText_eq_self`). No encoding but that of the line feed itself has the byte of the
line feed in it, so removing that byte from a text is removing the character
(`withoutLineFeeds_ofText`).
-/

namespace GuestBridge

namespace Bytes

theorem toList_loop (bytes : ByteArray) (index : Nat) (found : Bytes) :
    ByteArray.toList.loop bytes index found = found.reverse ++ bytes.data.toList.drop index := by
  fun_induction ByteArray.toList.loop bytes index found with
  | case1 index found hlt ih =>
    have hindex : index < bytes.data.toList.length := hlt
    have hget : bytes.get! index = bytes.data.toList[index] := by
      simp only [ByteArray.get!, getElem!_pos bytes.data index hlt, Array.getElem_toList]
    rw [ih, List.drop_eq_getElem_cons hindex, List.reverse_cons, List.append_assoc, hget]
    rfl
  | case2 index found hge =>
    have hend : bytes.data.toList.length ≤ index := Nat.le_of_not_lt hge
    rw [List.drop_eq_nil_of_le hend, List.append_nil]

theorem ofText_eq_data (text : String) : ofText text = text.toByteArray.data.toList := by
  show ByteArray.toList.loop _ _ _ = _
  rw [toList_loop]
  rfl

/-- The bytes of a text are those of its characters, in order. -/
theorem ofText_eq (text : String) : ofText text = text.toList.flatMap String.utf8EncodeChar := by
  rw [ofText_eq_data, ← String.utf8Encode_toList, List.utf8Encode, List.toList_data_toByteArray]

/-- The bytes are those of ASCII characters. -/
def IsAscii (bytes : Bytes) : Prop :=
  ∀ byte ∈ bytes, byte < 0x80

instance (bytes : Bytes) : Decidable (IsAscii bytes) :=
  inferInstanceAs (Decidable (∀ byte ∈ bytes, byte < 0x80))

theorem utf8EncodeChar_of_ascii {byte : UInt8} (hlt : byte < 0x80) :
    String.utf8EncodeChar (Char.ofUInt8 byte) = [byte] := by
  have hcode : (Char.ofUInt8 byte).val.toNat = byte.toNat := UInt8.toNat_toUInt32 byte
  have hsmall : byte.toNat ≤ 0x7F := Nat.le_of_lt_succ (UInt8.lt_iff_toNat_lt.1 hlt)
  simp only [String.utf8EncodeChar, hcode, if_pos hsmall, UInt8.ofNat_toNat]

/-- ASCII bytes are the bytes of the text with the characters that they number. -/
theorem IsAscii.ofText_eq_self {bytes : Bytes} (hascii : IsAscii bytes) :
    ofText (String.ofList (bytes.map Char.ofUInt8)) = bytes := by
  rw [ofText_eq, String.toList_ofList, List.flatMap_map]
  induction bytes with
  | nil => rfl
  | cons byte rest ih =>
    obtain ⟨hbyte, hrest⟩ := List.forall_mem_cons.1 hascii
    rw [List.flatMap_cons, utf8EncodeChar_of_ascii hbyte, ih hrest, List.singleton_append]

end Bytes

/-- A text is decoded from its bytes. -/
theorem Utf8.decode?_ofText (text : String) : decode? (Bytes.ofText text) = some text := by
  have harray : (Bytes.ofText text).toByteArray = text.toByteArray := by
    rw [Bytes.ofText_eq, ← String.utf8Encode_toList, List.utf8Encode]
  unfold decode? String.fromUTF8?
  rw [harray, dif_pos text.isValidUTF8]
  rfl

/-- The byte of the line feed stands in no encoding but the line feed's own: every byte of a longer
encoding is at least `0x80`. -/
theorem lineFeed_mem_utf8EncodeChar {char : Char} (hmem : 0x0A ∈ String.utf8EncodeChar char) :
    char = '\n' := by
  have hcode : ∀ {code : Nat}, code < 256 → ((0x0A : UInt8) = UInt8.ofNat code ↔ code = 10) := by
    intro code hlt
    rw [← UInt8.toNat_inj, UInt8.toNat_ofNat_of_lt' (by simpa using hlt)]
    exact eq_comm
  have hval : char.val.toNat = 10 := by
    simp only [String.utf8EncodeChar] at hmem
    split_ifs at hmem <;>
      simp (disch := omega) only [List.mem_cons, List.not_mem_nil, or_false, hcode] at hmem <;>
      omega
  exact Char.ext (UInt32.toNat_inj.1 hval)

/-- Removing the bytes of line feeds from a text removes the line feeds. -/
theorem withoutLineFeeds_ofText (text : String) :
    Operation.withoutLineFeeds (Bytes.ofText text) =
      Bytes.ofText (String.ofList (text.toList.filter (· ≠ '\n'))) := by
  rw [Bytes.ofText_eq, Bytes.ofText_eq, Operation.withoutLineFeeds, String.toList_ofList]
  induction text.toList with
  | nil => rfl
  | cons char chars ih =>
    rw [List.flatMap_cons, List.filter_append, ih, List.filter_cons]
    by_cases hfeed : char = '\n'
    · subst hfeed
      rfl
    · have hkept : (String.utf8EncodeChar char).filter (· ≠ 0x0A) = String.utf8EncodeChar char :=
        List.filter_eq_self.2 fun byte hbyte =>
          decide_eq_true fun heq => hfeed (lineFeed_mem_utf8EncodeChar (heq ▸ hbyte))
      rw [hkept, if_pos (decide_eq_true hfeed), List.flatMap_cons]

end GuestBridge
