import GuestBridge.Proofs.Message.RoundTrip
import GuestBridge.Proofs.Message.Unique

/-!
# Rendering what was read

Many texts are read as the same message: blanks, leading zeros, more chunks than needed and anything
behind the message in its last field make no difference. A literal is canonical if it has none of
these freedoms left (`Spelling.Canonical`): as few chunks as can be rendered, shortest numerals, and
zeros behind the message. A canonical literal that is read as a message is the literal that the
message is rendered as (`render_of_parse`). It pins down the fields because cutting a message undoes
putting its fields together (`chunkFields_of_padded`), and the numerals because a number has one
shortest numeral (`Spelling.Canonical.rendering_eq`).
-/

namespace GuestBridge.Message

open Decimal

/-! ## Cutting what was put together -/

/-- Groups of full size are cut from what they were put together to. -/
theorem groups_flatten {size : Nat} {pieces : List Bytes}
    (hsize : ∀ piece ∈ pieces, piece.length = size) :
    groups pieces.length size pieces.flatten = pieces := by
  induction pieces with
  | nil => rfl
  | cons piece pieces ih =>
    obtain ⟨rfl, hpieces⟩ := List.forall_mem_cons.1 hsize
    rw [List.length_cons, groups, List.flatten_cons, List.take_left, List.drop_left, ih hpieces]

/-- The numbers of fields are read from the bytes of the fields. -/
theorem groups_flatMap_ofNatLE {numbers : List Nat} (hlt : ∀ number ∈ numbers, number < 2 ^ 128) :
    (groups numbers.length fieldLength (numbers.flatMap (Bytes.ofNatLE fieldLength))).map
      Bytes.toNatLE = numbers := by
  have hsize : ∀ piece ∈ numbers.map (Bytes.ofNatLE fieldLength), piece.length = fieldLength := by
    intro piece hmem
    obtain ⟨number, -, rfl⟩ := List.mem_map.1 hmem
    exact Bytes.length_ofNatLE _ _
  have hgroups := groups_flatten hsize
  rw [List.length_map, ← List.flatMap_def] at hgroups
  rw [hgroups, List.map_map, List.map_congr_left, List.map_id]
  intro number hmem
  show Bytes.toNatLE (Bytes.ofNatLE fieldLength number) = number
  rw [Bytes.toNatLE_ofNatLE]
  exact Nat.mod_eq_of_lt (hlt number hmem)

/-- If a message and the zeros behind it are the bytes of fields, these are the fields of the
message. -/
theorem chunkFields_of_padded {message : Bytes} {chunks : List (List Nat)}
    (hchunks : ∀ numbers ∈ chunks,
      numbers.length = fieldsPerChunk ∧ ∀ number ∈ numbers, number < 2 ^ 128)
    (hpadded : padded message chunks.length = chunkBytes chunks) :
    chunkFields message chunks.length = chunks := by
  have hsize : ∀ piece ∈ chunks.map (·.flatMap (Bytes.ofNatLE fieldLength)),
      piece.length = chunkLength := by
    intro piece hmem
    obtain ⟨numbers, hnumbers, rfl⟩ := List.mem_map.1 hmem
    simp [List.length_flatMap, (hchunks numbers hnumbers).1, chunkLength, Nat.mul_comm]
  have hpieces : chunkBytes chunks =
      (chunks.map (·.flatMap (Bytes.ofNatLE fieldLength))).flatten := by
    rw [chunkBytes, ← List.flatMap_id, List.flatMap_assoc, List.flatMap_def]
    rfl
  have hgroups := groups_flatten hsize
  rw [List.length_map] at hgroups
  rw [chunkFields, hpadded, hpieces, hgroups, List.map_map, List.map_congr_left, List.map_id]
  intro numbers hnumbers
  obtain ⟨hlength, hlt⟩ := hchunks numbers hnumbers
  have hnumbers := groups_flatMap_ofNatLE hlt
  rw [hlength] at hnumbers
  exact hnumbers

/-! ## Canonical literals -/

/-- The bytes of all fields of a literal, in order. -/
def Spelling.fieldBytes (spelling : Spelling) : Bytes :=
  spelling.chunks.flatten.flatMap fun numeral => Bytes.ofNatLE 16 (value numeral)

/-- The literal has no freedom left: it has at most 32 chunks, there are no superfluous zeros at the
front of its numerals, and every byte of its fields behind the message that it holds is zero. -/
structure Spelling.Canonical (spelling : Spelling) : Prop where
  count_le : spelling.chunks.length ≤ 32
  length : IsShortest spelling.length
  fields : ∀ numerals ∈ spelling.chunks, ∀ numeral ∈ numerals, IsShortest numeral
  padding : ∀ byte ∈ spelling.fieldBytes.drop spelling.message.length, byte = 0

namespace Spelling

variable {spelling : Spelling}

theorem Canonical.isNumeric (hcanonical : spelling.Canonical) : spelling.IsNumeric where
  length := hcanonical.length.toIsNumeral
  chunks numerals hnumerals numeral hnumeral :=
    (hcanonical.fields numerals hnumerals numeral hnumeral).toIsNumeral

theorem fieldBytes_eq (spelling : Spelling) :
    spelling.fieldBytes = chunkBytes (spelling.chunks.map (·.map value)) := by
  rw [fieldBytes, chunkBytes, ← List.map_flatten, List.flatMap_map]
  rfl

/-- A valid literal holds as many bytes as it states. -/
theorem Valid.length_message (hvalid : spelling.Valid) :
    spelling.message.length = value spelling.length := by
  rw [message_eq, List.length_take, length_chunkBytes hvalid.chunks,
    Nat.min_eq_left hvalid.length_le]

/-- The fields of a valid canonical literal hold its message and the zeros behind it. -/
theorem Valid.padded_message (hvalid : spelling.Valid) (hcanonical : spelling.Canonical) :
    padded spelling.message spelling.chunks.length = spelling.fieldBytes := by
  have hfront : spelling.fieldBytes.take spelling.message.length = spelling.message := by
    rw [hvalid.length_message, spelling.fieldBytes_eq, spelling.message_eq]
  have hbehind := List.eq_replicate_of_mem hcanonical.padding
  have hlength : spelling.fieldBytes.length = 512 * spelling.chunks.length := by
    rw [spelling.fieldBytes_eq, length_chunkBytes hvalid.chunks]
  rw [List.length_drop, hlength, Nat.mul_comm] at hbehind
  rw [padded, ← List.take_append_drop spelling.message.length spelling.fieldBytes, hfront, hbehind]
  rfl

/-- Shortest numerals are the ones that are rendered for their numbers. -/
theorem Canonical.rendering_eq (hcanonical : spelling.Canonical) :
    rendering (value spelling.length) (spelling.chunks.map (·.map value)) = spelling := by
  have hchunks :
      (spelling.chunks.map (·.map value)).map (·.map Decimal.write) = spelling.chunks := by
    rw [List.map_map, List.map_congr_left, List.map_id]
    intro numerals hnumerals
    show (numerals.map value).map Decimal.write = numerals
    rw [List.map_map, List.map_congr_left, List.map_id]
    intro numeral hnumeral
    exact (hcanonical.fields numerals hnumerals numeral hnumeral).write_value
  rw [rendering, hcanonical.length.write_value, hchunks]

end Spelling

/-- A text that is read as a message and is spelled as a canonical literal is, up to whitespace,
what the message is rendered as in as many chunks. -/
theorem render_of_parse {text : String} {bytes : Bytes} {spelling : Spelling}
    (hparse : parse text = some bytes) (htext : compact text.toList = spelling.text)
    (hcanonical : spelling.Canonical) :
    ∃ rendered, render bytes spelling.chunks.length = some rendered ∧
      compact rendered.toList = compact text.toList := by
  obtain ⟨read, hvalid, hread, rfl⟩ := spelling_of_parse hparse
  obtain rfl : spelling = read :=
    Spelling.text_inj hcanonical.isNumeric hvalid.isNumeric (htext.symm.trans hread)
  have hfits : Fits spelling.message.length spelling.chunks.length := by
    refine ⟨List.length_pos_of_ne_nil hvalid.ne_nil, hcanonical.count_le, ?_⟩
    rw [hvalid.length_message, Nat.mul_comm]
    exact hvalid.length_le
  have hfields : chunkFields spelling.message spelling.chunks.length =
      spelling.chunks.map (·.map value) := by
    rw [← List.length_map (·.map value)]
    refine chunkFields_of_padded ?_ ?_
    · intro numbers hnumbers
      obtain ⟨numerals, hnumerals, rfl⟩ := List.mem_map.1 hnumbers
      obtain ⟨hlength, hfields⟩ := hvalid.chunks numerals hnumerals
      refine ⟨(List.length_map _).trans hlength, fun number hnumber => ?_⟩
      obtain ⟨numeral, hnumeral, rfl⟩ := List.mem_map.1 hnumber
      exact (hfields numeral hnumeral).2
    · rw [List.length_map, hvalid.padded_message hcanonical, spelling.fieldBytes_eq]
  refine ⟨_, if_pos hfits, ?_⟩
  rw [String.toList_ofList, compact_renderStruct, hfields, hvalid.length_message,
    hcanonical.rendering_eq, htext]

/-- A literal of two chunks for the bytes of `hi` and a zero. -/
def canonicalSample : Spelling where
  length := ['3']
  chunks := [['2', '6', '9', '8', '4'] :: List.replicate 31 ['0'], List.replicate 32 ['0']]

/-- Blanks make no difference to the message, nor does a zero at its end. -/
theorem render_of_parse_canonicalSample :
    let text := String.ofList ('\t' :: canonicalSample.text ++ [' '])
    parse text = some [0x68, 0x69, 0x00] ∧ compact text.toList = canonicalSample.text ∧
      canonicalSample.Canonical ∧
      ∃ rendered, render [0x68, 0x69, 0x00] 2 = some rendered ∧
        compact rendered.toList = compact text.toList := by
  intro text
  have htext : compact text.toList = canonicalSample.text := by
    rw [String.toList_ofList]
    decide +kernel
  have hvalid : canonicalSample.Valid := ⟨by decide, by decide, by decide, by decide⟩
  have hcanonical : canonicalSample.Canonical :=
    ⟨by decide, by decide, by decide, by decide +kernel⟩
  have hparse : parse text = some [0x68, 0x69, 0x00] :=
    parse_of_spelling hvalid (by decide) htext
  exact ⟨hparse, htext, hcanonical, render_of_parse hparse htext hcanonical⟩

end GuestBridge.Message
