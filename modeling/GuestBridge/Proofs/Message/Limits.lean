import GuestBridge.Proofs.Message.Canonical

/-!
# Limits on messages that are read

A message is formatted in at most 32 chunks, so a message of more than 16384 bytes cannot be
formatted at all (`formattable_iff`). The reader does not count the chunks that it reads. What it
reads from 32 chunks or fewer can be formatted in as many chunks again, and what it reads from more
can be formatted exactly if the length that the text states is within the limit
(`formattable_of_parse_iff`). A text of 33 chunks is enough to exceed it
(`parse_beyond_limits`).
-/

namespace GuestBridge.Message

open Decimal

/-- In some number of chunks a message can be formatted, and what it is rendered as is read back as
the message. -/
def Formattable (message : Bytes) : Prop :=
  ∃ chunks, Fits message.length chunks ∧
    ∃ text, render message chunks = some text ∧ parse text = some message

/-- A message that fits into chunks is rendered and read back. -/
theorem exists_render_of_fits {message : Bytes} {chunks : Nat} (hfits : Fits message.length chunks) :
    ∃ text, render message chunks = some text ∧ parse text = some message := by
  have hrender : render message chunks = some _ := if_pos hfits
  exact ⟨_, hrender, parse_of_compact_eq hrender rfl⟩

/-- The messages that can be formatted are those that fit into 32 chunks. -/
theorem formattable_iff {message : Bytes} : Formattable message ↔ message.length ≤ 512 * 32 := by
  constructor
  · rintro ⟨chunks, hfits, -⟩
    have hcount : chunks ≤ 32 := hfits.2.1
    have hlength : message.length ≤ chunks * 512 := hfits.2.2
    omega
  · intro hlength
    have hfits : Fits message.length 32 := ⟨by decide, Nat.le_refl 32, hlength⟩
    exact ⟨32, hfits, exists_render_of_fits hfits⟩

/-- What is read from a text can be formatted exactly if the length that the text states is within
the limit. If the text has no more than 32 chunks, that is so, and as many chunks are enough. -/
theorem formattable_of_parse_iff {text : String} {bytes : Bytes} (hparse : parse text = some bytes) :
    ∃ spelling : Spelling, spelling.Valid ∧ compact text.toList = spelling.text ∧
      bytes = spelling.message ∧
      (Formattable bytes ↔ value spelling.length ≤ 512 * 32) ∧
      (spelling.chunks.length ≤ 32 → Formattable bytes ∧
        ∃ rendered, render bytes spelling.chunks.length = some rendered ∧
          parse rendered = some bytes) := by
  obtain ⟨spelling, hvalid, htext, rfl⟩ := spelling_of_parse hparse
  have hlength := hvalid.length_message
  refine ⟨spelling, hvalid, htext, rfl, by rw [formattable_iff, hlength], fun hcount => ?_⟩
  have hfits : Fits spelling.message.length spelling.chunks.length := by
    refine ⟨List.length_pos_of_ne_nil hvalid.ne_nil, hcount, ?_⟩
    rw [hlength, Nat.mul_comm]
    exact hvalid.length_le
  have hrender := exists_render_of_fits hfits
  exact ⟨⟨_, hfits, hrender⟩, hrender⟩

/-! ## More chunks than can be formatted -/

/-- A text is read back that is laid out like a rendered one, whatever the number of its chunks. -/
theorem parse_renderStruct {length : Nat} {numbers : List (List Nat)} (hne : numbers ≠ [])
    (hnumbers : ∀ chunk ∈ numbers,
      chunk.length = fieldsPerChunk ∧ ∀ number ∈ chunk, number < 2 ^ 128)
    (hlength : length ≤ 512 * numbers.length) (hlt : length < UInt64.size) :
    parse (String.ofList (renderStruct length numbers)) =
      some ((chunkBytes numbers).take length) := by
  rw [← message_rendering_of]
  refine parse_of_spelling (valid_rendering_of hne hnumbers hlength) ?_ ?_
  · rwa [rendering, value_write]
  · rw [String.toList_ofList, compact_renderStruct]

/-- A text of 33 chunks of zeros that states the given length. -/
def zeroText (length : Nat) : String :=
  String.ofList (renderStruct length (List.replicate 33 (List.replicate 32 0)))

theorem parse_zeroText {length : Nat} (hlength : length ≤ 16896) :
    parse (zeroText length) = some (List.replicate length 0) := by
  have hfield : Bytes.ofNatLE fieldLength 0 = List.replicate 16 0 := by decide
  have hbytes : chunkBytes (List.replicate 33 (List.replicate 32 0)) = List.replicate 16896 0 := by
    rw [chunkBytes, List.flatten_replicate_replicate, List.flatMap_replicate, hfield,
      List.flatten_replicate_replicate]
  have hne : List.replicate 33 (List.replicate 32 0) ≠ [] := List.cons_ne_nil _ _
  have hnumbers : ∀ chunk ∈ List.replicate 33 (List.replicate 32 0),
      chunk.length = fieldsPerChunk ∧ ∀ number ∈ chunk, number < 2 ^ 128 := by
    intro chunk hchunk
    obtain rfl := List.eq_of_mem_replicate hchunk
    exact ⟨List.length_replicate, fun number hnumber => by
      rw [List.eq_of_mem_replicate hnumber]
      decide⟩
  have hfits : length ≤ 512 * (List.replicate 33 (List.replicate 32 0)).length := by
    rwa [List.length_replicate]
  have hlt : length < UInt64.size := Nat.lt_of_le_of_lt hlength (by decide)
  rw [zeroText, parse_renderStruct hne hnumbers hfits hlt, hbytes, List.take_replicate,
    Nat.min_eq_left hlength]

/-- A text with a chunk too many states the greatest length that can be formatted. -/
theorem formattable_of_parse_zeroText :
    parse (zeroText 16384) = some (List.replicate 16384 0) ∧
      ∃ spelling : Spelling, spelling.Valid ∧
        compact (zeroText 16384).toList = spelling.text ∧
        List.replicate 16384 0 = spelling.message ∧
        (Formattable (List.replicate 16384 0) ↔ value spelling.length ≤ 512 * 32) ∧
        (spelling.chunks.length ≤ 32 → Formattable (List.replicate 16384 0) ∧
          ∃ rendered, render (List.replicate 16384 0) spelling.chunks.length = some rendered ∧
            parse rendered = some (List.replicate 16384 0)) := by
  have hparse := parse_zeroText (show 16384 ≤ 16896 by decide)
  exact ⟨hparse, formattable_of_parse_iff hparse⟩

/-- One byte more is read as well, but cannot be formatted any more. -/
theorem parse_beyond_limits :
    parse (zeroText 16385) = some (List.replicate 16385 0) ∧
      ¬Formattable (List.replicate 16385 0) := by
  refine ⟨parse_zeroText (by decide), fun hformattable => ?_⟩
  have hlength := formattable_iff.1 hformattable
  rw [List.length_replicate] at hlength
  omega

end GuestBridge.Message
