import GuestBridge.Message.Render
import GuestBridge.Proofs.Message.Grammar
import GuestBridge.Proofs.Text.Encoding
import Mathlib.Data.List.Basic

/-!
# Reading a rendered message back

A rendered message without its whitespace is spelled as a valid literal (`compact_renderStruct`,
`valid_rendering`), and the fields of that literal hold the padded message
(`chunkBytes_chunkFields`). So every text that differs from a rendered message in whitespace only is
read as that message (`parse_of_render`). Such a text is the rendered message without its line
feeds, which is the form that a formatted message is handed out in.
-/

namespace GuestBridge.Message

open Decimal

/-! ## Cutting a message into fields -/

theorem length_groups (count size : Nat) (bytes : Bytes) :
    (groups count size bytes).length = count := by
  induction count generalizing bytes with
  | zero => rfl
  | succ count ih => rw [groups, List.length_cons, ih]

section
variable {count size : Nat} {bytes : Bytes}

/-- A byte string that is cut up completely consists of its groups. -/
theorem flatten_groups (hlength : bytes.length = count * size) :
    (groups count size bytes).flatten = bytes := by
  induction count generalizing bytes with
  | zero =>
    rw [Nat.zero_mul] at hlength
    rw [groups, List.flatten_nil, List.eq_nil_of_length_eq_zero hlength]
  | succ count ih =>
    have hrest : (bytes.drop size).length = count * size := by
      rw [List.length_drop, hlength, Nat.succ_mul, Nat.add_sub_cancel]
    rw [groups, List.flatten_cons, ih hrest, List.take_append_drop]

/-- The groups of a byte string that is cut up completely all have full size. -/
theorem length_of_mem_groups (hlength : bytes.length = count * size) {group : Bytes}
    (hmem : group ∈ groups count size bytes) : group.length = size := by
  induction count generalizing bytes with
  | zero => cases hmem
  | succ count ih =>
    rw [Nat.succ_mul] at hlength
    rcases List.mem_cons.1 hmem with rfl | hmem
    · rw [List.length_take, hlength, Nat.min_eq_left (Nat.le_add_left _ _)]
    · exact ih (by rw [List.length_drop, hlength, Nat.add_sub_cancel]) hmem

end

section
variable {message : Bytes} {chunks : Nat}

theorem length_padded (hfits : message.length ≤ chunks * chunkLength) :
    (padded message chunks).length = chunks * chunkLength := by
  rw [padded, List.length_append, List.length_replicate, Nat.add_sub_cancel' hfits]

/-- Every chunk of a message has 32 fields, and each is a number of 128 bits. -/
theorem chunkFields_bounds (hfits : message.length ≤ chunks * chunkLength) {numbers : List Nat}
    (hmem : numbers ∈ chunkFields message chunks) :
    numbers.length = fieldsPerChunk ∧ ∀ number ∈ numbers, number < 2 ^ 128 := by
  obtain ⟨chunk, hchunk, rfl⟩ := List.mem_map.1 hmem
  have hlength : chunk.length = fieldsPerChunk * fieldLength :=
    length_of_mem_groups (length_padded hfits) hchunk
  refine ⟨by rw [List.length_map, length_groups], fun number hnumber => ?_⟩
  obtain ⟨field, hfield, rfl⟩ := List.mem_map.1 hnumber
  have hlt := Bytes.toNatLE_lt field
  rw [length_of_mem_groups hlength hfield] at hlt
  exact hlt

/-- The fields of a message hold the message and the zeros behind it. -/
theorem chunkBytes_chunkFields (hfits : message.length ≤ chunks * chunkLength) :
    chunkBytes (chunkFields message chunks) = padded message chunks := by
  have hchunk (chunk : Bytes) (hmem : chunk ∈ groups chunks chunkLength (padded message chunks)) :
      ((groups fieldsPerChunk fieldLength chunk).map Bytes.toNatLE).flatMap
        (Bytes.ofNatLE fieldLength) = chunk := by
    have hlength : chunk.length = fieldsPerChunk * fieldLength :=
      length_of_mem_groups (length_padded hfits) hmem
    have hfield (field : Bytes) (hfield : field ∈ groups fieldsPerChunk fieldLength chunk) :
        Bytes.ofNatLE fieldLength (Bytes.toNatLE field) = field := by
      have hback := Bytes.ofNatLE_toNatLE field
      rwa [length_of_mem_groups hlength hfield] at hback
    rw [List.flatMap_map, List.flatMap_congr hfield, List.flatMap_id', flatten_groups hlength]
  rw [chunkBytes, chunkFields, ← List.flatMap_def, List.flatMap_assoc, List.flatMap_congr hchunk,
    List.flatMap_id', flatten_groups (length_padded hfits)]

end

/-! ## Rendered texts without whitespace -/

/-- The numerals in a rendered text are the shortest ones. -/
def rendering (length : Nat) (chunks : List (List Nat)) : Spelling where
  length := Decimal.write length
  chunks := chunks.map (·.map Decimal.write)

theorem compact_append (first second : List Char) :
    compact (first ++ second) = compact first ++ compact second :=
  List.filter_append first second

theorem compact_flatten (texts : List (List Char)) :
    compact texts.flatten = (texts.map compact).flatten :=
  List.filter_flatten

theorem compact_intercalate (texts : List (List Char)) :
    compact ([','].intercalate texts) = [','].intercalate (texts.map compact) := by
  induction texts with
  | nil => rfl
  | cons first rest ih =>
    cases rest with
    | nil => simp
    | cons second rest =>
      rw [List.intercalate_cons_cons, compact_append, compact_append, ih, List.map_cons,
        List.map_cons, List.map_cons, List.intercalate_cons_cons]
      rfl

/-- Digits are not blank. -/
theorem compact_write (number : Nat) : compact (Decimal.write number) = Decimal.write number := by
  refine List.filter_eq_self.2 fun char hmem => ?_
  have hdigit := (isNumeral_write number).digits char hmem
  rw [Bool.not_eq_true', isBlank]
  simp only [Bool.or_eq_false_iff, decide_eq_false_iff_not]
  refine ⟨⟨⟨⟨?_, ?_⟩, ?_⟩, ?_⟩, ?_⟩ <;> rintro rfl <;> exact absurd hdigit (by decide)

theorem compact_renderField (index number : Nat) :
    compact (renderField index number) = spellField index (Decimal.write number) := by
  have hname : compact ('f' :: Decimal.write index) = 'f' :: Decimal.write index :=
    congrArg ('f' :: ·) (compact_write index)
  unfold renderField renderNumber spellField
  rw [compact_append, compact_append, compact_append, compact_append, hname, compact_write]
  rfl

theorem mapIdx_map {α β γ : Type} (f : Nat → β → γ) (g : α → β) (xs : List α) :
    (xs.map g).mapIdx f = xs.mapIdx fun index x => f index (g x) := by
  refine List.ext_getElem (by simp) fun index _ _ => ?_
  simp

theorem compact_renderChunk (index : Nat) (numbers : List Nat) :
    compact (renderChunk index numbers) =
      ',' :: spellChunk index (numbers.map Decimal.write) := by
  have hfields : compact (renderFields numbers) =
      [','].intercalate ((numbers.map Decimal.write).mapIdx spellField) := by
    rw [renderFields, compact_intercalate, map_mapIdx, mapIdx_map]
    simp only [compact_renderField]
  unfold renderChunk
  rw [compact_append, compact_append, compact_append, compact_append, hfields, compact_write]
  rfl

theorem compact_renderStruct (length : Nat) (chunks : List (List Nat)) :
    compact (renderStruct length chunks) = (rendering length chunks).text := by
  have hchunks : compact (chunks.mapIdx renderChunk).flatten =
      spellChunks 0 (chunks.map (·.map Decimal.write)) := by
    rw [compact_flatten, map_mapIdx, spellChunks, mapIdx_map]
    simp only [compact_renderChunk, Nat.zero_add]
  unfold renderStruct renderNumber Spelling.text
  repeat rw [compact_append]
  rw [hchunks, compact_write]
  rfl

section
variable {length : Nat} {numbers : List (List Nat)}

/-- What is written for complete chunks is valid, if they hold as many bytes as are stated. -/
theorem valid_rendering_of (hne : numbers ≠ [])
    (hnumbers : ∀ chunk ∈ numbers,
      chunk.length = fieldsPerChunk ∧ ∀ number ∈ chunk, number < 2 ^ 128)
    (hlength : length ≤ 512 * numbers.length) : (rendering length numbers).Valid where
  numeral := isNumeral_write length
  ne_nil := fun hnil => hne (List.map_eq_nil_iff.1 hnil)
  chunks numerals hmem := by
    obtain ⟨chunk, hchunk, rfl⟩ := List.mem_map.1 hmem
    obtain ⟨hcount, hlt⟩ := hnumbers chunk hchunk
    refine ⟨by rw [List.length_map, hcount]; rfl, fun numeral hnumeral => ?_⟩
    obtain ⟨number, hnumber, rfl⟩ := List.mem_map.1 hnumeral
    exact ⟨isNumeral_write number, by rw [value_write]; exact hlt number hnumber⟩
  length_le := by rwa [rendering, value_write, List.length_map]

/-- What is written for chunks holds as many bytes of them as are stated. -/
theorem message_rendering_of (length : Nat) (numbers : List (List Nat)) :
    (rendering length numbers).message = (chunkBytes numbers).take length := by
  have hread : (rendering length numbers).chunks.map (·.map value) = numbers := by
    simp only [rendering, List.map_map, Function.comp_def, value_write, List.map_id']
  rw [Spelling.message_eq, hread, rendering, value_write]

end

section
variable {message : Bytes} {chunks : Nat}

theorem length_chunkFields (message : Bytes) (chunks : Nat) :
    (chunkFields message chunks).length = chunks := by
  rw [chunkFields, List.length_map, length_groups]

/-- What a rendered message spells is valid. -/
theorem valid_rendering (hfits : Fits message.length chunks) :
    (rendering message.length (chunkFields message chunks)).Valid := by
  have hlength : message.length ≤ chunks * chunkLength := hfits.2.2
  refine valid_rendering_of ?_ (fun _ => chunkFields_bounds hlength) ?_
  · rw [← List.length_pos_iff_ne_nil, length_chunkFields]
    exact hfits.1
  · rwa [length_chunkFields, Nat.mul_comm]

/-- What a rendered message spells holds the message. -/
theorem message_rendering (hfits : Fits message.length chunks) :
    (rendering message.length (chunkFields message chunks)).message = message := by
  rw [message_rendering_of, chunkBytes_chunkFields hfits.2.2, padded, List.take_left]

end

/-! ## The round trip -/

/-- What differs from a rendered message in whitespace only is read as the message. -/
theorem parse_of_compact_eq {message : Bytes} {chunks : Nat} {text other : String}
    (hrender : render message chunks = some text)
    (hother : compact other.toList = compact text.toList) : parse other = some message := by
  obtain ⟨hfits, hsome⟩ := Option.ite_none_right_eq_some.1 hrender
  obtain rfl := Option.some.inj hsome
  rw [String.toList_ofList, compact_renderStruct] at hother
  have hlt : value (rendering message.length (chunkFields message chunks)).length <
      UInt64.size := by
    have hchunks : chunks ≤ 32 := hfits.2.1
    have hlength : message.length ≤ chunks * 512 := hfits.2.2
    rw [rendering, value_write, UInt64.size]
    omega
  rw [parse_of_spelling (valid_rendering hfits) hlt hother, message_rendering hfits]

theorem compact_filter_lineFeed (text : List Char) :
    compact (text.filter (· ≠ '\n')) = compact text := by
  rw [compact, List.filter_filter]
  refine List.filter_congr fun char _ => ?_
  cases hfeed : decide (char ≠ '\n') with
  | true => rw [Bool.and_true]
  | false =>
    obtain rfl : char = '\n' := by simpa using hfeed
    rfl

/-- A message that fits is rendered, and every text that differs from the rendered one in ASCII
whitespace only is read as the message. So is the rendered text itself, and so are its bytes once
those of its line feeds are removed, the form in which a formatted message is handed out. -/
theorem parse_of_render {message : Bytes} {chunks : Nat} (hchunks : 1 ≤ chunks ∧ chunks ≤ 32)
    (hlength : message.length ≤ 512 * chunks) :
    ∃ text, render message chunks = some text ∧
      (∀ other : String, compact other.toList = compact text.toList →
        parse other = some message) ∧
      parse text = some message ∧
      (Utf8.decode? (Operation.withoutLineFeeds (Bytes.ofText text))).bind parse =
        some message := by
  have hfits : Fits message.length chunks :=
    ⟨hchunks.1, hchunks.2, by rw [Nat.mul_comm]; exact hlength⟩
  have hrender : render message chunks = some _ := if_pos hfits
  refine ⟨_, hrender, fun _ => parse_of_compact_eq hrender, parse_of_compact_eq hrender rfl, ?_⟩
  rw [withoutLineFeeds_ofText, Utf8.decode?_ofText, Option.bind_some]
  refine parse_of_compact_eq hrender ?_
  rw [String.toList_ofList, compact_filter_lineFeed]

theorem parse_of_render_trailing_zero :
    (1 ≤ 2 ∧ 2 ≤ 32) ∧ ([0x68, 0x69, 0x00] : Bytes).length ≤ 512 * 2 ∧
      ∃ text, render [0x68, 0x69, 0x00] 2 = some text ∧
        (∀ other : String, compact other.toList = compact text.toList →
          parse other = some [0x68, 0x69, 0x00]) ∧
        parse text = some [0x68, 0x69, 0x00] ∧
        (Utf8.decode? (Operation.withoutLineFeeds (Bytes.ofText text))).bind parse =
          some [0x68, 0x69, 0x00] :=
  ⟨by decide, by decide, parse_of_render (by decide) (by decide)⟩

end GuestBridge.Message
