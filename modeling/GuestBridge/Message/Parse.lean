import GuestBridge.Message.Layout
import GuestBridge.Text.Decimal
import GuestBridge.Text.Scan

/-! # Reading a struct literal back

`Message.parse` reads the text that `Message.render` writes. ASCII whitespace means nothing anywhere
in it. The reader takes one token after another from the front of the text: `expect?` a fixed token,
`number?` a decimal number with its suffix, `fields?` and `chunks?` the repeated parts. Each returns
what is left, and what is left after a chunk is shorter than what was there before
(`length_lt_of_chunk?`), so reading chunks ends.
-/

namespace GuestBridge.Message

open Scan

/-- The ASCII whitespace characters: space, tab, line feed, form feed and carriage return. -/
def isBlank (char : Char) : Bool :=
  char = ' ' || char = '\t' || char = '\n' || char = '\x0c' || char = '\r'

/-- A text without its ASCII whitespace. -/
def compact (text : List Char) : List Char :=
  text.filter (!isBlank ·)

/-- A decimal number below a bound, followed by a suffix. The number takes every digit there is. -/
def number? (bound : Nat) (suffix input : List Char) : Option (Nat × List Char) :=
  match expect? suffix (input.dropWhile Decimal.isDigit) with
  | none => none
  | some rest => (Decimal.read? bound (input.takeWhile Decimal.isDigit)).map (·, rest)

/-- One field with its label and, unless it is the first, a comma in front. -/
def field? (index : Nat) (input : List Char) : Option (Nat × List Char) :=
  (if index = 0 then some input else expect? [','] input).bind fun input =>
    (expect? ('f' :: Decimal.write index ++ [':']) input).bind fun input =>
      number? (1 <<< 128) "u128".toList input

/-- So many fields, the first of which has the given index. -/
def fields? : (count index : Nat) → List Char → Option (List Nat × List Char)
  | 0, _, input => some ([], input)
  | count + 1, index, input =>
    match field? index input with
    | none => none
    | some (number, input) =>
      (fields? count (index + 1) input).map fun (numbers, rest) => (number :: numbers, rest)

/-- The label, the opening brace, the fields and the closing brace of a chunk. -/
def chunk? (index : Nat) (input : List Char) : Option (List Nat × List Char) :=
  (expect? ('c' :: Decimal.write index ++ [':', '\x7b']) input).bind fun input =>
    (fields? fieldsPerChunk 0 input).bind fun (numbers, input) =>
      (expect? ['\x7d'] input).map (numbers, ·)

/-- Nothing is put back when a number is taken. -/
theorem length_le_of_number? {bound : Nat} {suffix input rest : List Char} {number : Nat}
    (h : number? bound suffix input = some (number, rest)) : rest.length ≤ input.length := by
  unfold number? at h
  split at h
  · contradiction
  next found =>
    simp only [Option.map_eq_some_iff, Prod.mk.injEq] at h
    obtain ⟨_, _, _, rfl⟩ := h
    exact Nat.le_trans (length_le_of_expect? found) (List.dropWhile_sublist _).length_le

/-- Nothing is put back when a field is taken. -/
theorem length_le_of_field? {index : Nat} {input rest : List Char} {number : Nat}
    (h : field? index input = some (number, rest)) : rest.length ≤ input.length := by
  simp only [field?, Option.bind_eq_some_iff] at h
  obtain ⟨afterComma, comma, afterLabel, label, read⟩ := h
  have : afterComma.length ≤ input.length := by
    split at comma
    · simp_all
    · exact length_le_of_expect? comma
  exact Nat.le_trans (length_le_of_number? read) (Nat.le_trans (length_le_of_expect? label) this)

/-- Nothing is put back when fields are taken. -/
theorem length_le_of_fields? {count index : Nat} {input rest : List Char} {numbers : List Nat}
    (h : fields? count index input = some (numbers, rest)) : rest.length ≤ input.length := by
  induction count generalizing index input numbers with
  | zero => simp_all [fields?]
  | succ count ih =>
    unfold fields? at h
    split at h
    · contradiction
    next found =>
      simp only [Option.map_eq_some_iff, Prod.mk.injEq, Prod.exists] at h
      obtain ⟨_, _, more, _, rfl⟩ := h
      exact Nat.le_trans (ih more) (length_le_of_field? found)

/-- A chunk takes at least one character. -/
theorem length_lt_of_chunk? {index : Nat} {input rest : List Char} {numbers : List Nat}
    (h : chunk? index input = some (numbers, rest)) : rest.length < input.length := by
  simp only [chunk?, Option.bind_eq_some_iff, Option.map_eq_some_iff, Prod.exists,
    Prod.mk.injEq] at h
  obtain ⟨afterLabel, label, _, afterFields, taken, _, brace, _, rfl⟩ := h
  have hl := length_le_of_expect? brace
  have hf := length_le_of_fields? taken
  rw [expect?_eq_some_iff] at label
  simp only [label, List.length_append, List.length_cons]
  omega

/-- The chunks from the given index on: each is announced by a comma. -/
def chunks? (index : Nat) (input : List Char) : Option (List (List Nat) × List Char) :=
  match _comma : expect? [','] input with
  | none => some ([], input)
  | some afterComma =>
    match _found : chunk? index afterComma with
    | none => none
    | some (numbers, rest) =>
      (chunks? (index + 1) rest).map fun (more, rest) => (numbers :: more, rest)
termination_by input.length
decreasing_by
  exact Nat.lt_of_lt_of_le (length_lt_of_chunk? _found) (length_le_of_expect? _comma)

/-- The length and the chunks of a text that holds a struct and nothing else. -/
def struct? (input : List Char) : Option (Nat × List (List Nat)) :=
  (expect? "\x7blen:".toList input).bind fun input =>
    (number? UInt64.size "u32".toList input).bind fun (length, input) =>
      (chunks? 0 input).bind fun (chunks, input) =>
        (expect? ['\x7d'] input).bind fun input =>
          if input.isEmpty then some (length, chunks) else none

/-- The bytes of the fields of all chunks, in order. -/
def chunkBytes (chunks : List (List Nat)) : Bytes :=
  chunks.flatten.flatMap (Bytes.ofNatLE fieldLength)

/-- The message that a text in the form of a struct literal holds. There has to be at least one
chunk, and the stated length must not exceed what the chunks hold. -/
def parse (text : String) : Option Bytes :=
  (struct? (compact text.toList)).bind fun (length, chunks) =>
    if chunks.isEmpty || length > (chunkBytes chunks).length then none
    else some ((chunkBytes chunks).take length)

end GuestBridge.Message
