import GuestBridge.Message.Parse
import GuestBridge.Proofs.Text.Numeral
import Mathlib.Algebra.Group.Nat.Defs

/-!
# The grammar of struct literals

A struct literal without its whitespace is determined by the numerals in it: that of the length and
those of the fields, chunk by chunk (`Spelling`). `Spelling.text` puts them into the fixed parts of
the literal, `Spelling.Valid` says which numerals a literal may have, and `Spelling.message` is what
it holds. Each reader takes exactly one part of the grammar from the front of its input
(`number?_eq_some_iff`, `fields?_eq_some_iff`, `chunks?_eq_some_iff`). From them follows
`parse_eq_some_iff`: a text is read exactly if it spells a valid literal.
-/

namespace GuestBridge.Message

open Decimal Scan

/-! ## Spellings -/

/-- How a field is spelled, as in `f3:17u128`. -/
def spellField (index : Nat) (numeral : List Char) : List Char :=
  'f' :: Decimal.write index ++ [':'] ++ numeral ++ "u128".toList

/-- How a chunk is spelled: its label, and in braces its fields, divided by commas. -/
def spellChunk (index : Nat) (numerals : List (List Char)) : List Char :=
  'c' :: Decimal.write index ++ [':', '\x7b'] ++ [','].intercalate (numerals.mapIdx spellField) ++
    ['\x7d']

/-- How chunks are spelled that are numbered from the given index on: each after a comma. -/
def spellChunks (index : Nat) (chunks : List (List (List Char))) : List Char :=
  (chunks.mapIdx fun offset numerals => ',' :: spellChunk (index + offset) numerals).flatten

/-- The numeral of a field denotes a number of 128 bits. -/
def IsFieldNumeral (numeral : List Char) : Prop :=
  IsNumeral numeral ∧ value numeral < 2 ^ 128

/-- The numerals of a chunk are those of 32 fields. -/
def IsChunk (numerals : List (List Char)) : Prop :=
  numerals.length = 32 ∧ ∀ numeral ∈ numerals, IsFieldNumeral numeral

instance (numeral : List Char) : Decidable (IsFieldNumeral numeral) :=
  inferInstanceAs (Decidable (_ ∧ _))

instance (numerals : List (List Char)) : Decidable (IsChunk numerals) :=
  inferInstanceAs (Decidable (_ ∧ _))

/-- The numerals in a struct literal: that of the length, and those of the fields of each chunk. -/
structure Spelling where
  length : List Char
  chunks : List (List (List Char))

namespace Spelling

/-- The literal without whitespace: the length, then the chunks, numbered from zero on. -/
def text (spelling : Spelling) : List Char :=
  "\x7blen:".toList ++ spelling.length ++ "u32".toList ++ spellChunks 0 spelling.chunks ++ ['\x7d']

/-- The literal has at least one chunk, its chunks are complete, and the length that it states does
not exceed what they hold. -/
structure Valid (spelling : Spelling) : Prop where
  numeral : IsNumeral spelling.length
  ne_nil : spelling.chunks ≠ []
  chunks : ∀ numerals ∈ spelling.chunks, IsChunk numerals
  length_le : value spelling.length ≤ 512 * spelling.chunks.length

/-- What the literal holds: as many bytes as it states, from the little-endian forms of the fields
in order. -/
def message (spelling : Spelling) : Bytes :=
  (spelling.chunks.flatten.flatMap fun numeral => Bytes.ofNatLE 16 (value numeral)).take
    (value spelling.length)

end Spelling

/-! ## Numbers and fields -/

/-- Counting from a number on, the first element has that number and the others count from the
next. -/
theorem mapIdx_cons_from {α β : Type} (f : Nat → α → β) (index : Nat) (x : α) (xs : List α) :
    ((x :: xs).mapIdx fun offset => f (index + offset)) =
      f index x :: xs.mapIdx fun offset => f (index + 1 + offset) := by
  rw [List.mapIdx_cons, Nat.add_zero]
  congr 2
  funext offset
  rw [Nat.add_right_comm, Nat.add_assoc]

theorem map_mapIdx {α β γ : Type} (f : Nat → α → β) (g : β → γ) (xs : List α) :
    (xs.mapIdx f).map g = xs.mapIdx fun index x => g (f index x) := by
  rw [List.mapIdx_eq_zipIdx_map, List.mapIdx_eq_zipIdx_map, List.map_map]
  rfl

/-- A number is taken from the front of a text exactly if the text begins with a numeral and the
suffix, where the suffix does not begin with a digit. -/
theorem number?_eq_some_iff {bound number : Nat} {suffix input rest : List Char}
    (hsuffix : ∀ rest, (suffix ++ rest).head?.all (!isDigit ·) = true) :
    number? bound suffix input = some (number, rest) ↔
      ∃ numeral, (IsNumeral numeral ∧ value numeral < bound) ∧ value numeral = number ∧
        input = numeral ++ (suffix ++ rest) := by
  constructor
  · intro hread
    unfold number? at hread
    split at hread
    · cases hread
    · next after hexpect =>
      simp only [Option.map_eq_some_iff, Prod.mk.injEq] at hread
      obtain ⟨_, hnumber, rfl, rfl⟩ := hread
      obtain ⟨hnumeral, rfl, hlt⟩ := read?_eq_some_iff.1 hnumber
      refine ⟨input.takeWhile isDigit, ⟨hnumeral, hlt⟩, rfl, ?_⟩
      rw [← expect?_eq_some_iff.1 hexpect, List.takeWhile_append_dropWhile]
  · rintro ⟨numeral, ⟨hnumeral, hlt⟩, rfl, rfl⟩
    have hread : read? bound numeral = some (value numeral) :=
      read?_eq_some_iff.2 ⟨hnumeral, rfl, hlt⟩
    unfold number?
    rw [takeWhile_numeral hnumeral (hsuffix rest), dropWhile_numeral hnumeral (hsuffix rest),
      expect?_eq_some_iff.2 rfl, hread]
    rfl

/-- How a field is spelled in its place: all but the first follow a comma. -/
def spellFieldAt (index : Nat) (numeral : List Char) : List Char :=
  (if index = 0 then [] else [',']) ++ spellField index numeral

theorem field?_eq_some_iff {index number : Nat} {input rest : List Char} :
    field? index input = some (number, rest) ↔
      ∃ numeral, IsFieldNumeral numeral ∧ value numeral = number ∧
        input = spellFieldAt index numeral ++ rest := by
  have hcomma (after : List Char) :
      (if index = 0 then some input else expect? [','] input) = some after ↔
        input = (if index = 0 then [] else [',']) ++ after := by
    split
    · simp
    · exact expect?_eq_some_iff
  have hnumber (after : List Char) :
      number? (1 <<< 128) "u128".toList after = some (number, rest) ↔
        ∃ numeral, IsFieldNumeral numeral ∧ value numeral = number ∧
          after = numeral ++ ("u128".toList ++ rest) :=
    number?_eq_some_iff fun _ => rfl
  simp only [field?, Option.bind_eq_some_iff, hcomma, expect?_eq_some_iff, hnumber, spellFieldAt,
    spellField]
  constructor
  · rintro ⟨_, rfl, _, rfl, numeral, hfield, hvalue, rfl⟩
    exact ⟨numeral, hfield, hvalue, by simp only [List.append_assoc]⟩
  · rintro ⟨numeral, hfield, hvalue, rfl⟩
    refine ⟨_, List.append_assoc _ _ _, _, ?_, numeral, hfield, hvalue, rfl⟩
    simp only [List.append_assoc]

/-- Fields are taken one after the other. -/
theorem fields?_eq_some_iff {count index : Nat} {numbers : List Nat} {input rest : List Char} :
    fields? count index input = some (numbers, rest) ↔
      ∃ numerals : List (List Char), numerals.length = count ∧
        (∀ numeral ∈ numerals, IsFieldNumeral numeral) ∧ numerals.map value = numbers ∧
        input = (numerals.mapIdx fun offset => spellFieldAt (index + offset)).flatten ++ rest := by
  induction count generalizing index numbers input with
  | zero =>
    simp only [fields?, Option.some.injEq, Prod.mk.injEq]
    constructor
    · rintro ⟨rfl, rfl⟩
      exact ⟨[], rfl, List.forall_mem_nil _, rfl, rfl⟩
    · rintro ⟨numerals, hlength, -, rfl, rfl⟩
      obtain rfl := List.eq_nil_of_length_eq_zero hlength
      exact ⟨rfl, rfl⟩
  | succ count ih =>
    constructor
    · intro hread
      unfold fields? at hread
      split at hread
      · cases hread
      · next number after hfield =>
        simp only [Option.map_eq_some_iff, Prod.mk.injEq, Prod.exists] at hread
        obtain ⟨_, _, hmore, rfl, rfl⟩ := hread
        obtain ⟨numeral, hnumeral, rfl, rfl⟩ := field?_eq_some_iff.1 hfield
        obtain ⟨numerals, hlength, hnumerals, rfl, rfl⟩ := ih.1 hmore
        refine ⟨numeral :: numerals, congrArg (· + 1) hlength, ?_, rfl, ?_⟩
        · exact List.forall_mem_cons.2 ⟨hnumeral, hnumerals⟩
        · rw [mapIdx_cons_from, List.flatten_cons, List.append_assoc]
    · rintro ⟨numerals, hlength, hnumerals, rfl, rfl⟩
      cases numerals with
      | nil => cases hlength
      | cons numeral numerals =>
        obtain ⟨hnumeral, hnumerals⟩ := List.forall_mem_cons.1 hnumerals
        have hmore : fields? count (index + 1) _ = some (numerals.map value, rest) :=
          ih.2 ⟨numerals, Nat.succ.inj hlength, hnumerals, rfl, rfl⟩
        unfold fields?
        rw [mapIdx_cons_from, List.flatten_cons, List.append_assoc,
          field?_eq_some_iff.2 ⟨numeral, hnumeral, rfl, rfl⟩]
        dsimp only
        rw [hmore]
        rfl

/-- Fields divided by commas are fields in their places. -/
theorem intercalate_spellField (numerals : List (List Char)) :
    [','].intercalate (numerals.mapIdx spellField) = (numerals.mapIdx spellFieldAt).flatten := by
  have hlater (pieces : List (List Char)) (first : List Char) :
      [','].intercalate (first :: pieces) = first ++ (pieces.map (',' :: ·)).flatten := by
    induction pieces generalizing first with
    | nil => simp
    | cons second pieces ih => rw [List.intercalate_cons_cons, ih]; simp
  cases numerals with
  | nil => rfl
  | cons numeral numerals =>
    rw [List.mapIdx_cons, List.mapIdx_cons, hlater, map_mapIdx]
    rfl

/-! ## Chunks -/

theorem chunk?_eq_some_iff {index : Nat} {numbers : List Nat} {input rest : List Char} :
    chunk? index input = some (numbers, rest) ↔
      ∃ numerals, IsChunk numerals ∧ numerals.map value = numbers ∧
        input = spellChunk index numerals ++ rest := by
  simp only [chunk?, Option.bind_eq_some_iff, Option.map_eq_some_iff, Prod.exists, Prod.mk.injEq,
    expect?_eq_some_iff, fields?_eq_some_iff, Nat.zero_add, spellChunk, intercalate_spellField]
  constructor
  · rintro ⟨_, rfl, _, _, ⟨numerals, hlength, hnumerals, rfl, rfl⟩, _, rfl, rfl, rfl⟩
    exact ⟨numerals, ⟨hlength, hnumerals⟩, rfl, by simp only [List.append_assoc]⟩
  · rintro ⟨numerals, ⟨hlength, hnumerals⟩, rfl, rfl⟩
    refine ⟨(numerals.mapIdx spellFieldAt).flatten ++ (['\x7d'] ++ rest), ?_, _, _,
      ⟨numerals, hlength, hnumerals, rfl, rfl⟩, rest, rfl, rfl, rfl⟩
    simp only [List.append_assoc]

theorem spellChunks_cons (index : Nat) (numerals : List (List Char))
    (chunks : List (List (List Char))) :
    spellChunks index (numerals :: chunks) =
      ',' :: (spellChunk index numerals ++ spellChunks (index + 1) chunks) := by
  unfold spellChunks
  rw [mapIdx_cons_from (fun index numerals => ',' :: spellChunk index numerals)]
  rfl

/-- Without a comma, there are no more chunks. After a comma, there has to be one. -/
theorem chunks?_eq (index : Nat) (input : List Char) :
    chunks? index input =
      match expect? [','] input with
      | none => some ([], input)
      | some after => (chunk? index after).bind fun (numbers, rest) =>
        (chunks? (index + 1) rest).map fun (more, rest) => (numbers :: more, rest) := by
  rw [chunks?]
  split
  · next hcomma => rw [hcomma]
  · next after hcomma =>
    rw [hcomma]
    dsimp only
    split
    · next hchunk => rw [hchunk]; rfl
    · next numbers rest hchunk => rw [hchunk]; rfl

/-- Chunks are taken as long as there is a comma. -/
theorem chunks?_eq_some_iff {index : Nat} {numbers : List (List Nat)} {input rest : List Char} :
    chunks? index input = some (numbers, rest) ↔
      ∃ chunks, (∀ numerals ∈ chunks, IsChunk numerals) ∧ chunks.map (·.map value) = numbers ∧
        input = spellChunks index chunks ++ rest ∧ expect? [','] rest = none := by
  constructor
  · intro hread
    induction index, input using chunks?.induct generalizing numbers rest with
    | case1 index input hcomma =>
      rw [chunks?_eq, hcomma, Option.some.injEq, Prod.mk.injEq] at hread
      obtain ⟨rfl, rfl⟩ := hread
      exact ⟨[], nofun, rfl, rfl, hcomma⟩
    | case2 index input after hcomma hchunk =>
      rw [chunks?_eq, hcomma] at hread
      dsimp only at hread
      rw [hchunk] at hread
      cases hread
    | case3 index input after hcomma first middle hchunk ih =>
      rw [chunks?_eq, hcomma] at hread
      dsimp only at hread
      rw [hchunk, Option.bind_some] at hread
      simp only [Option.map_eq_some_iff, Prod.mk.injEq, Prod.exists] at hread
      obtain ⟨later, _, hlater, rfl, rfl⟩ := hread
      obtain ⟨chunks, hchunks, rfl, rfl, hstop⟩ := ih hlater
      obtain ⟨numerals, hnumerals, rfl, rfl⟩ := chunk?_eq_some_iff.1 hchunk
      refine ⟨numerals :: chunks, List.forall_mem_cons.2 ⟨hnumerals, hchunks⟩, rfl, ?_, hstop⟩
      simp only [expect?_eq_some_iff.1 hcomma, spellChunks_cons, List.cons_append,
        List.append_assoc, List.nil_append]
  · rintro ⟨chunks, hchunks, rfl, rfl, hstop⟩
    induction chunks generalizing index with
    | nil =>
      rw [chunks?_eq]
      show (match expect? [','] rest with | none => _ | some _ => _) = _
      rw [hstop]
      rfl
    | cons numerals chunks ih =>
      obtain ⟨hnumerals, hchunks⟩ := List.forall_mem_cons.1 hchunks
      have hcomma (after : List Char) : expect? [','] (',' :: after) = some after :=
        expect?_eq_some_iff.2 rfl
      rw [chunks?_eq, spellChunks_cons, List.cons_append, List.append_assoc, hcomma]
      dsimp only
      rw [chunk?_eq_some_iff.2 ⟨numerals, hnumerals, rfl, rfl⟩, Option.bind_some, ih hchunks]
      rfl

/-! ## Whole literals -/

/-- A struct is read exactly if the whole input is spelled like one. -/
theorem struct?_eq_some_iff {input : List Char} {length : Nat} {numbers : List (List Nat)} :
    struct? input = some (length, numbers) ↔
      ∃ spelling : Spelling, (IsNumeral spelling.length ∧ value spelling.length < UInt64.size) ∧
        (∀ numerals ∈ spelling.chunks, IsChunk numerals) ∧
        value spelling.length = length ∧ spelling.chunks.map (·.map value) = numbers ∧
        input = spelling.text := by
  have hsuffix (rest : List Char) : ("u32".toList ++ rest).head?.all (!isDigit ·) = true := rfl
  constructor
  · intro hread
    simp only [struct?, Option.bind_eq_some_iff, Prod.exists, expect?_eq_some_iff,
      Option.ite_none_right_eq_some, List.isEmpty_iff, Option.some.injEq, Prod.mk.injEq] at hread
    obtain ⟨_, rfl, _, _, hlength, _, _, hchunks, _, rfl, rfl, rfl, rfl⟩ := hread
    obtain ⟨numeral, hnumeral, rfl, rfl⟩ := (number?_eq_some_iff hsuffix).1 hlength
    obtain ⟨chunks, hspelled, rfl, rfl, -⟩ := chunks?_eq_some_iff.1 hchunks
    refine ⟨⟨numeral, chunks⟩, hnumeral, hspelled, rfl, rfl, ?_⟩
    unfold Spelling.text
    simp only [List.append_assoc, List.append_nil]
  · rintro ⟨⟨numeral, chunks⟩, hnumeral, hspelled, rfl, rfl, rfl⟩
    have hchunks : chunks? 0 (spellChunks 0 chunks ++ ['\x7d']) =
        some (chunks.map (·.map value), ['\x7d']) :=
      chunks?_eq_some_iff.2 ⟨chunks, hspelled, rfl, rfl, rfl⟩
    unfold struct? Spelling.text
    simp only [List.append_assoc]
    rw [expect?_eq_some_iff.2 rfl, Option.bind_some,
      (number?_eq_some_iff hsuffix).2 ⟨numeral, hnumeral, rfl, rfl⟩, Option.bind_some]
    dsimp only
    rw [hchunks, Option.bind_some]
    rfl

/-! ## The reader -/

/-- Whether a text begins by opening a chunk: a comma, a label and a brace. -/
def opensChunk (input : List Char) : Bool :=
  (expect? [',', 'c'] input).any fun rest =>
    (expect? [':', '\x7b'] (rest.dropWhile isDigit)).isSome

/-- In how many places a text opens a chunk. -/
def openings : List Char → Nat
  | [] => 0
  | char :: rest => openings rest + if opensChunk (char :: rest) then 1 else 0

theorem openings_le_append (first second : List Char) :
    openings second ≤ openings (first ++ second) := by
  induction first with
  | nil => exact Nat.le_refl _
  | cons char first ih =>
    rw [List.cons_append, openings]
    omega

theorem opensChunk_spellChunks (index : Nat) (numerals : List (List Char))
    (chunks : List (List (List Char))) (rest : List Char) :
    opensChunk (spellChunks index (numerals :: chunks) ++ rest) = true := by
  have hlabel (after : List Char) : expect? [',', 'c'] (',' :: 'c' :: after) = some after :=
    expect?_eq_some_iff.2 rfl
  have hbrace (after : List Char) : expect? [':', '\x7b'] (':' :: '\x7b' :: after) = some after :=
    expect?_eq_some_iff.2 rfl
  rw [spellChunks_cons]
  unfold opensChunk spellChunk
  simp only [List.cons_append, List.append_assoc]
  rw [hlabel, Option.any_some, dropWhile_numeral (isNumeral_write index) rfl, hbrace]
  rfl

/-- Every chunk is opened. -/
theorem length_le_openings (index : Nat) (chunks : List (List (List Char))) (rest : List Char) :
    chunks.length ≤ openings (spellChunks index chunks ++ rest) := by
  induction chunks generalizing index with
  | nil => exact Nat.zero_le _
  | cons numerals chunks ih =>
    have hopens := opensChunk_spellChunks index numerals chunks rest
    have hmore := ih (index + 1)
    have hfewer := openings_le_append (spellChunk index numerals)
      (spellChunks (index + 1) chunks ++ rest)
    rw [spellChunks_cons, List.cons_append, List.append_assoc] at hopens ⊢
    rw [openings, if_pos hopens, List.length_cons]
    omega

/-- The fields of a literal hold 512 bytes for each chunk. -/
theorem length_chunkBytes {chunks : List (List (List Char))}
    (hchunks : ∀ numerals ∈ chunks, IsChunk numerals) :
    (chunkBytes (chunks.map (·.map value))).length = 512 * chunks.length := by
  have hbytes (numbers : List Nat) :
      (numbers.flatMap (Bytes.ofNatLE fieldLength)).length = 16 * numbers.length := by
    induction numbers with
    | nil => rfl
    | cons number numbers ih =>
      rw [List.flatMap_cons, List.length_append, ih, Bytes.length_ofNatLE, List.length_cons,
        fieldLength]
      omega
  have hfields : (chunks.map (·.map value)).flatten.length = 32 * chunks.length := by
    induction chunks with
    | nil => rfl
    | cons numerals chunks ih =>
      obtain ⟨hfirst, hchunks⟩ := List.forall_mem_cons.1 hchunks
      rw [List.map_cons, List.flatten_cons, List.length_append, ih hchunks, List.length_map,
        hfirst.1, List.length_cons]
      omega
  rw [chunkBytes, hbytes, hfields]
  omega

theorem Spelling.message_eq (spelling : Spelling) :
    spelling.message =
      (chunkBytes (spelling.chunks.map (·.map value))).take (value spelling.length) := by
  unfold message chunkBytes
  rw [← List.map_flatten, List.flatMap_map]
  rfl

namespace Spelling

variable {spelling : Spelling}

/-- With few chunks, a valid length is a 64-bit number. -/
theorem Valid.length_lt (hvalid : spelling.Valid) (hopenings : openings spelling.text < 2 ^ 31) :
    value spelling.length < UInt64.size := by
  have hfewer : openings (spellChunks 0 spelling.chunks ++ ['\x7d']) ≤ openings spelling.text := by
    unfold text
    rw [List.append_assoc]
    exact openings_le_append _ _
  have hchunks := length_le_openings 0 spelling.chunks ['\x7d']
  have hlength := hvalid.length_le
  rw [UInt64.size]
  omega

/-- What is read from a complete literal is valid, or too short for the length that it states. -/
theorem Valid.iff_of_isChunk (hlength : IsNumeral spelling.length)
    (hchunks : ∀ numerals ∈ spelling.chunks, IsChunk numerals) :
    spelling.Valid ↔
      ((spelling.chunks.map (·.map value)).isEmpty ||
        value spelling.length > (chunkBytes (spelling.chunks.map (·.map value))).length) =
          false := by
  rw [Bool.or_eq_false_iff, List.isEmpty_eq_false_iff, ne_eq, List.map_eq_nil_iff,
    decide_eq_false_iff_not, length_chunkBytes hchunks, Nat.not_lt]
  constructor
  · intro hvalid
    exact ⟨hvalid.ne_nil, hvalid.length_le⟩
  · rintro ⟨hne, hle⟩
    exact ⟨hlength, hne, hchunks, hle⟩

end Spelling

/-- A valid literal is read as the message that it holds, if its length is a 64-bit number. -/
theorem parse_of_spelling {text : String} {spelling : Spelling} (hvalid : spelling.Valid)
    (hlength : value spelling.length < UInt64.size) (htext : compact text.toList = spelling.text) :
    parse text = some spelling.message := by
  have hstruct := struct?_eq_some_iff.2
    ⟨spelling, ⟨hvalid.numeral, hlength⟩, hvalid.chunks, rfl, rfl, htext⟩
  have hfits := (Spelling.Valid.iff_of_isChunk hvalid.numeral hvalid.chunks).1 hvalid
  unfold parse
  rw [hstruct, Option.bind_some]
  dsimp only
  rw [if_neg (Bool.not_eq_true _ ▸ hfits), spelling.message_eq]

/-- What is read is spelled as a valid literal, and is the message that the literal holds. -/
theorem spelling_of_parse {text : String} {bytes : Bytes} (hparse : parse text = some bytes) :
    ∃ spelling : Spelling, spelling.Valid ∧ compact text.toList = spelling.text ∧
      bytes = spelling.message := by
  simp only [parse, Option.bind_eq_some_iff, Prod.exists] at hparse
  obtain ⟨_, _, hstruct, hbytes⟩ := hparse
  obtain ⟨spelling, hlength, hchunks, rfl, rfl, htext⟩ := struct?_eq_some_iff.1 hstruct
  simp only [Option.ite_none_left_eq_some, Bool.not_eq_true, Option.some.injEq] at hbytes
  refine ⟨spelling, (Spelling.Valid.iff_of_isChunk hlength.1 hchunks).2 hbytes.1, htext, ?_⟩
  rw [spelling.message_eq, hbytes.2]

/-- A text is read exactly if it spells a valid literal and nothing else, and then as the message
that the literal holds. The text has fewer chunks than a signed 32-bit counter can count. -/
theorem parse_eq_some_iff (text : String) (hopenings : openings (compact text.toList) < 2 ^ 31) :
    (∀ bytes, parse text = some bytes ↔
      ∃ spelling : Spelling, spelling.Valid ∧ compact text.toList = spelling.text ∧
        bytes = spelling.message) ∧
    (parse text = none ↔
      ¬∃ spelling : Spelling, spelling.Valid ∧ compact text.toList = spelling.text) := by
  have hread (spelling : Spelling) (hvalid : spelling.Valid)
      (htext : compact text.toList = spelling.text) : parse text = some spelling.message :=
    parse_of_spelling hvalid (hvalid.length_lt (htext ▸ hopenings)) htext
  constructor
  · intro bytes
    constructor
    · exact spelling_of_parse
    · rintro ⟨spelling, hvalid, htext, rfl⟩
      exact hread spelling hvalid htext
  · constructor
    · rintro hnone ⟨spelling, hvalid, htext⟩
      rw [hread spelling hvalid htext] at hnone
      cases hnone
    · intro hnot
      refine Option.eq_none_iff_forall_ne_some.2 fun bytes hparse => hnot ?_
      obtain ⟨spelling, hvalid, htext, -⟩ := spelling_of_parse hparse
      exact ⟨spelling, hvalid, htext⟩

/-- A literal of one chunk that holds the bytes of `hi`, with leading zeros in its length. -/
def sampleSpelling : Spelling where
  length := ['0', '2']
  chunks := [['2', '6', '9', '8', '4'] :: List.replicate 31 ['0']]

theorem parse_sampleSpelling :
    openings (compact (String.ofList (' ' :: sampleSpelling.text)).toList) < 2 ^ 31 ∧
      parse (String.ofList (' ' :: sampleSpelling.text)) = some [0x68, 0x69] := by
  have hcompact : compact (String.ofList (' ' :: sampleSpelling.text)).toList =
      sampleSpelling.text := by
    rw [String.toList_ofList]
    decide +kernel
  have hopenings : openings sampleSpelling.text < 2 ^ 31 := by decide +kernel
  have hvalid : sampleSpelling.Valid :=
    ⟨by decide, by decide, by decide, by decide⟩
  rw [← hcompact] at hopenings
  refine ⟨hopenings, ?_⟩
  exact ((parse_eq_some_iff _ hopenings).1 _).2 ⟨sampleSpelling, hvalid, hcompact, by decide⟩

end GuestBridge.Message
