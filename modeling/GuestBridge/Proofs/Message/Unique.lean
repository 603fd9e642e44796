import GuestBridge.Proofs.Message.Grammar

/-!
# A literal is spelled in one way

A literal determines the numerals in it. Each part of the grammar ends where something begins that
cannot belong to it: a numeral ends at the first character that is no digit, the fields of a chunk
end at its brace, and the chunks end at the last brace. So a text begins with at most one literal
whose numerals are numerals (`Spelling.append_inj`), whatever follows it: no literal is the
beginning of another one.
-/

namespace GuestBridge.Message

open Decimal

/-- What stands for numerals in a spelling are numerals. -/
structure Spelling.IsNumeric (spelling : Spelling) : Prop where
  length : IsNumeral spelling.length
  chunks : ∀ numerals ∈ spelling.chunks, ∀ numeral ∈ numerals, IsNumeral numeral

theorem Spelling.Valid.isNumeric {spelling : Spelling} (hvalid : spelling.Valid) :
    spelling.IsNumeric where
  length := hvalid.numeral
  chunks numerals hnumerals numeral hnumeral :=
    ((hvalid.chunks numerals hnumerals).2 numeral hnumeral).1

section
variable {rest rest' : List Char}

/-- Where a numeral in front of something else ends. -/
theorem numeral_append_inj {numeral numeral' suffix : List Char} (hnumeral : IsNumeral numeral)
    (hnumeral' : IsNumeral numeral')
    (hsuffix : ∀ rest, (suffix ++ rest).head?.all (!isDigit ·) = true)
    (heq : numeral ++ (suffix ++ rest) = numeral' ++ (suffix ++ rest')) :
    numeral = numeral' ∧ rest = rest' := by
  have hfront := congrArg (List.takeWhile isDigit) heq
  rw [takeWhile_numeral hnumeral (hsuffix rest), takeWhile_numeral hnumeral' (hsuffix rest')]
    at hfront
  refine ⟨hfront, ?_⟩
  rw [hfront] at heq
  exact List.append_cancel_left (List.append_cancel_left heq)

/-- A field ends behind its suffix. -/
theorem fieldAt_append_inj {index : Nat} {numeral numeral' : List Char}
    (hnumeral : IsNumeral numeral) (hnumeral' : IsNumeral numeral')
    (heq : spellFieldAt index numeral ++ rest = spellFieldAt index numeral' ++ rest') :
    numeral = numeral' ∧ rest = rest' := by
  unfold spellFieldAt spellField at heq
  simp only [List.append_assoc] at heq
  have hbehind := List.append_cancel_left (List.append_cancel_left heq)
  exact numeral_append_inj hnumeral hnumeral' (fun _ => rfl) (List.append_cancel_left hbehind)

/-- No field begins with a closing brace. -/
theorem fieldAt_append_ne (index : Nat) (numeral rest rest' : List Char) :
    spellFieldAt index numeral ++ rest ≠ '\x7d' :: rest' := by
  unfold spellFieldAt
  split <;> exact fun heq => absurd (List.cons.inj heq).1 (by decide)

/-- The fields of a chunk end at its brace. -/
theorem fields_append_inj {index : Nat} {numerals numerals' : List (List Char)}
    (hnumerals : ∀ numeral ∈ numerals, IsNumeral numeral)
    (hnumerals' : ∀ numeral ∈ numerals', IsNumeral numeral)
    (heq : (numerals.mapIdx fun offset => spellFieldAt (index + offset)).flatten ++ '\x7d' :: rest =
      (numerals'.mapIdx fun offset => spellFieldAt (index + offset)).flatten ++ '\x7d' :: rest') :
    numerals = numerals' ∧ rest = rest' := by
  induction numerals generalizing index numerals' with
  | nil =>
    cases numerals' with
    | nil => exact ⟨rfl, List.cons.inj heq |>.2⟩
    | cons numeral' numerals' =>
      rw [mapIdx_cons_from, List.flatten_cons, List.append_assoc] at heq
      exact absurd heq.symm (fieldAt_append_ne _ _ _ _)
  | cons numeral numerals ih =>
    cases numerals' with
    | nil =>
      rw [mapIdx_cons_from, List.flatten_cons, List.append_assoc] at heq
      exact absurd heq (fieldAt_append_ne _ _ _ _)
    | cons numeral' numerals' =>
      obtain ⟨hfirst, hlater⟩ := List.forall_mem_cons.1 hnumerals
      obtain ⟨hfirst', hlater'⟩ := List.forall_mem_cons.1 hnumerals'
      rw [mapIdx_cons_from, mapIdx_cons_from, List.flatten_cons, List.flatten_cons,
        List.append_assoc, List.append_assoc] at heq
      obtain ⟨rfl, hmore⟩ := fieldAt_append_inj hfirst hfirst' heq
      obtain ⟨rfl, hrest⟩ := ih hlater hlater' hmore
      exact ⟨rfl, hrest⟩

theorem chunk_append_inj {index : Nat} {numerals numerals' : List (List Char)}
    (hnumerals : ∀ numeral ∈ numerals, IsNumeral numeral)
    (hnumerals' : ∀ numeral ∈ numerals', IsNumeral numeral)
    (heq : spellChunk index numerals ++ rest = spellChunk index numerals' ++ rest') :
    numerals = numerals' ∧ rest = rest' := by
  unfold spellChunk at heq
  rw [intercalate_spellField, intercalate_spellField] at heq
  simp only [List.append_assoc, List.cons_append, List.nil_append] at heq
  have hfields := List.append_cancel_left (List.cons.inj heq).2
  refine fields_append_inj hnumerals hnumerals'
    (?_ : (numerals.mapIdx fun offset => spellFieldAt (0 + offset)).flatten ++ _ = _)
  simpa using hfields

/-- The chunks end at the brace of the literal. -/
theorem chunks_append_inj {index : Nat} {chunks chunks' : List (List (List Char))}
    (hchunks : ∀ numerals ∈ chunks, ∀ numeral ∈ numerals, IsNumeral numeral)
    (hchunks' : ∀ numerals ∈ chunks', ∀ numeral ∈ numerals, IsNumeral numeral)
    (heq : spellChunks index chunks ++ '\x7d' :: rest =
      spellChunks index chunks' ++ '\x7d' :: rest') :
    chunks = chunks' ∧ rest = rest' := by
  induction chunks generalizing index chunks' with
  | nil =>
    cases chunks' with
    | nil => exact ⟨rfl, List.cons.inj heq |>.2⟩
    | cons numerals' chunks' =>
      rw [spellChunks_cons] at heq
      cases heq
  | cons numerals chunks ih =>
    cases chunks' with
    | nil =>
      rw [spellChunks_cons] at heq
      cases heq
    | cons numerals' chunks' =>
      obtain ⟨hfirst, hlater⟩ := List.forall_mem_cons.1 hchunks
      obtain ⟨hfirst', hlater'⟩ := List.forall_mem_cons.1 hchunks'
      rw [spellChunks_cons, spellChunks_cons, List.cons_append, List.cons_append,
        List.append_assoc, List.append_assoc] at heq
      obtain ⟨rfl, hmore⟩ := chunk_append_inj hfirst hfirst' (List.cons.inj heq).2
      obtain ⟨rfl, hrest⟩ := ih hlater hlater' hmore
      exact ⟨rfl, hrest⟩

/-- A text begins with at most one literal, and what follows the literal is determined. -/
theorem Spelling.append_inj {spelling spelling' : Spelling} (hnumeric : spelling.IsNumeric)
    (hnumeric' : spelling'.IsNumeric)
    (heq : spelling.text ++ rest = spelling'.text ++ rest') :
    spelling = spelling' ∧ rest = rest' := by
  obtain ⟨length, chunks⟩ := spelling
  obtain ⟨length', chunks'⟩ := spelling'
  unfold text at heq
  simp only [List.append_assoc] at heq
  obtain ⟨rfl, hchunks⟩ := numeral_append_inj hnumeric.length hnumeric'.length (fun _ => rfl)
    (List.append_cancel_left heq)
  obtain ⟨rfl, hrest⟩ := chunks_append_inj hnumeric.chunks hnumeric'.chunks hchunks
  exact ⟨rfl, hrest⟩

/-- The literal of a spelling determines it. -/
theorem Spelling.text_inj {spelling spelling' : Spelling} (hnumeric : spelling.IsNumeric)
    (hnumeric' : spelling'.IsNumeric) (heq : spelling.text = spelling'.text) :
    spelling = spelling' :=
  (append_inj hnumeric hnumeric' (congrArg (· ++ []) heq)).1

end

end GuestBridge.Message
