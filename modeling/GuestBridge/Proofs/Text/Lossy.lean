import GuestBridge.Proofs.Text.Encoding
import Mathlib.Data.List.Forall2
import Mathlib.Tactic.SplitIfs

/-!
# The lossy reading of texts

Cut into segments, the bytes of a text are its characters again. The encoding of a character is a
leading byte and bytes within the bounds that go with it (`exists_encodes`), so it is one segment
whatever comes behind it (`segments_utf8EncodeChar_append`). Therefore the lossy reading of the
bytes of a text is the text (`decodeLossy_ofText`): what is well-formed is read without a loss. Nor
can the bytes of a text begin those of another one unless the text does (`ofText_prefix_iff`).
-/

namespace GuestBridge.Utf8

/-! ## Segments one by one -/

/-- The segments already found stay where they are. -/
theorem segmentsOnto_append (found earlier : List Segment) (bytes : Bytes) :
    segmentsOnto (found ++ earlier) bytes = segmentsOnto found bytes ++ earlier := by
  fun_induction segmentsOnto found bytes with
  | case1 found => rw [segmentsOnto]
  | case2 found lead rest segment ih =>
    rw [segmentsOnto]
    exact ih

/-- The segments of a byte string are the first one and those of what is behind it. -/
theorem segments_cons (lead : UInt8) (rest : Bytes) :
    segments (lead :: rest) =
      segmentAt lead rest :: segments (rest.drop ((segmentAt lead rest).length - 1)) := by
  have hlater := segmentsOnto_append [] [segmentAt lead rest]
    (rest.drop ((segmentAt lead rest).length - 1))
  rw [List.nil_append] at hlater
  rw [segments, segmentsOnto, hlater, List.reverse_append]
  rfl

/-! ## Encoded characters -/

/-- The bounds on what follows a leading byte, by its number. -/
theorem tails_ofNat {lead : Nat} (hlt : lead < 256) :
    tails (UInt8.ofNat lead) =
      if lead < 0x80 then some []
      else if lead < 0xC2 then none
      else if lead < 0xE0 then some [anyTail]
      else if lead = 0xE0 then some [⟨0xA0, 0xBF⟩, anyTail]
      else if lead = 0xED then some [⟨0x80, 0x9F⟩, anyTail]
      else if lead < 0xF0 then some [anyTail, anyTail]
      else if lead = 0xF0 then some [⟨0x90, 0xBF⟩, anyTail, anyTail]
      else if lead < 0xF4 then some [anyTail, anyTail, anyTail]
      else if lead = 0xF4 then some [⟨0x80, 0x8F⟩, anyTail, anyTail]
      else none := by
  have hlead : (UInt8.ofNat lead).toNat = lead := UInt8.toNat_ofNat_of_lt' hlt
  simp only [tails, UInt8.lt_iff_toNat_lt, ← UInt8.toNat_inj, hlead]
  rfl

theorem has_ofNat {least greatest : UInt8} {byte : Nat} (hlt : byte < 256)
    (hleast : least.toNat ≤ byte) (hgreatest : byte ≤ greatest.toNat) :
    ByteRange.has ⟨least, greatest⟩ (UInt8.ofNat byte) = true := by
  have hbyte : (UInt8.ofNat byte).toNat = byte := UInt8.toNat_ofNat_of_lt' hlt
  simp only [ByteRange.has, Bool.and_eq_true, decide_eq_true_eq, UInt8.le_iff_toNat_le, hbyte]
  exact ⟨hleast, hgreatest⟩

/-- A byte behind a leading byte that nothing restricts further. -/
theorem anyTail_has {bits : Nat} (hlt : bits < 64) :
    anyTail.has (UInt8.ofNat (bits + 0x80)) = true :=
  has_ofNat (by omega) (Nat.le_add_left _ _) (show bits + 0x80 ≤ 0xBF by omega)

theorem matching_append {ranges : List ByteRange} {tail : Bytes}
    (hwithin : List.Forall₂ (fun range byte => range.has byte = true) ranges tail) (rest : Bytes) :
    matching ranges (tail ++ rest) = ranges.length := by
  induction hwithin with
  | nil => cases rest <;> rfl
  | cons hhas _ ih => rw [List.cons_append, matching, if_pos hhas, ih, List.length_cons]

/-- A leading byte and bytes within its bounds are one segment, whatever comes behind them. -/
theorem segmentAt_append {lead : UInt8} {ranges : List ByteRange} {tail : Bytes}
    (htails : tails lead = some ranges)
    (hwithin : List.Forall₂ (fun range byte => range.has byte = true) ranges tail) (rest : Bytes) :
    segmentAt lead (tail ++ rest) = .scalar (assemble lead tail) (tail.length + 1) := by
  rw [segmentAt, htails]
  dsimp only
  rw [matching_append hwithin, if_pos rfl, hwithin.length_eq, List.take_left]

/-- A byte string is the encoding of a character: a leading byte and as many bytes within the bounds
that go with it, which carry the bits of the character. -/
structure Encodes (char : Char) (lead : UInt8) (ranges : List ByteRange) (tail : Bytes) : Prop where
  tails_eq : tails lead = some ranges
  within : List.Forall₂ (fun range byte => range.has byte = true) ranges tail
  assemble_eq : assemble lead tail = char

/-! The bits of a code point, cut into pieces and put together again. -/

theorem assemble_one {code : Nat} (hlt : code < 0x80) :
    assemble (UInt8.ofNat code) [] = Char.ofNat code := by
  have hcode : code % 2 ^ 8 = code := by omega
  simp only [assemble, List.foldl_nil, List.length_nil, leadBits, UInt8.toNat_ofNat', hcode]

theorem assemble_two {code : Nat} (hlt : code < 0x800) :
    assemble (UInt8.ofNat (code / 64 % 32 + 192)) [UInt8.ofNat (code % 64 + 128)] =
      Char.ofNat code := by
  have hcode : (code / 64 % 32 + 192) % 2 ^ 8 % 0x20 * 64 + (code % 64 + 128) % 2 ^ 8 % 64 =
      code := by
    omega
  simp only [assemble, List.foldl_cons, List.foldl_nil, List.length_cons, List.length_nil,
    leadBits, UInt8.toNat_ofNat', hcode]

theorem assemble_three {code : Nat} (hlt : code < 0x10000) :
    assemble (UInt8.ofNat (code / 4096 % 16 + 224))
        [UInt8.ofNat (code / 64 % 64 + 128), UInt8.ofNat (code % 64 + 128)] =
      Char.ofNat code := by
  have hcode : ((code / 4096 % 16 + 224) % 2 ^ 8 % 0x10 * 64 +
      (code / 64 % 64 + 128) % 2 ^ 8 % 64) * 64 + (code % 64 + 128) % 2 ^ 8 % 64 = code := by
    omega
  simp only [assemble, List.foldl_cons, List.foldl_nil, List.length_cons, List.length_nil,
    leadBits, UInt8.toNat_ofNat', hcode]

theorem assemble_four {code : Nat} (hlt : code < 0x110000) :
    assemble (UInt8.ofNat (code / 262144 % 8 + 240))
        [UInt8.ofNat (code / 4096 % 64 + 128), UInt8.ofNat (code / 64 % 64 + 128),
          UInt8.ofNat (code % 64 + 128)] =
      Char.ofNat code := by
  have hcode : (((code / 262144 % 8 + 240) % 2 ^ 8 % 0x08 * 64 +
      (code / 4096 % 64 + 128) % 2 ^ 8 % 64) * 64 + (code / 64 % 64 + 128) % 2 ^ 8 % 64) * 64 +
        (code % 64 + 128) % 2 ^ 8 % 64 = code := by
    omega
  simp only [assemble, List.foldl_cons, List.foldl_nil, List.length_cons, List.length_nil,
    leadBits, UInt8.toNat_ofNat', hcode]

/-- An encoding of three bytes is neither overlong nor one of a surrogate. -/
theorem exists_tails_three {code : Nat} (hge : 0x800 ≤ code) (hlt : code < 0x10000)
    (hvalid : code < 0xD800 ∨ 0xDFFF < code) : ∃ second,
    tails (UInt8.ofNat (code / 4096 % 16 + 224)) = some [second, anyTail] ∧
      second.has (UInt8.ofNat (code / 64 % 64 + 128)) = true := by
  rw [tails_ofNat (by omega)]
  by_cases hfirst : code < 0x1000
  · refine ⟨⟨0xA0, 0xBF⟩, ?_,
      has_ofNat (by omega) (show 0xA0 ≤ _ by omega) (show _ ≤ 0xBF by omega)⟩
    simp (disch := omega) only [if_neg, if_pos]
  · by_cases hsurrogates : 0xD000 ≤ code ∧ code < 0xE000
    · refine ⟨⟨0x80, 0x9F⟩, ?_,
        has_ofNat (by omega) (show 0x80 ≤ _ by omega) (show _ ≤ 0x9F by omega)⟩
      simp (disch := omega) only [if_neg, if_pos]
    · refine ⟨anyTail, ?_, anyTail_has (by omega)⟩
      simp (disch := omega) only [if_neg, if_pos]

/-- An encoding of four bytes is neither overlong nor one beyond the last code point. -/
theorem exists_tails_four {code : Nat} (hge : 0x10000 ≤ code) (hlt : code < 0x110000) : ∃ second,
    tails (UInt8.ofNat (code / 262144 % 8 + 240)) = some [second, anyTail, anyTail] ∧
      second.has (UInt8.ofNat (code / 4096 % 64 + 128)) = true := by
  rw [tails_ofNat (by omega)]
  by_cases hfirst : code < 0x40000
  · refine ⟨⟨0x90, 0xBF⟩, ?_,
      has_ofNat (by omega) (show 0x90 ≤ _ by omega) (show _ ≤ 0xBF by omega)⟩
    simp (disch := omega) only [if_neg, if_pos]
  · by_cases hlast : 0x100000 ≤ code
    · refine ⟨⟨0x80, 0x8F⟩, ?_,
        has_ofNat (by omega) (show 0x80 ≤ _ by omega) (show _ ≤ 0x8F by omega)⟩
      simp (disch := omega) only [if_neg, if_pos]
    · refine ⟨anyTail, ?_, anyTail_has (by omega)⟩
      simp (disch := omega) only [if_neg, if_pos]

/-- The encoding of every character is of that kind. -/
theorem exists_encodes (char : Char) : ∃ lead ranges tail,
    String.utf8EncodeChar char = lead :: tail ∧ Encodes char lead ranges tail := by
  have hvalid : char.val.toNat < 0xD800 ∨ 0xDFFF < char.val.toNat ∧ char.val.toNat < 0x110000 :=
    char.valid
  have hchar : Char.ofNat char.val.toNat = char := Char.ofNat_toNat char
  unfold String.utf8EncodeChar
  generalize char.val.toNat = code at hvalid hchar
  subst hchar
  dsimp only
  split_ifs with hone htwo hthree
  · refine ⟨_, [], [], rfl, ?_, .nil, assemble_one (by omega)⟩
    rw [tails_ofNat (by omega), if_pos (by omega)]
  · refine ⟨_, [anyTail], _, rfl, ?_, .cons (anyTail_has (by omega)) .nil, assemble_two (by omega)⟩
    rw [tails_ofNat (by omega)]
    simp (disch := omega) only [if_neg, if_pos]
  · have hge : 0x800 ≤ code := by omega
    obtain ⟨second, htails, hsecond⟩ := exists_tails_three hge (by omega) (by omega)
    exact ⟨_, _, _, rfl, htails, .cons hsecond (.cons (anyTail_has (by omega)) .nil),
      assemble_three (by omega)⟩
  · have hge : 0x10000 ≤ code := by omega
    obtain ⟨second, htails, hsecond⟩ := exists_tails_four hge (by omega)
    exact ⟨_, _, _, rfl, htails,
      .cons hsecond (.cons (anyTail_has (by omega)) (.cons (anyTail_has (by omega)) .nil)),
      assemble_four (by omega)⟩

/-! ## Texts -/

/-- An encoded character is one segment, whatever comes behind it. -/
theorem segments_utf8EncodeChar_append (char : Char) (rest : Bytes) :
    ∃ length, segments (String.utf8EncodeChar char ++ rest) =
      .scalar char length :: segments rest := by
  obtain ⟨lead, ranges, tail, hencoded, hencodes⟩ := exists_encodes char
  have hsegment := segmentAt_append hencodes.tails_eq hencodes.within rest
  rw [hencodes.assemble_eq] at hsegment
  refine ⟨tail.length + 1, ?_⟩
  rw [hencoded, List.cons_append, segments_cons, hsegment]
  exact congrArg (fun later => _ :: segments later) List.drop_left

theorem segments_nil : segments [] = [] := by
  rw [segments, segmentsOnto]
  rfl

/-- The characters of a text are shown by the segments of its bytes, whatever comes behind them. -/
theorem map_shown_segments_append (chars : List Char) (rest : Bytes) :
    (segments (chars.flatMap String.utf8EncodeChar ++ rest)).map Segment.shown =
      chars ++ (segments rest).map Segment.shown := by
  induction chars with
  | nil => rfl
  | cons char chars ih =>
    obtain ⟨length, hsegments⟩ :=
      segments_utf8EncodeChar_append char (chars.flatMap String.utf8EncodeChar ++ rest)
    rw [List.flatMap_cons, List.append_assoc, hsegments, List.map_cons, ih]
    rfl

theorem map_shown_segments (chars : List Char) :
    (segments (chars.flatMap String.utf8EncodeChar)).map Segment.shown = chars := by
  have hshown := map_shown_segments_append chars []
  rwa [segments_nil, List.map_nil, List.append_nil, List.append_nil] at hshown

/-- The lossy reading of the bytes of a text is the text. -/
theorem decodeLossy_ofText (text : String) : decodeLossy (Bytes.ofText text) = text := by
  rw [decodeLossy, Bytes.ofText_eq, map_shown_segments, String.ofList_toList]

/-- The bytes of a text begin those of another one exactly if the text begins the other one. -/
theorem ofText_prefix_iff {first second : String} :
    Bytes.ofText first <+: Bytes.ofText second ↔ first.toList <+: second.toList := by
  rw [Bytes.ofText_eq, Bytes.ofText_eq]
  constructor
  · rintro ⟨rest, hrest⟩
    have hshown := map_shown_segments_append first.toList rest
    rw [hrest, map_shown_segments] at hshown
    exact ⟨_, hshown.symm⟩
  · rintro ⟨rest, hrest⟩
    rw [← hrest, List.flatMap_append]
    exact List.prefix_append _ _

/-- Bytes are decoded to a text exactly if they are the bytes of that text. -/
theorem decode?_eq_some_iff {bytes : Bytes} {text : String} :
    decode? bytes = some text ↔ Bytes.ofText text = bytes := by
  constructor
  · intro hdecode
    unfold decode? String.fromUTF8? at hdecode
    split at hdecode
    · cases hdecode
      rw [Bytes.ofText_eq_data]
      exact List.toList_data_toByteArray
    · cases hdecode
  · rintro rfl
    exact decode?_ofText text

end GuestBridge.Utf8
