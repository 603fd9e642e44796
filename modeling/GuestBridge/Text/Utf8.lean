import GuestBridge.Bytes

/-! # UTF-8 decoding

Bytes that come out of a guest need not be text. A byte string is cut into *segments*: the encoded
scalar values in it, and between them the ill-formed runs, each as long as the longest start of an
encoded scalar value (`Utf8.segments`). Three readings follow from the cut: `Utf8.decode?` accepts
well-formed input only, `Utf8.decodeLossy` shows every ill-formed run as one replacement character,
and `Utf8.firstError?` tells where the first ill-formed run is and whether the input ends in it.
-/

namespace GuestBridge.Utf8

/-- A maximal piece of a byte string: one encoded scalar value, or one ill-formed run. -/
inductive Segment
  /-- The encoding of a scalar value, in so many bytes. -/
  | scalar (char : Char) (length : Nat)
  /-- A run that starts no scalar value; `truncated` if the input ended before it was decided. -/
  | illFormed (length : Nat) (truncated : Bool)

/-- How many bytes a segment takes. -/
def Segment.length : Segment → Nat
  | .scalar _ length | .illFormed length _ => length

/-- The character that stands for a segment in a lossy reading. -/
def Segment.shown : Segment → Char
  | .scalar char _ => char
  | .illFormed _ _ => '\uFFFD'

/-- Inclusive bounds on a byte. -/
structure ByteRange where
  least : UInt8
  greatest : UInt8

/-- Whether a byte lies within the bounds. -/
def ByteRange.has (range : ByteRange) (byte : UInt8) : Bool :=
  range.least ≤ byte && byte ≤ range.greatest

/-- The bounds of a continuation byte that nothing restricts further. -/
def anyTail : ByteRange := ⟨0x80, 0xBF⟩

/-- The bounds on the bytes that follow a leading byte, or `none` if the byte leads nothing. The
first bounds exclude overlong forms, surrogates and numbers above the last code point. -/
def tails (lead : UInt8) : Option (List ByteRange) :=
  if lead < 0x80 then some []
  else if lead < 0xC2 then none
  else if lead < 0xE0 then some [anyTail]
  else if lead = 0xE0 then some [⟨0xA0, 0xBF⟩, anyTail]
  else if lead = 0xED then some [⟨0x80, 0x9F⟩, anyTail]
  else if lead < 0xF0 then some [anyTail, anyTail]
  else if lead = 0xF0 then some [⟨0x90, 0xBF⟩, anyTail, anyTail]
  else if lead < 0xF4 then some [anyTail, anyTail, anyTail]
  else if lead = 0xF4 then some [⟨0x80, 0x8F⟩, anyTail, anyTail]
  else none

/-- How many bytes at the start of a byte string lie, one after the other, within the bounds. -/
def matching : List ByteRange → Bytes → Nat
  | range :: ranges, byte :: bytes => if range.has byte then matching ranges bytes + 1 else 0
  | _, _ => 0

/-- The bits of a code point that its leading byte carries, given the number of bytes after it. -/
def leadBits (lead : UInt8) : (tails : Nat) → Nat
  | 0 => lead.toNat
  | 1 => lead.toNat % 0x20
  | 2 => lead.toNat % 0x10
  | _ => lead.toNat % 0x08

/-- The scalar value that a leading byte and its continuation bytes encode. -/
def assemble (lead : UInt8) (tail : Bytes) : Char :=
  Char.ofNat (tail.foldl (fun code byte => code * 64 + byte.toNat % 64) (leadBits lead tail.length))

/-- The first segment of a non-empty byte string. -/
def segmentAt (lead : UInt8) (rest : Bytes) : Segment :=
  match tails lead with
  | none => .illFormed 1 false
  | some ranges =>
    let found := matching ranges rest
    if found = ranges.length then .scalar (assemble lead (rest.take found)) (found + 1)
    else .illFormed (found + 1) (rest.drop found).isEmpty

/-- The segments of a byte string, put in reverse order before those already found. -/
def segmentsOnto (found : List Segment) : Bytes → List Segment
  | [] => found
  | lead :: rest =>
    let segment := segmentAt lead rest
    segmentsOnto (segment :: found) (rest.drop (segment.length - 1))
termination_by bytes => bytes.length
decreasing_by simp only [List.length_drop, List.length_cons]; omega

/-- The segments of a byte string, in order. -/
def segments (bytes : Bytes) : List Segment :=
  (segmentsOnto [] bytes).reverse

/-- The text with every ill-formed run shown as one replacement character. -/
def decodeLossy (bytes : Bytes) : String :=
  String.ofList ((segments bytes).map Segment.shown)

/-- The text that the bytes encode, if they are well-formed. -/
def decode? (bytes : Bytes) : Option String :=
  String.fromUTF8? bytes.toByteArray

/-- Where decoding stops: the first ill-formed run. -/
structure DecodeError where
  /-- The number of well-formed bytes before the run. -/
  index : Nat
  /-- The length of the run, or `none` if the input ended inside it. -/
  length : Option Nat
deriving DecidableEq

/-- The first ill-formed run among segments of which the first is at `index`. -/
def firstErrorFrom (index : Nat) : List Segment → Option DecodeError
  | [] => none
  | .scalar _ length :: rest => firstErrorFrom (index + length) rest
  | .illFormed length truncated :: _ => some ⟨index, if truncated then none else some length⟩

/-- The first ill-formed run of a byte string. -/
def firstError? (bytes : Bytes) : Option DecodeError :=
  firstErrorFrom 0 (segments bytes)

/-- The wording of a decoding error. -/
def DecodeError.message : DecodeError → String
  | ⟨index, some length⟩ =>
    s!"invalid utf-8 sequence of {length} bytes from index {index}"
  | ⟨index, none⟩ => s!"incomplete utf-8 byte sequence from index {index}"

end GuestBridge.Utf8
