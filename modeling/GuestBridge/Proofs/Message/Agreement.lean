import GuestBridge.Proofs.Message.RoundTrip
import GuestBridge.Proofs.Operation.Validation

/-!
# Validation and rendering agree

A request to format a message is checked on the way into the guest, and once more where the message
is rendered. Both checks let the same requests pass. Behind its check, rendering has three more
places where it could go wrong: the product that gives the size of the chunks, the padding, which
brings the message to that size whether it has to grow or to shrink, and the reading of a field,
which takes 16 bytes and nothing else. `renderWord?` is the rendering with these places in it, in
words of the machine. It is what `render` is (`renderWord?_eq`), and `check_agrees_with_render` says
what this means for each of them.
-/

namespace GuestBridge.Message

open Operation

/-! ## Rendering step by step -/

/-- A byte string brought to the given size: cut off behind it, or filled up with zeros. -/
def resize (size : Nat) (bytes : Bytes) : Bytes :=
  bytes.take size ++ List.replicate (size - bytes.length) 0

/-- Consecutive pieces of the given size until nothing is left. The last one may be shorter. -/
def pieces (size : Nat) (bytes : Bytes) : List Bytes :=
  if _left : 0 < size ∧ 0 < bytes.length then
    bytes.take size :: pieces size (bytes.drop size)
  else []
termination_by bytes.length
decreasing_by rw [List.length_drop]; omega

/-- The number of a field, which has to be complete. -/
def fieldNumber? (field : Bytes) : Option Nat :=
  if field.length = fieldLength then some (Bytes.toNatLE field) else none

/-- The numbers of the fields of each chunk, if all fields are complete. -/
def chunkFields? (bytes : Bytes) : Option (List (List Nat)) :=
  (pieces chunkLength bytes).mapM fun chunk => (pieces fieldLength chunk).mapM fieldNumber?

/-- Rendering in words of the machine, unless a product overflows. -/
def renderWord? (message : Bytes) (chunks : USize) : Option (Option String) :=
  if 1 ≤ chunks ∧ chunks ≤ USize.ofNat maxChunks then do
    let limit ← mulWord? chunks (USize.ofNat chunkLength)
    if limit.toNat < message.length then pure none
    else do
      let size ← mulWord? chunks (USize.ofNat chunkLength)
      pure <| (chunkFields? (resize size.toNat message)).map fun numbers =>
        String.ofList (renderStruct message.length numbers)
  else some none

/-! ## Nothing goes wrong -/

section
variable {message : Bytes} {chunks : Nat}

/-- A message that fits only grows. -/
theorem resize_eq_padded (hfits : message.length ≤ chunks * chunkLength) :
    resize (chunks * chunkLength) message = padded message chunks := by
  rw [resize, padded, List.take_of_length_le hfits]

/-- Without a remainder, all pieces have full size. -/
theorem pieces_eq_groups {count size : Nat} {bytes : Bytes} (hsize : 0 < size)
    (hlength : bytes.length = count * size) : pieces size bytes = groups count size bytes := by
  induction count generalizing bytes with
  | zero =>
    rw [Nat.zero_mul] at hlength
    rw [pieces, dif_neg fun h => absurd h.2 (by omega), groups]
  | succ count ih =>
    rw [Nat.succ_mul] at hlength
    have hrest : (bytes.drop size).length = count * size := by
      rw [List.length_drop, hlength, Nat.add_sub_cancel]
    rw [pieces, dif_pos ⟨hsize, by omega⟩, groups, ih hrest]

theorem pieces_padded (hfits : message.length ≤ chunks * chunkLength) :
    pieces chunkLength (padded message chunks) =
      groups chunks chunkLength (padded message chunks) :=
  pieces_eq_groups (by decide) (length_padded hfits)

/-- Each chunk of a padded message is cut into complete fields. -/
theorem pieces_of_mem_groups (hfits : message.length ≤ chunks * chunkLength) {chunk : Bytes}
    (hchunk : chunk ∈ groups chunks chunkLength (padded message chunks)) :
    pieces fieldLength chunk = groups fieldsPerChunk fieldLength chunk ∧
      ∀ field ∈ groups fieldsPerChunk fieldLength chunk,
        fieldNumber? field = some (Bytes.toNatLE field) := by
  have hlength : chunk.length = fieldsPerChunk * fieldLength :=
    length_of_mem_groups (length_padded hfits) hchunk
  refine ⟨pieces_eq_groups (by decide) hlength, fun field hfield => ?_⟩
  exact if_pos (length_of_mem_groups hlength hfield)

theorem mapM_eq_some_map {α β : Type} {f : α → Option β} {g : α → β} {xs : List α}
    (hsome : ∀ x ∈ xs, f x = some (g x)) : xs.mapM f = some (xs.map g) := by
  induction xs with
  | nil => rfl
  | cons x xs ih =>
    obtain ⟨hfirst, hlater⟩ := List.forall_mem_cons.1 hsome
    rw [List.mapM_cons, hfirst, ih hlater]
    rfl

/-- All fields of a padded message are read. -/
theorem chunkFields?_padded (hfits : message.length ≤ chunks * chunkLength) :
    chunkFields? (padded message chunks) = some (chunkFields message chunks) := by
  rw [chunkFields?, pieces_padded hfits, chunkFields]
  refine mapM_eq_some_map fun chunk hchunk => ?_
  obtain ⟨hpieces, hnumbers⟩ := pieces_of_mem_groups hfits hchunk
  rw [hpieces, mapM_eq_some_map hnumbers]

end

section
variable {chunks : USize}

/-- For as many chunks as are allowed, the product is small. -/
theorem mulWord?_chunkLength (hcount : chunks.toNat ≤ maxChunks) :
    ∃ size, mulWord? chunks (USize.ofNat chunkLength) = some size ∧
      size.toNat = chunks.toNat * chunkLength := by
  have hsmall : chunks.toNat * chunkLength < 2 ^ 32 :=
    Nat.lt_of_le_of_lt (Nat.mul_le_mul_right _ hcount) (by decide)
  exact mulWord?_ofNat (by decide) hsmall

/-- Carried out in words of the machine, rendering neither overflows nor fails on a field. -/
theorem renderWord?_eq (message : Bytes) (chunks : USize) :
    renderWord? message chunks = some (render message chunks.toNat) := by
  have hrange : (1 ≤ chunks ∧ chunks ≤ USize.ofNat maxChunks) ↔ _ := word_range_iff (by decide)
  unfold renderWord? render
  by_cases hcount : 1 ≤ chunks.toNat ∧ chunks.toNat ≤ maxChunks
  · obtain ⟨size, hproduct, hsize⟩ := mulWord?_chunkLength hcount.2
    rw [if_pos (hrange.2 hcount), hproduct, Option.bind_eq_bind, Option.bind_some, hsize]
    by_cases hlong : chunks.toNat * chunkLength < message.length
    · rw [if_pos hlong, if_neg fun hfits => Nat.not_lt.2 hfits.2.2 hlong]
      rfl
    · have hlength := Nat.not_lt.1 hlong
      rw [if_neg hlong, if_pos ⟨hcount.1, hcount.2, hlength⟩, Option.bind_some, hsize,
        resize_eq_padded hlength, chunkFields?_padded hlength]
      rfl
  · rw [if_neg (mt hrange.1 hcount), if_neg fun hfits => hcount ⟨hfits.1, hfits.2.1⟩]

end

theorem render_isSome_iff {message : Bytes} {chunks : Nat} :
    (render message chunks).isSome ↔ Fits message.length chunks := by
  unfold render
  split <;> simp [*]

/-- A request to format a message is accepted exactly if the message fits. -/
theorem checkFormat_eq_ok_iff {length chunks : Nat} :
    checkFormat length chunks = .ok () ↔ Fits length chunks := by
  constructor
  · intro hok
    have hcount : 1 ≤ chunks ∧ chunks ≤ 32 := by
      by_contra hcount
      rw [checkFormat_of_count hcount] at hok
      cases hok
    refine ⟨hcount.1, hcount.2, Nat.le_of_not_lt fun hlong => ?_⟩
    rw [Nat.mul_comm] at hlong
    rw [checkFormat_of_long hcount hlong] at hok
    cases hok
  · rintro ⟨hpos, hcount, hlength⟩
    rw [Nat.mul_comm] at hlength
    exact checkFormat_of_fits ⟨hpos, hcount⟩ hlength

/-- What is checked on the way into the guest and what is done there agree, for a message and a
number of chunks. -/
structure Agrees (message : Bytes) (chunks : USize) : Prop where
  /-- A request is accepted exactly if the message is rendered. -/
  accepts_iff : checkFormat message.length chunks.toNat = .ok () ↔
    (render message chunks.toNat).isSome
  /-- The check does the same in words of the machine. -/
  checked : ∀ length : USize, length.toNat = message.length →
    checkFormatWord? length chunks = some (checkFormat message.length chunks.toNat)
  /-- So does rendering: no product overflows, and the outcome is the same. -/
  rendered : renderWord? message chunks = some (render message chunks.toNat)
  /-- Where the size of the chunks is computed, it is a word. -/
  product : 1 ≤ chunks.toNat ∧ chunks.toNat ≤ maxChunks →
    chunks.toNat * chunkLength < USize.size
  /-- The padding keeps the whole message, and what it adds are zeros. -/
  padding : (render message chunks.toNat).isSome →
    resize (chunks.toNat * chunkLength) message =
      message ++ List.replicate (chunks.toNat * chunkLength - message.length) 0
  /-- Every field of every chunk is read. -/
  fields : (render message chunks.toNat).isSome →
    ∀ chunk ∈ pieces chunkLength (resize (chunks.toNat * chunkLength) message),
      ∀ field ∈ pieces fieldLength chunk, (fieldNumber? field).isSome

/-- For every message and every word as the number of chunks, validation and rendering agree. -/
theorem check_agrees_with_render (message : Bytes) (chunks : USize) : Agrees message chunks where
  accepts_iff := checkFormat_eq_ok_iff.trans render_isSome_iff.symm
  checked length hlength := by rw [checkFormatWord?_eq, hlength]
  rendered := renderWord?_eq message chunks
  product hcount := by
    obtain ⟨size, -, hsize⟩ := mulWord?_chunkLength hcount.2
    rw [← hsize]
    exact size.toNat_lt_size
  padding hsome := resize_eq_padded (render_isSome_iff.1 hsome).2.2
  fields hsome chunk hchunk field hfield := by
    have hfits := (render_isSome_iff.1 hsome).2.2
    rw [resize_eq_padded hfits, pieces_padded hfits] at hchunk
    obtain ⟨hpieces, hnumbers⟩ := pieces_of_mem_groups hfits hchunk
    rw [hpieces] at hfield
    rw [hnumbers field hfield]
    rfl

end GuestBridge.Message
