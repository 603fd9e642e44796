import GuestBridge.Proofs.Message.RoundTrip
import GuestBridge.Proofs.Message.Unique
import GuestBridge.Proofs.Text.Lossy

/-!
# Formatted messages are told apart

A formatted message is handed out without its line feeds, and these bytes are what is hashed and
signed. They determine both the message and the number of chunks, whatever follows them
(`eq_of_formatted_prefix`). Messages that differ only in zeros at their ends are told apart by the
length in front, and the same message in more chunks by the brace behind the last chunk. So the
formatted forms of two different requests differ, and neither begins the other (`formatted_apart`).
-/

namespace GuestBridge.Message

open Operation

section
variable {message message' : Bytes} {chunks chunks' : Nat}

/-- What a message is rendered as determines the message and the number of chunks. -/
theorem rendering_inj (hfits : Fits message.length chunks) (hfits' : Fits message'.length chunks')
    (heq : rendering message.length (chunkFields message chunks) =
      rendering message'.length (chunkFields message' chunks')) :
    message = message' ∧ chunks = chunks' := by
  have hcount (message : Bytes) (chunks : Nat) :
      (rendering message.length (chunkFields message chunks)).chunks.length = chunks := by
    rw [rendering, List.length_map, length_chunkFields]
  constructor
  · rw [← message_rendering hfits, heq, message_rendering hfits']
  · rw [← hcount message chunks, heq, hcount]

variable {text text' : String}

/-- A rendered text that begins another one, whitespace apart, is one of the same message in as many
chunks. -/
theorem eq_of_compact_prefix (hrender : render message chunks = some text)
    (hrender' : render message' chunks' = some text')
    (hbegins : compact text.toList <+: compact text'.toList) :
    message = message' ∧ chunks = chunks' := by
  obtain ⟨hfits, hsome⟩ := Option.ite_none_right_eq_some.1 hrender
  obtain ⟨hfits', hsome'⟩ := Option.ite_none_right_eq_some.1 hrender'
  obtain rfl := Option.some.inj hsome
  obtain rfl := Option.some.inj hsome'
  obtain ⟨rest, hrest⟩ := hbegins
  rw [String.toList_ofList, String.toList_ofList, compact_renderStruct, compact_renderStruct,
    ← List.append_nil (rendering message'.length _).text] at hrest
  obtain ⟨heq, -⟩ := Spelling.append_inj (valid_rendering hfits).isNumeric
    (valid_rendering hfits').isNumeric hrest
  exact rendering_inj hfits hfits' heq

/-- A formatted message that begins another one is that of the same message in as many chunks. -/
theorem eq_of_formatted_prefix (hrender : render message chunks = some text)
    (hrender' : render message' chunks' = some text')
    (hbegins : withoutLineFeeds (Bytes.ofText text) <+: withoutLineFeeds (Bytes.ofText text')) :
    message = message' ∧ chunks = chunks' := by
  rw [withoutLineFeeds_ofText, withoutLineFeeds_ofText, Utf8.ofText_prefix_iff,
    String.toList_ofList, String.toList_ofList] at hbegins
  have hcompact := hbegins.filter (!isBlank ·)
  change compact _ <+: compact _ at hcompact
  rw [compact_filter_lineFeed, compact_filter_lineFeed] at hcompact
  exact eq_of_compact_prefix hrender hrender' hcompact

theorem not_formatted_prefix (hrender : render message chunks = some text)
    (hrender' : render message' chunks' = some text')
    (hne : (message, chunks) ≠ (message', chunks')) :
    ¬withoutLineFeeds (Bytes.ofText text) <+: withoutLineFeeds (Bytes.ofText text') := by
  intro hbegins
  obtain ⟨rfl, rfl⟩ := eq_of_formatted_prefix hrender hrender' hbegins
  exact hne rfl

/-- Two requests that can be formatted and differ, be it in the message or in the number of chunks,
have different formatted forms, and neither form begins the other. -/
theorem formatted_apart (hrender : render message chunks = some text)
    (hrender' : render message' chunks' = some text')
    (hne : (message, chunks) ≠ (message', chunks')) :
    withoutLineFeeds (Bytes.ofText text) ≠ withoutLineFeeds (Bytes.ofText text') ∧
      ¬withoutLineFeeds (Bytes.ofText text) <+: withoutLineFeeds (Bytes.ofText text') ∧
      ¬withoutLineFeeds (Bytes.ofText text') <+: withoutLineFeeds (Bytes.ofText text) := by
  have hforward := not_formatted_prefix hrender hrender' hne
  have hbackward := not_formatted_prefix hrender' hrender hne.symm
  exact ⟨fun heq => hforward (heq ▸ List.prefix_refl _), hforward, hbackward⟩

end

/-- A zero at the end of a message makes a difference, and so does a chunk that holds nothing. -/
theorem formatted_apart_trailing_zero :
    let formatted (text : String) : Bytes := withoutLineFeeds (Bytes.ofText text)
    (([0x68, 0x69], 1) : Bytes × Nat) ≠ ([0x68, 0x69, 0x00], 1) ∧
    (([0x68, 0x69], 1) : Bytes × Nat) ≠ ([0x68, 0x69], 2) ∧
    ∃ short long wide : String,
      render [0x68, 0x69] 1 = some short ∧ render [0x68, 0x69, 0x00] 1 = some long ∧
      render [0x68, 0x69] 2 = some wide ∧
      (formatted short ≠ formatted long ∧ ¬formatted short <+: formatted long ∧
        ¬formatted long <+: formatted short) ∧
      (formatted short ≠ formatted wide ∧ ¬formatted short <+: formatted wide ∧
        ¬formatted wide <+: formatted short) := by
  intro formatted
  have hzero : (([0x68, 0x69], 1) : Bytes × Nat) ≠ ([0x68, 0x69, 0x00], 1) := by decide
  have hchunk : (([0x68, 0x69], 1) : Bytes × Nat) ≠ ([0x68, 0x69], 2) := by decide
  have hshort : render [0x68, 0x69] 1 = some _ := if_pos (by decide)
  have hlong : render [0x68, 0x69, 0x00] 1 = some _ := if_pos (by decide)
  have hwide : render [0x68, 0x69] 2 = some _ := if_pos (by decide)
  exact ⟨hzero, hchunk, _, _, _, hshort, hlong, hwide, formatted_apart hshort hlong hzero,
    formatted_apart hshort hwide hchunk⟩

end GuestBridge.Message
