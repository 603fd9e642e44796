import GuestBridge.Message.Layout
import GuestBridge.Text.Decimal

/-! # Writing a message as a struct literal

A formatted message is the text of a struct: first the length of the message, then one nested
struct for each chunk with its fields as decimal numbers. `Message.render` writes it, one field per
line.
-/

namespace GuestBridge.Message

/-- A named number with its type suffix, as in `f3: 255u128`. -/
def renderNumber (name : List Char) (number : Nat) (suffix : List Char) : List Char :=
  name ++ [':', ' '] ++ Decimal.write number ++ suffix

/-- The line of a field. -/
def renderField (index number : Nat) : List Char :=
  "\n    ".toList ++ renderNumber ('f' :: Decimal.write index) number "u128".toList

/-- The fields of a chunk, in order, divided by commas. -/
def renderFields (numbers : List Nat) : List Char :=
  [','].intercalate (numbers.mapIdx renderField)

/-- The struct of a chunk, with the comma that divides it from what precedes it. -/
def renderChunk (index : Nat) (numbers : List Nat) : List Char :=
  ",\n  c".toList ++ Decimal.write index ++ [':', ' ', '\x7b'] ++ renderFields numbers ++
    "\n  \x7d".toList

/-- The whole struct: the length of the message and its chunks. -/
def renderStruct (length : Nat) (chunks : List (List Nat)) : List Char :=
  "\x7b\n  ".toList ++ renderNumber "len".toList length "u32".toList ++
    (chunks.mapIdx renderChunk).flatten ++ "\n\x7d".toList

/-- The struct literal of a message in the given number of chunks, or `none` if it does not fit. -/
def render (message : Bytes) (chunks : Nat) : Option String :=
  if Fits message.length chunks then
    some (String.ofList (renderStruct message.length (chunkFields message chunks)))
  else none

end GuestBridge.Message
