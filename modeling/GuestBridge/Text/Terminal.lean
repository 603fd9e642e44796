/-! # Text on a terminal

A terminal takes some characters of a text as commands: control characters, and sequences that an
escape character opens. A line feed or another control character that only moves on is shown even
inside of a sequence, and so is what follows, up to the next character that is not shown; whether
the sequence goes on then depends on the reader. `Terminal.pieces` cuts a text into what is shown
and what is not, and `Terminal.shown` keeps what is shown. A text can also be put together from
spans with an emphasis, which is written as such sequences (`Terminal.render`).
-/

namespace GuestBridge.Terminal

/-- What a terminal is in the middle of. -/
inductive Mode
  /-- Plain text. -/
  | text
  /-- A sequence of which only the escape character was read. -/
  | escape
  /-- A sequence with signs, which ends with a letter or digit. -/
  | signs
  /-- A sequence with numbers, which ends with a letter. -/
  | control
  /-- A sequence with a title, which a bell ends. -/
  | title
  /-- A sequence for a device, of which nothing else was read. -/
  | device
  /-- A sequence for a device, in its numbers. -/
  | deviceNumbers
  /-- A sequence for a device, in its signs. -/
  | deviceSigns
  /-- A sequence in the text that it contains, which a terminator ends. -/
  | string
deriving DecidableEq

/-- Whether a code point is one of the control characters in the ASCII block. -/
def isControl (code : Nat) : Bool :=
  code < 0x20 || code = 0x7F

/-- Whether a code point is a control character that only moves on: a tab, a line or form feed or a
carriage return. -/
def isSpacing (code : Nat) : Bool :=
  code = 0x09 || code = 0x0A || code = 0x0C || code = 0x0D

/-- Whether the encoding of a character contains the byte that terminates a text inside of a
sequence. -/
def hasTerminator (char : Char) : Bool :=
  (String.utf8EncodeChar char).contains 0x9C

/-- Whether a character is shown. -/
def Mode.shows (mode : Mode) (char : Char) : Bool :=
  match mode with
  | .text => !isControl char.toNat || isSpacing char.toNat
  | .escape | .signs | .control => isSpacing char.toNat
  | _ => false

/-- How a sequence goes on after the code point behind the escape character. -/
def Mode.opened (code : Nat) : Mode :=
  if code < 0x30 then .signs
  else if code = 0x50 then .device
  else if code = 0x5B then .control
  else if code = 0x5D then .title
  else if code = 0x58 || code = 0x5E || code = 0x5F then .string
  else .text

/-- How a sequence for a device goes on after a code point: signs and numbers come before its text,
and no numbers behind signs. -/
def Mode.deviceAfter (numbersEnd code : Nat) : Mode :=
  if code < 0x30 then .deviceSigns
  else if code < numbersEnd then .deviceNumbers
  else .string

/-- What a terminal is in the middle of after a printable ASCII code point that is not shown. -/
def Mode.afterPrintable (mode : Mode) (code : Nat) : Mode :=
  match mode with
  | .escape => .opened code
  | .signs => if code < 0x30 then .signs else .text
  | .control => if code < 0x40 then .control else .text
  | .device => Mode.deviceAfter 0x40 code
  | .deviceNumbers => Mode.deviceAfter 0x3C code
  | .deviceSigns => Mode.deviceAfter 0x30 code
  | mode => mode

/-- What a terminal is in the middle of after a character that is not shown. -/
def Mode.next (mode : Mode) (char : Char) : Mode :=
  let code := char.toNat
  if code = 0x1B then .escape
  else if code = 0x18 || code = 0x1A then .text
  else if 0x80 ≤ code then if mode = .string && hasTerminator char then .text else mode
  else if isControl code then if mode = .title && code = 0x07 then .text else mode
  else mode.afterPrintable code

/-- Where a reader of a text is. -/
structure Reading where
  mode : Mode
  /-- Whether the last character was shown. -/
  isShowing : Bool

/-- The start of a text. -/
def Reading.start : Reading := ⟨.text, false⟩

/-- Where a reader is after one more character. A sequence with something shown inside of it either
goes on behind that or is over; beyond ASCII, anything that is shown ends it. -/
def Reading.next (resumes : Bool) (reading : Reading) (char : Char) : Reading :=
  if reading.mode.shows char || reading.isShowing && Mode.text.shows char then
    ⟨if resumes && char.toNat < 0x80 then reading.mode else .text, true⟩
  else ⟨reading.mode.next char, false⟩

/-- The characters of a text, each with whether it is shown. -/
def marked (resumes : Bool) : Reading → List Char → List (Char × Bool)
  | _, [] => []
  | reading, char :: rest =>
    let reading := reading.next resumes char
    (char, reading.isShowing) :: marked resumes reading rest

/-- The characters of a text that are shown, where an interrupted sequence goes on. -/
def shown (text : List Char) : List Char :=
  (marked true .start text).filterMap fun (char, isShown) => if isShown then some char else none

/-- Runs with one more character in front, which is shown or not. -/
def prependMark (next : Char × Bool) : List (Bool × List Char) → List (Bool × List Char)
  | [] => [(next.2, [next.1])]
  | (isShown, run) :: rest =>
    if next.2 = isShown then (isShown, next.1 :: run) :: rest
    else (next.2, [next.1]) :: (isShown, run) :: rest

/-- The runs of a text that are shown or not, in order, each with whether it is shown, where an
interrupted sequence is over. -/
def pieces (text : List Char) : List (Bool × List Char) :=
  (marked false .start text).foldr prependMark []

/-! ## Emphasis -/

/-- How a part of a text stands out. -/
inductive Emphasis
  | plain | strong | heading
deriving DecidableEq

/-- A part of a text. -/
structure Span where
  emphasis : Emphasis
  text : String

/-- The sequences before and after a text that stands out. -/
def Emphasis.codes : Emphasis → String × String
  | .plain => ("", "")
  | .strong => ("\x1b[1m", "\x1b[0m")
  | .heading => ("\x1b[1m\x1b[4m", "\x1b[0m")

/-- The text of spans without their emphasis. -/
def plainText (spans : List Span) : String :=
  String.join (spans.map Span.text)

/-- The text of spans with the sequences that make them stand out. -/
def emphasizedText (spans : List Span) : String :=
  String.join <| spans.map fun span => span.emphasis.codes.1 ++ span.text ++ span.emphasis.codes.2

/-- The text of spans as it is printed. Where nothing can stand out, only what a terminal shows is
left. -/
def render (emphasized : Bool) (spans : List Span) : String :=
  if emphasized then emphasizedText spans
  else String.ofList (shown (emphasizedText spans).toList)

end GuestBridge.Terminal
