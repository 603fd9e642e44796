import GuestBridge.Text.Blank
import GuestBridge.Text.Terminal

/-! # Wrapping text

`Wrap.wrap` breaks the lines of a text between words, so that they fit a width where the words allow
it. Lines and words are cut out of the text (`Wrap.cut`); words end with the spaces behind them. A
line that is broken loses the blanks before the break and goes on below the place where it began.
What a terminal does not show takes no room and is kept.
-/

namespace GuestBridge.Wrap

/-- Puts a character in front of a text in parts: into the first part, or, if a cut goes between it
and what follows, into a part of its own. -/
def prepend (cutBetween : Char → Char → Bool) (char : Char) : List (List Char) → List (List Char)
  | (next :: run) :: rest =>
    if cutBetween char next then [char] :: (next :: run) :: rest
    else (char :: next :: run) :: rest
  | parts => [char] :: parts

/-- A text in parts, cut between characters. -/
def cut (cutBetween : Char → Char → Bool) (text : List Char) : List (List Char) :=
  text.foldr (prepend cutBetween) []

/-- The lines of a text, each with the line feed at its end. -/
def lines (text : List Char) : List (List Char) :=
  cut (fun char _ => char = '\n') text

/-- The words of a line. Each has the spaces that follow it; leading spaces are a word of their
own. -/
def words (line : List Char) : List (List Char) :=
  cut (fun char next => char = ' ' && next ≠ ' ') line

/-- How many places characters take. A control character and all that follows it up to the next
letter m count as a sequence that sets colors and takes none. -/
def widthFrom : (inSequence : Bool) → List Char → Nat
  | _, [] => 0
  | inSequence, char :: rest =>
    if Terminal.isControl char.toNat then widthFrom true rest
    else if inSequence then widthFrom (char ≠ 'm') rest
    else widthFrom false rest + 1

/-- How many places a text takes. -/
def width (text : List Char) : Nat :=
  widthFrom false text

/-- How many bytes a text takes. -/
def byteSize (text : List Char) : Nat :=
  (String.ofList text).utf8ByteSize

/-- The column where the next word of a line goes, and what the line goes on with after a break,
once that is known. -/
structure Cursor where
  column : Nat
  margin : Option (List Char)

/-- The start of a line. -/
def Cursor.start : Cursor := ⟨0, none⟩

/-- Puts words on a line from a column on, behind blanks, and where a word does not fit, on a new
line in place of the blanks. If nothing stands on the line yet, the first word that takes room stays
where it is. -/
def place (limit : Nat) (margin : List Char) : (isEmpty : Bool) → (column : Nat) →
    (blanks : List Char) → List (List Char) → List Char × Nat
  | _, column, blanks, [] => (blanks, column)
  | isEmpty, column, blanks, word :: rest =>
    let core := Blank.trimEnd word
    let room := width core
    let after := word.drop core.length
    let isFirst := isEmpty && 0 < room
    let breaks := !isFirst && limit < column + room
    let column := (if breaks then byteSize margin else column) + room + byteSize after
    let (text, column) := place limit margin (isEmpty && !isFirst) column after rest
    ((if breaks then '\n' :: margin else blanks) ++ core ++ text, column)

/-- Wraps a line or a part of one. The margin is the blank word that the line begins with, if it
does. -/
def wrapLine (limit : Nat) (cursor : Cursor) (line : List Char) : List Char × Cursor :=
  match words line with
  | [] => ([], cursor)
  | word :: rest =>
    let margin := cursor.margin.getD (if (Blank.trimEnd word).isEmpty then word else [])
    let (text, column) :=
      place limit margin cursor.margin.isNone cursor.column [] (word :: rest)
    (text, ⟨column, some margin⟩)

/-- Wraps lines; all but the first one begin afresh. -/
def wrapLines (limit : Nat) : Cursor → List (List Char) → List Char × Cursor
  | cursor, [] => ([], cursor)
  | cursor, line :: rest =>
    let (text, cursor) := wrapLine limit cursor line
    let (more, last) := wrapLines limit (if rest.isEmpty then cursor else .start) rest
    (text ++ more, last)

/-- Wraps the shown runs of a text and keeps the others. -/
def wrapPieces (limit : Nat) : Cursor → List (Bool × List Char) → List Char
  | _, [] => []
  | cursor, (isShown, run) :: rest =>
    if isShown then
      let (text, cursor) := wrapLines limit cursor (lines run)
      text ++ wrapPieces limit cursor rest
    else run ++ wrapPieces limit cursor rest

/-- A text with its lines broken to fit a width, without blanks at the end. -/
def wrap (limit : Nat) (text : String) : String :=
  String.ofList (Blank.trimEnd (wrapPieces limit .start (Terminal.pieces text.toList)))

/-- A text with all lines but the first one moved to the right. -/
def indent (columns : Nat) (text : String) : String :=
  String.ofList <| text.toList.flatMap fun char =>
    if char = '\n' then '\n' :: List.replicate columns ' ' else [char]

end GuestBridge.Wrap
