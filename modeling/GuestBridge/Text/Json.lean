import GuestBridge.Text.Decimal
import GuestBridge.Text.Scan

/-! # JSON values

Guest scripts are written in JSON. `Json.read?` reads a text that holds one value and nothing else.
Numbers are natural numbers in plain decimal; a script needs no others. Every part of the reader
returns the value it read together with the rest of the text, and spends one unit of fuel for each
value, member or character of a string, so the length of the text is fuel enough.
-/

namespace GuestBridge

/-- A JSON value. -/
inductive Json
  | null
  | bool (value : Bool)
  | number (value : Nat)
  | text (value : String)
  | list (items : List Json)
  | object (members : List (String × Json))

namespace Json

open Scan

/-- Whether a character may stand between tokens. -/
def isBlank (char : Char) : Bool :=
  char = ' ' || char = '\t' || char = '\n' || char = '\r'

/-- The input without the blanks at its front. -/
def skipBlanks (input : List Char) : List Char :=
  input.dropWhile isBlank

/-- The number that a hexadecimal digit denotes. -/
def hexDigit? (char : Char) : Option Nat :=
  if '0' ≤ char ∧ char ≤ '9' then some (char.toNat - '0'.toNat)
  else if 'a' ≤ char ∧ char ≤ 'f' then some (char.toNat - 'a'.toNat + 10)
  else if 'A' ≤ char ∧ char ≤ 'F' then some (char.toNat - 'A'.toNat + 10)
  else none

/-- The number that a run of hexadecimal digits denotes. -/
def hexValue? (digits : List Char) : Option Nat :=
  digits.foldlM (fun value digit => (hexDigit? digit).map (value * 16 + ·)) 0

/-- A 16-bit unit, written as four hexadecimal digits. -/
def unit? (input : List Char) : Option (Nat × List Char) :=
  if input.length < 4 then none else (hexValue? (input.take 4)).map (·, input.drop 4)

/-- The character that units stand for: one unit, or a surrogate pair. -/
def unitsChar? (input : List Char) : Option (Char × List Char) := do
  let (first, rest) ← unit? input
  if 0xD800 ≤ first ∧ first < 0xDC00 then
    let (second, rest) ← unit? (← expect? ['\\', 'u'] rest)
    if 0xDC00 ≤ second ∧ second < 0xE000 then
      some (Char.ofNat (0x10000 + (first - 0xD800) * 0x400 + (second - 0xDC00)), rest)
    else none
  else if 0xDC00 ≤ first ∧ first < 0xE000 then none
  else some (Char.ofNat first, rest)

/-- The character that a backslash and what follows it stand for. -/
def escaped? : List Char → Option (Char × List Char)
  | '"' :: rest => some ('"', rest)
  | '\\' :: rest => some ('\\', rest)
  | '/' :: rest => some ('/', rest)
  | 'b' :: rest => some ('\x08', rest)
  | 'f' :: rest => some ('\x0c', rest)
  | 'n' :: rest => some ('\n', rest)
  | 'r' :: rest => some ('\r', rest)
  | 't' :: rest => some ('\t', rest)
  | 'u' :: rest => unitsChar? rest
  | _ => none

/-- The rest of a string behind its opening quote; the characters read so far are in reverse. -/
def string? : (fuel : Nat) → (found : List Char) → List Char → Option (String × List Char)
  | 0, _, _ => none
  | _ + 1, _, [] => none
  | fuel + 1, found, char :: rest =>
    if char = '"' then some (String.ofList found.reverse, rest)
    else if char = '\\' then
      match escaped? rest with
      | some (char, rest) => string? fuel (char :: found) rest
      | none => none
    else if char.toNat < 0x20 then none
    else string? fuel (char :: found) rest

/-- A number in plain decimal. -/
def number? (input : List Char) : Option (Json × List Char) :=
  let digits := input.takeWhile Decimal.isDigit
  if digits.isEmpty then none
  else some (.number (Decimal.value digits), input.dropWhile Decimal.isDigit)

mutual

/-- A value. -/
def value? : (fuel : Nat) → List Char → Option (Json × List Char)
  | 0, _ => none
  | fuel + 1, input =>
    match skipBlanks input with
    | '"' :: rest => (string? fuel [] rest).map fun (value, rest) => (.text value, rest)
    | '[' :: rest =>
      match skipBlanks rest with
      | ']' :: rest => some (.list [], rest)
      | rest => items? fuel [] rest
    | '\x7b' :: rest =>
      match skipBlanks rest with
      | '\x7d' :: rest => some (.object [], rest)
      | rest => members? fuel [] rest
    | 'n' :: rest => (expect? "ull".toList rest).map (.null, ·)
    | 't' :: rest => (expect? "rue".toList rest).map (.bool true, ·)
    | 'f' :: rest => (expect? "alse".toList rest).map (.bool false, ·)
    | rest => number? rest

/-- The rest of a list from one of its items on; the items before it are in reverse. -/
def items? : (fuel : Nat) → (found : List Json) → List Char → Option (Json × List Char)
  | 0, _, _ => none
  | fuel + 1, found, input =>
    match value? fuel input with
    | none => none
    | some (item, rest) =>
      match skipBlanks rest with
      | ',' :: rest => items? fuel (item :: found) rest
      | ']' :: rest => some (.list (item :: found).reverse, rest)
      | _ => none

/-- The rest of an object from one of its members on; the members before it are in reverse. -/
def members? : (fuel : Nat) → (found : List (String × Json)) → List Char →
    Option (Json × List Char)
  | 0, _, _ => none
  | fuel + 1, found, input =>
    match expect? ['"'] (skipBlanks input) with
    | none => none
    | some rest =>
      match string? fuel [] rest with
      | none => none
      | some (name, rest) =>
        match expect? [':'] (skipBlanks rest) with
        | none => none
        | some rest =>
          match value? fuel rest with
          | none => none
          | some (value, rest) =>
            match skipBlanks rest with
            | ',' :: rest => members? fuel ((name, value) :: found) rest
            | '\x7d' :: rest => some (.object ((name, value) :: found).reverse, rest)
            | _ => none

end

/-- The value of a text that holds one value and nothing else. -/
def read? (text : String) : Option Json :=
  let input := text.toList
  match value? (input.length + 1) input with
  | some (value, rest) => if (skipBlanks rest).isEmpty then some value else none
  | none => none

/-! ## Looking into values -/

mutual

/-- How deep lists and objects nest in a value. -/
def depth : Json → Nat
  | .list items => listDepth items + 1
  | .object members => objectDepth members + 1
  | _ => 0

/-- How deep the deepest of several values nests. -/
def listDepth : List Json → Nat
  | [] => 0
  | item :: rest => max item.depth (listDepth rest)

/-- How deep the deepest value of several members nests. -/
def objectDepth : List (String × Json) → Nat
  | [] => 0
  | (_, value) :: rest => max value.depth (objectDepth rest)

end

/-- The member of an object with a name. -/
def member? (name : String) : Json → Option Json
  | .object members => members.lookup name
  | _ => none

/-- The items of a list. -/
def items : Json → Option (List Json)
  | .list items => some items
  | _ => none

/-- The text of a string. -/
def asText : Json → Option String
  | .text value => some value
  | _ => none

/-- A natural number, written as a number or as a string of digits. -/
def asNumber : Json → Option Nat
  | .number value => some value
  | .text value =>
    let digits := value.toList
    if digits.isEmpty || !digits.all Decimal.isDigit then none else some (Decimal.value digits)
  | _ => none

end Json

end GuestBridge
