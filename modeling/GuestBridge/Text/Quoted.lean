import GuestBridge.Text.Invisible

/-! # Quoted text

In diagnostics a text stands in double quotes. Quotes and backslashes inside it are marked by a
backslash, as are the characters that have no form of their own: the common ones by a letter, the
others by their code point in hexadecimal. `Quoted.write` produces that form.
-/

namespace GuestBridge.Quoted

/-- The code point of a character in lowercase hexadecimal, without leading zeros. -/
def codePoint (char : Char) : List Char :=
  Nat.toDigits 16 char.toNat

/-- The written form of one character. -/
def writeChar (char : Char) : List Char :=
  if char = '"' then ['\\', '"']
  else if char = '\\' then ['\\', '\\']
  else if char = '\n' then ['\\', 'n']
  else if char = '\t' then ['\\', 't']
  else if char = '\r' then ['\\', 'r']
  else if char = '\x00' then ['\\', '0']
  else if Invisible.has char then ['\\', 'u', '\x7b'] ++ codePoint char ++ ['\x7d']
  else [char]

/-- The quoted form of a text. -/
def write (text : String) : String :=
  String.ofList (['"'] ++ text.toList.flatMap writeChar ++ ['"'])

end GuestBridge.Quoted
