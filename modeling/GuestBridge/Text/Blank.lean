/-! # Blank characters

The characters that count as space between words, in any script (`Blank.has`), and the trimming of a
text at its end (`Blank.trimEnd`).
-/

namespace GuestBridge.Blank

/-- The code points of the blank characters, as inclusive ranges in ascending order. -/
def ranges : List (Nat × Nat) :=
  [(0x09, 0x0D), (0x20, 0x20), (0x85, 0x85), (0xA0, 0xA0), (0x1680, 0x1680), (0x2000, 0x200A),
    (0x2028, 0x2029), (0x202F, 0x202F), (0x205F, 0x205F), (0x3000, 0x3000)]

/-- Whether a character is blank. -/
def has (char : Char) : Bool :=
  ranges.any fun (first, last) => first ≤ char.toNat && char.toNat ≤ last

/-- A text without the blanks at its end. -/
def trimEnd (text : List Char) : List Char :=
  (text.reverse.dropWhile has).reverse

end GuestBridge.Blank
