/-! # Decimal numerals

The texts that this library reads hold natural numbers in plain decimal: one or more ASCII digits,
leading zeros allowed. `Decimal.value` is the number that a run of digits denotes and
`Decimal.read?` reads a whole numeral below a bound.
-/

namespace GuestBridge.Decimal

/-- Whether a character is one of the ten ASCII digits. -/
def isDigit (char : Char) : Bool :=
  '0' ≤ char && char ≤ '9'

/-- The number that an ASCII digit denotes. -/
def digitValue (char : Char) : Nat :=
  char.toNat - '0'.toNat

/-- The number that a run of digits denotes, most significant first. -/
def value (digits : List Char) : Nat :=
  digits.foldl (fun number digit => number * 10 + digitValue digit) 0

/-- Reads a numeral: at least one digit, nothing but digits, and a value below the bound. -/
def read? (bound : Nat) (text : List Char) : Option Nat :=
  if text.isEmpty || !text.all isDigit then none
  else if value text < bound then some (value text) else none

/-- The shortest numeral of a number. -/
def write (number : Nat) : List Char :=
  Nat.toDigits 10 number

end GuestBridge.Decimal
