/-! # Byte strings

Operands and results cross the boundary between host and guest as byte strings. This module fixes
their type and the two written forms that the rest of the library needs: the little-endian form of
a number (`Bytes.ofNatLE`, read back by `Bytes.toNatLE`) and lowercase hexadecimal (`Bytes.hex`).
-/

namespace GuestBridge

/-- A byte string. -/
abbrev Bytes := List UInt8

namespace Bytes

/-- The low `width` bytes of a number, least significant byte first. -/
def ofNatLE : (width : Nat) → Nat → Bytes
  | 0, _ => []
  | width + 1, n => UInt8.ofNat n :: ofNatLE width (n / 256)

/-- The number whose bytes, least significant first, are the given ones. -/
def toNatLE (bytes : Bytes) : Nat :=
  bytes.foldr (fun byte rest => byte.toNat + 256 * rest) 0

/-- A little-endian form has exactly the requested width. -/
@[simp] theorem length_ofNatLE (width n : Nat) : (ofNatLE width n).length = width := by
  induction width generalizing n with
  | zero => rfl
  | succ width ih => simp [ofNatLE, ih]

@[simp] theorem toNatLE_nil : toNatLE [] = 0 := rfl

@[simp] theorem toNatLE_cons (byte : UInt8) (bytes : Bytes) :
    toNatLE (byte :: bytes) = byte.toNat + 256 * toNatLE bytes := rfl

/-- Reading a little-endian form back gives the number modulo what the width can hold. -/
theorem toNatLE_ofNatLE (width n : Nat) : toNatLE (ofNatLE width n) = n % Nat.pow 256 width := by
  induction width generalizing n with
  | zero => simp [ofNatLE, Nat.mod_one]
  | succ width ih =>
    show _ = n % (Nat.pow 256 width * 256)
    rw [ofNatLE, toNatLE_cons, ih, Nat.mul_comm (Nat.pow 256 width) 256, Nat.mod_mul]
    simp

/-- A little-endian number fits its width. -/
theorem toNatLE_lt (bytes : Bytes) : toNatLE bytes < Nat.pow 256 bytes.length := by
  induction bytes with
  | nil => simp
  | cons byte bytes ih =>
    have := byte.toNat_lt
    show _ < Nat.pow 256 bytes.length * 256
    rw [toNatLE_cons]
    omega

/-- Writing a little-endian number back in its own width gives the same bytes. -/
theorem ofNatLE_toNatLE (bytes : Bytes) : ofNatLE bytes.length (toNatLE bytes) = bytes := by
  induction bytes with
  | nil => rfl
  | cons byte bytes ih =>
    have := byte.toNat_lt
    rw [List.length_cons, toNatLE_cons, ofNatLE]
    congr 1
    · apply UInt8.toNat_inj.1
      simp only [UInt8.toNat_ofNat']
      omega
    · rw [show (byte.toNat + 256 * toNatLE bytes) / 256 = toNatLE bytes by omega, ih]

/-- The lowercase hexadecimal digit of a number below sixteen. -/
def hexDigit (n : Nat) : Char :=
  Nat.digitChar n

/-- Two lowercase hexadecimal digits for each byte, in order. -/
def hex (bytes : Bytes) : String :=
  String.ofList (bytes.flatMap fun byte => [hexDigit (byte.toNat / 16), hexDigit (byte.toNat % 16)])

/-- The UTF-8 bytes of a text. -/
def ofText (text : String) : Bytes :=
  text.toUTF8.toList

end Bytes

end GuestBridge
