import GuestBridge.Bytes
import GuestBridge.Text.Decimal

/-! # The 128-bit FNV-1a hash

The hash folds a message into a 128-bit state, one byte at a time: the byte is combined by
exclusive or, and the state is then multiplied by a fixed odd prime modulo `2 ^ 128`. It is a
placeholder and resists nothing, but it has two properties that a message hash must have here:
`Fnv.update_append` says that it can be computed piece by piece, and `Fnv.literal` and
`Fnv.leBytes` are two written forms of one number, `Fnv.digest`.
-/

namespace GuestBridge.Fnv

/-- The state of the hash. -/
abbrev State := BitVec 128

/-- The state before any byte. -/
def offsetBasis : State := 0x6c62272e07bb014262b821756295c58d#128

/-- The factor that spreads each byte over the state. -/
def prime : State := 0x0000000001000000000000000000013b#128

/-- The state after one more byte. -/
def absorb (state : State) (byte : UInt8) : State :=
  (state ^^^ BitVec.ofNat 128 byte.toNat) * prime

/-- The state after more bytes. -/
def update (state : State) (bytes : Bytes) : State :=
  bytes.foldl absorb state

@[simp] theorem update_nil (state : State) : update state [] = state := rfl

@[simp] theorem update_cons (state : State) (byte : UInt8) (bytes : Bytes) :
    update state (byte :: bytes) = update (absorb state byte) bytes := rfl

/-- Hashing the parts of a message one after another is hashing the message. -/
theorem update_append (state : State) (front back : Bytes) :
    update state (front ++ back) = update (update state front) back := by
  simp [update, List.foldl_append]

/-- The hash of a message. -/
def digest (message : Bytes) : State :=
  update offsetBasis message

/-- The hash as a literal: its shortest decimal numeral with a type suffix. -/
def literal (message : Bytes) : String :=
  String.ofList (Decimal.write (digest message).toNat ++ ['u', '1', '2', '8'])

/-- The sixteen bytes of a hash state, least significant first. -/
def State.leBytes (state : State) : Bytes :=
  Bytes.ofNatLE 16 state.toNat

/-- The hash as bytes, least significant first. -/
def leBytes (message : Bytes) : Bytes :=
  State.leBytes (digest message)

end GuestBridge.Fnv
