import GuestBridge.Hash.Fnv
import GuestBridge.Proofs.Message.Grammar

/-!
# Two written forms of one number

The hash of a message is a number below `2 ^ 128`. `Fnv.number` states the rule of the hash in
natural numbers, and `toNat_digest` says that a hash state is that number. It is written in two
forms, as a literal and as sixteen bytes. Neither form loses anything: each of them can be computed
from the other one without the message (`bytesOf?`, `literalOf`), so two messages have the same
literal exactly if they have the same bytes. `forms_agree` collects this.
-/

namespace GuestBridge.Fnv

open Decimal

/-! ## The number -/

/-- The number after one more byte: the byte is combined by exclusive or, and the outcome is
multiplied by the prime `2 ^ 88 + 2 ^ 8 + 59` modulo `2 ^ 128`. -/
def nextNumber (number : Nat) (byte : UInt8) : Nat :=
  (number ^^^ byte.toNat) * (2 ^ 88 + 2 ^ 8 + 59) % 2 ^ 128

/-- The hash of a message as a number. -/
def number (message : Bytes) : Nat :=
  message.foldl nextNumber 144066263297769815596495629667062367629

theorem toNat_absorb (state : State) (byte : UInt8) :
    (absorb state byte).toNat = nextNumber state.toNat byte := by
  have hbyte : byte.toNat < 2 ^ 128 := Nat.lt_trans byte.toNat_lt (by decide)
  have hprime : prime.toNat = 2 ^ 88 + 2 ^ 8 + 59 := by decide
  rw [absorb, nextNumber, BitVec.toNat_mul, BitVec.toNat_xor, BitVec.toNat_ofNat,
    Nat.mod_eq_of_lt hbyte, hprime]

theorem toNat_update (state : State) (bytes : Bytes) :
    (update state bytes).toNat = bytes.foldl nextNumber state.toNat := by
  induction bytes generalizing state with
  | nil => rfl
  | cons byte bytes ih => rw [update_cons, ih, toNat_absorb, List.foldl_cons]

/-- A hash state is the number that the rule gives. -/
theorem toNat_digest (message : Bytes) : (digest message).toNat = number message := by
  have hbasis : offsetBasis.toNat = 144066263297769815596495629667062367629 := by decide
  rw [digest, toNat_update, hbasis, number]

theorem number_lt (message : Bytes) : number message < 2 ^ 128 := by
  rw [← toNat_digest]
  exact (digest message).isLt

/-! ## From one form to the other -/

/-- The bytes of the number that a literal denotes. -/
def bytesOf? (literal : String) : Option Bytes :=
  match Message.number? (2 ^ 128) "u128".toList literal.toList with
  | some (number, []) => some (Bytes.ofNatLE 16 number)
  | _ => none

/-- The literal of the number that bytes hold, the least significant byte first. -/
def literalOf (bytes : Bytes) : String :=
  String.ofList (Decimal.write (Bytes.toNatLE bytes) ++ "u128".toList)

theorem literal_eq (message : Bytes) :
    literal message = String.ofList (Decimal.write (number message) ++ "u128".toList) := by
  rw [literal, toNat_digest]
  rfl

theorem leBytes_eq (message : Bytes) : leBytes message = Bytes.ofNatLE 16 (number message) := by
  rw [leBytes, State.leBytes, toNat_digest]

/-- Sixteen bytes are enough for the number. -/
theorem toNatLE_leBytes (message : Bytes) : Bytes.toNatLE (leBytes message) = number message := by
  rw [leBytes_eq, Bytes.toNatLE_ofNatLE]
  exact Nat.mod_eq_of_lt (number_lt message)

theorem bytesOf?_literal (message : Bytes) :
    bytesOf? (literal message) = some (leBytes message) := by
  have hread : Message.number? (2 ^ 128) "u128".toList (literal message).toList =
      some (number message, []) := by
    refine (Message.number?_eq_some_iff fun _ => rfl).2 ⟨Decimal.write (number message), ?_⟩
    rw [value_write, literal_eq, String.toList_ofList, List.append_nil]
    exact ⟨⟨isNumeral_write _, number_lt message⟩, rfl, rfl⟩
  rw [bytesOf?, hread, leBytes_eq]

theorem literalOf_leBytes (message : Bytes) : literalOf (leBytes message) = literal message := by
  rw [literalOf, toNatLE_leBytes, literal_eq]

/-! ## Agreement -/

/-- Both written forms of the hash of a message denote this number. -/
structure Denote (message : Bytes) (number : Nat) : Prop where
  /-- The number is below `2 ^ 128`. -/
  lt : number < 2 ^ 128
  /-- The literal is a numeral of the number with a suffix. The numeral has no superfluous zeros,
  and no other numeral of the number has fewer digits. -/
  literal : ∃ numeral, literal message = String.ofList (numeral ++ "u128".toList) ∧
    IsShortest numeral ∧ value numeral = number ∧
    ∀ other, IsNumeral other → value other = number → numeral.length ≤ other.length
  /-- The bytes hold the number in sixteen bytes, the least significant byte first. -/
  bytes : (leBytes message).length = 16 ∧ Bytes.toNatLE (leBytes message) = number

theorem denote_number (message : Bytes) : Denote message (number message) where
  lt := number_lt message
  literal := by
    refine ⟨Decimal.write (number message), literal_eq message, isShortest_write _, value_write _,
      fun other hother hvalue => ?_⟩
    rw [← hvalue]
    exact length_write_le hother
  bytes := by
    refine ⟨?_, toNatLE_leBytes message⟩
    rw [leBytes_eq, Bytes.length_ofNatLE]

/-- The two written forms of a hash denote the number that the rule of the hash gives, and each can
be computed from the other. Two messages agree in one form exactly if they agree in the other. -/
theorem forms_agree (message other : Bytes) :
    Denote message (number message) ∧
    bytesOf? (literal message) = some (leBytes message) ∧
    literalOf (leBytes message) = literal message ∧
    (literal message = literal other ↔ leBytes message = leBytes other) := by
  refine ⟨denote_number message, bytesOf?_literal message, literalOf_leBytes message, ?_, ?_⟩
  · intro hliteral
    have hbytes := congrArg bytesOf? hliteral
    rw [bytesOf?_literal, bytesOf?_literal] at hbytes
    exact Option.some.inj hbytes
  · intro hbytes
    rw [← literalOf_leBytes message, hbytes, literalOf_leBytes]

end GuestBridge.Fnv
