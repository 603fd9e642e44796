import GuestBridge.Hash.Fnv
import Mathlib.Logic.Function.Basic

/-!
# The hash tells substituted bytes apart

A step of the hash loses nothing of the state before it: the prime is odd, so it can be divided by
modulo `2 ^ 128`, and the byte is taken out again by one more exclusive or (`expel`). So a step is a
bijection on the states, and so is every sequence of steps (`update_bijective`). Within a step, two
bytes lead to two states (`absorb_right_inj`), and all that is absorbed afterwards keeps them apart.
Together with the composition of updates this is `absorbs_without_loss`. It says nothing about
messages that differ in more than one byte.
-/

namespace GuestBridge.Fnv

/-! ## One step backwards -/

/-- The factor that undoes the multiplication with the prime. -/
def primeInverse : State := 0xb1041ad2562ff2ff2ff2ff2ff2ff2ff3#128

theorem prime_mul_primeInverse : prime * primeInverse = 1#128 := by decide

/-- The state before a byte was absorbed. -/
def expel (state : State) (byte : UInt8) : State :=
  (state * primeInverse) ^^^ BitVec.ofNat 128 byte.toNat

theorem expel_absorb (state : State) (byte : UInt8) : expel (absorb state byte) byte = state := by
  rw [expel, absorb, BitVec.mul_assoc, prime_mul_primeInverse, BitVec.mul_one, BitVec.xor_assoc,
    BitVec.xor_self, BitVec.xor_zero]

theorem absorb_expel (state : State) (byte : UInt8) : absorb (expel state byte) byte = state := by
  rw [absorb, expel, BitVec.xor_assoc, BitVec.xor_self, BitVec.xor_zero, BitVec.mul_assoc,
    BitVec.mul_comm primeInverse, prime_mul_primeInverse, BitVec.mul_one]

theorem absorb_bijective (byte : UInt8) : Function.Bijective fun state => absorb state byte :=
  Function.bijective_iff_has_inverse.2
    ⟨fun state => expel state byte, fun state => expel_absorb state byte,
      fun state => absorb_expel state byte⟩

/-! ## Many steps -/

/-- Hashing the parts of a message one after another is hashing the message. -/
theorem foldl_update (state : State) (parts : List Bytes) :
    parts.foldl update state = update state parts.flatten := by
  induction parts generalizing state with
  | nil => rfl
  | cons part parts ih => rw [List.foldl_cons, ih, List.flatten_cons, update_append]

/-- Absorbing a byte string moves every state, and no two states to one. -/
theorem update_bijective (bytes : Bytes) : Function.Bijective fun state => update state bytes := by
  induction bytes with
  | nil => exact Function.bijective_id
  | cons byte bytes ih => exact ih.comp (absorb_bijective byte)

/-! ## Substitutions -/

/-- From one state, two bytes lead to two states. -/
theorem absorb_right_inj {state : State} {first second : UInt8} :
    absorb state first = absorb state second ↔ first = second := by
  constructor
  · intro hsame
    -- Either byte can be taken out of the common state, and what is left is the same.
    have hback : expel (absorb state first) first = expel (absorb state first) second := by
      rw [expel_absorb, hsame, expel_absorb]
    have hnumber := congrArg BitVec.toNat ((BitVec.xor_right_inj _).1 hback)
    have hfirst := first.toNat_lt
    have hsecond := second.toNat_lt
    rw [BitVec.toNat_ofNat, BitVec.toNat_ofNat, Nat.mod_eq_of_lt (by omega),
      Nat.mod_eq_of_lt (by omega)] at hnumber
    exact UInt8.toNat_inj.1 hnumber
  · rintro rfl
    rfl

/-- A byte that is replaced by another one changes the hash, wherever it stands. -/
theorem update_substitution {state : State} {front back : Bytes} {first second : UInt8} :
    update state (front ++ [first] ++ back) = update state (front ++ [second] ++ back) ↔
      first = second := by
  rw [update_append, update_append, update_append state (front ++ [second]), update_append,
    (update_bijective back).injective.eq_iff]
  exact absorb_right_inj

/-- From every state, the parts of a message can be hashed one after another. Every message is
absorbed by a bijection on the states. Two messages that differ in a single byte have two
hashes. -/
theorem absorbs_without_loss :
    (∀ (state : State) (parts : List Bytes),
      parts.foldl update state = update state parts.flatten) ∧
    (∀ bytes, Function.Bijective fun state => update state bytes) ∧
    ∀ front back first second,
      digest (front ++ [first] ++ back) = digest (front ++ [second] ++ back) ↔ first = second :=
  ⟨foldl_update, update_bijective, fun _ _ _ _ => update_substitution⟩

end GuestBridge.Fnv
