/-! # Values and signatures of guest functions

The values that a guest function takes and returns have one of seven types. The host passes 32-bit
words only and expects a 64-bit word back, but a guest may declare anything, so a signature is
compared and, when it does not fit, shown (`FuncType.describe`).
-/

namespace GuestBridge

/-- The type of a value that crosses the boundary. -/
inductive ValueType
  | i32 | i64 | f32 | f64 | v128 | funcref | externref
deriving DecidableEq

/-- The name of a value type in a signature; references of either kind have one name. -/
def ValueType.name : ValueType → String
  | .i32 => "i32"
  | .i64 => "i64"
  | .f32 => "f32"
  | .f64 => "f64"
  | .v128 => "v128"
  | .funcref | .externref => "ref"

/-- A value that a guest function returned. Floating-point numbers and vectors are kept as bits. -/
inductive Value
  | i32 (word : UInt32)
  | i64 (word : UInt64)
  | f32 (bits : UInt32)
  | f64 (bits : UInt64)
  | v128 (bits : BitVec 128)
  /-- A reference of either kind; the host never looks into it. -/
  | reference
deriving DecidableEq

/-- The name of the type of a value in a diagnostic. -/
def Value.typeName : Value → String
  | .i32 _ => "i32"
  | .i64 _ => "i64"
  | .f32 _ => "f32"
  | .f64 _ => "f64"
  | .v128 _ => "v128"
  | .reference => "reference"

/-- The zero of a type; the null reference for reference types. -/
def Value.zero : ValueType → Value
  | .i32 => .i32 0
  | .i64 => .i64 0
  | .f32 => .f32 0
  | .f64 => .f64 0
  | .v128 => .v128 0
  | .funcref | .externref => .reference

/-- The types of the parameters and results of a function. -/
structure FuncType where
  params : List ValueType
  results : List ValueType
deriving DecidableEq

namespace FuncType

/-- The written form of a signature, as in `(i32, i32) -> i64`. A single result stands alone, any
other number of results stands in parentheses. -/
def describe (type : FuncType) : String :=
  let list (types : List ValueType) := "(" ++ ", ".intercalate (types.map ValueType.name) ++ ")"
  list type.params ++ " -> " ++
    match type.results with
    | [single] => single.name
    | results => list results

/-- The signature with so many words as parameters and the given results. -/
def ofWords (count : Nat) (results : List ValueType) : FuncType :=
  ⟨List.replicate count .i32, results⟩

end FuncType

end GuestBridge
