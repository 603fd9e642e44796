import GuestBridge.Script.Program
import GuestBridge.Text.Json

/-! # Reading scripts

The written form of a script is a JSON object. Expressions are numbers and lists that start with the
name of an operator, statements are lists that start with the name of a statement, and byte strings
have several forms. `Program.ofJson?` reads a whole script; what it does not mention keeps its
standard meaning.
-/

namespace GuestBridge.Script

/-! ## Byte strings -/

/-- The bytes that a text of hexadecimal digits denotes. -/
def hexBytes? : List Char → Option Bytes
  | [] => some []
  | high :: low :: rest => do
    let value ← Json.hexValue? [high, low]
    return UInt8.ofNat value :: (← hexBytes? rest)
  | [_] => none

/-- Bytes repeated over and over, cut to a length. -/
def cycle (bytes : Bytes) (length : Nat) : Bytes :=
  if bytes.isEmpty then []
  else (List.replicate (length / bytes.length + 1) bytes).flatten.take length

/-- A byte string that nests less deep than given. -/
def bytesWithin? : (depth : Nat) → Json → Option Bytes
  | 0, _ => none
  | _ + 1, .null => some []
  | _ + 1, .text value => some (Bytes.ofText value)
  | depth + 1, .list items => (items.mapM (bytesWithin? depth)).map List.flatten
  | depth + 1, value => do
    match value.member? "hex" with
    | some digits => hexBytes? (← digits.asText).toList
    | none =>
      let bytes ← bytesWithin? depth (← value.member? "rep")
      return cycle bytes (← (← value.member? "n").asNumber)

/-- A byte string: a text, hexadecimal digits, a repetition, a row of byte strings, or nothing. -/
def bytes? (value : Json) : Option Bytes :=
  bytesWithin? (value.depth + 1) value

/-! ## Expressions and statements -/

/-- A 32-bit word. -/
def word? (value : Json) : Option UInt32 :=
  value.asNumber.map UInt32.ofNat

/-- The binary operator with a name. -/
def binaryOp? : String → Option BinaryOp
  | "+" => some .add
  | "-" => some .sub
  | "*" => some .mul
  | "/" => some .div
  | "%" => some .rem
  | "&" => some .and
  | "|" => some .or
  | "^" => some .xor
  | "<<" => some .shiftLeft
  | ">>" => some .shiftRight
  | "==" => some .eq
  | "!=" => some .ne
  | "<" => some .lt
  | ">" => some .gt
  | "<=" => some .le
  | ">=" => some .ge
  | _ => none

/-- The expression of an operator with operands that have been read. -/
def operation? : String → List Expr → Option Expr
  | "pages", [] => some .pages
  | "ld8", [address] => some (.load8 address)
  | "ld32", [address] => some (.load32 address)
  | "grow", [count] => some (.grow count)
  | "alloc", [size] => some (.alloc size)
  | "random", [ptr, len] => some (.random ptr len)
  | name, [left, right] => (binaryOp? name).map (.binary · left right)
  | _, _ => none

/-- An expression that nests less deep than given. -/
def exprWithin? : (depth : Nat) → Json → Option Expr
  | 0, _ => none
  | _ + 1, .list [.text "p", index] => index.asNumber.map .param
  | _ + 1, .list [.text "l", index] => index.asNumber.map .localVar
  | _ + 1, .list [.text "g", index] => index.asNumber.map .globalVar
  | depth + 1, .list (.text name :: operands) => do
    operation? name (← operands.mapM (exprWithin? depth))
  | _ + 1, value => (word? value).map .const

/-- An expression. -/
def expr? (value : Json) : Option Expr :=
  exprWithin? (value.depth + 1) value

/-- A value that a function returns; a string is a 64-bit word. -/
def result? : Json → Option Result
  | .text digits => (Json.text digits).asNumber.map fun value => .word (UInt64.ofNat value)
  | value => (expr? value).map .expr

/-- The trap code that a script names. -/
def trapCode? : String → Option TrapCode
  | "unreachable" => some .unreachableCodeReached
  | "memory" => some .memoryOutOfBounds
  | "div0" => some .integerDivisionByZero
  | "overflow" => some .integerOverflow
  | "conversion" => some .badConversionToInteger
  | "table" => some .tableOutOfBounds
  | "null" => some .indirectCallToNull
  | "signature" => some .badSignature
  | "stack" => some .stackOverflow
  | _ => none

/-- A statement that contains no statements, with operands that are all expressions. -/
def simple? : String → List Expr → Option Stmt
  | "st8", [address, value] => some (.store8 address value)
  | "st32", [address, value] => some (.store32 address value)
  | "fill", [ptr, value, len] => some (.fill ptr value len)
  | "copy", [target, source, len] => some (.copy target source len)
  | "log", [ptr, len] => some (.log ptr len)
  | "pack", [ptr, len] => some (.retPacked ptr len)
  | _, _ => none

/-- A statement that nests less deep than given. -/
def stmtWithin? : (depth : Nat) → Json → Option Stmt
  | 0, _ => none
  | _ + 1, .list [.text "=l", index, value] => do
    return .setLocal (← index.asNumber) (← expr? value)
  | _ + 1, .list [.text "=g", index, value] => do
    return .setGlobal (← index.asNumber) (← expr? value)
  | _ + 1, .list (.text "import" :: index :: args) => do
    return .callImport (← index.asNumber) (← args.mapM expr?)
  | depth + 1, .list [.text "if", test, .list yes] => do
    return .cond (← expr? test) (← yes.mapM (stmtWithin? depth)) []
  | depth + 1, .list [.text "if", test, .list yes, .list no] => do
    return .cond (← expr? test) (← yes.mapM (stmtWithin? depth)) (← no.mapM (stmtWithin? depth))
  | depth + 1, .list [.text "while", test, .list body] => do
    return .loop (← expr? test) (← body.mapM (stmtWithin? depth))
  | _ + 1, .list [.text "trap", .text code] => (trapCode? code).map .trap
  | _ + 1, .list (.text "ret" :: values) => (values.mapM result?).map .ret
  | _ + 1, .list (.text name :: operands) => do simple? name (← operands.mapM expr?)
  | _ + 1, _ => none

/-- The statements of a function. -/
def body? (value : Json) : Option Body := do
  (← value.items).mapM (stmtWithin? value.depth)

/-! ## The parts of a script -/

/-- The value type with a name. -/
def valueType? : Json → Option ValueType
  | .text "i32" => some .i32
  | .text "i64" => some .i64
  | .text "f32" => some .f32
  | .text "f64" => some .f64
  | .text "v128" => some .v128
  | .text "funcref" => some .funcref
  | .text "externref" => some .externref
  | _ => none

/-- The member of an object with a name, read, or a standard value if it is absent or null. -/
def memberOr {α : Type} (value : Json) (name : String) (standard : α)
    (read : Json → Option α) : Option α :=
  match value.member? name with
  | none | some .null => some standard
  | some found => read found

/-- A list of value types. -/
def valueTypes? (value : Json) : Option (List ValueType) := do
  (← value.items).mapM valueType?

/-- The name of an import, written as a pair. -/
def importName? : Json → Option ImportName
  | .list [.text module, .text name] => some ⟨module, name⟩
  | _ => none

/-- An import; it is a function unless it says otherwise. -/
def import? (value : Json) : Option Import := do
  let module ← (← value.member? "module").asText
  let name ← (← value.member? "name").asText
  let kind ← memberOr value "kind" "func" Json.asText
  let params ← memberOr value "params" [] valueTypes?
  let results ← memberOr value "results" [] valueTypes?
  match kind with
  | "func" => some ⟨⟨module, name⟩, .func ⟨params, results⟩⟩
  | "global" => some ⟨⟨module, name⟩, .global⟩
  | "memory" => some ⟨⟨module, name⟩, .memory⟩
  | "table" => some ⟨⟨module, name⟩, .table⟩
  | _ => none

/-- The signature and body that a name has unless the script says otherwise. -/
def standardFunction (name : String) : FuncType × Body :=
  match Program.standardFunctions.lookup name with
  | some (.func type body) => (type, body)
  | _ => (⟨[], []⟩, [])

/-- What a script says about an export, given the name; `null` removes the export. -/
def definition? (name : String) : Json → Option (Option Definition)
  | .null => some none
  | .list body => do
    return some (.func (standardFunction name).1 (← body? (.list body)))
  | value => do
    match ← memberOr value "kind" "func" Json.asText with
    | "func" =>
      let (type, body) := standardFunction name
      let params ← memberOr value "params" type.params valueTypes?
      let results ← memberOr value "results" type.results valueTypes?
      let body ← memberOr value "body" body body?
      return some (.func ⟨params, results⟩ body)
    | "global" => some (some .global)
    | "memory" => some (some .freshMemory)
    | "table" => some (some .table)
    | _ => none

/-- The memory of a script: its least and, if written, its largest number of pages. -/
def memory? : Json → Option (Option MemoryBounds)
  | .null => some none
  | .list [least] => do return some ⟨← least.asNumber, maxPages⟩
  | .list [least, most] => do return some ⟨← least.asNumber, ← most.asNumber⟩
  | _ => none

/-- A segment of data: where it goes and what it is. -/
def segment? : Json → Option (Nat × Bytes)
  | .list [offset, bytes] => do return (← offset.asNumber, ← bytes? bytes)
  | _ => none

/-- The exports of a script: the standard ones with what the script says about them. -/
def exports? (hasMemory : Bool) (value : Json) : Option (List (String × Definition)) :=
  match value with
  | .object members =>
    members.foldlM
      (fun exports (name, said) =>
        (definition? name said).map (Program.override exports name))
      (Program.standardExports hasMemory)
  | _ => none

/-- A list of things, each read. -/
def listOf {α : Type} (read : Json → Option α) (value : Json) : Option (List α) := do
  (← value.items).mapM read

/-- A whole script. A script that does not mention its memory has one page that can grow; one that
says `null` has no memory. -/
def Program.ofJson? (value : Json) : Option Program := do
  let memory ← ((value.member? "memory").map memory?).getD (some (some ⟨1, maxPages⟩))
  let globals ← memberOr value "globals" [] (listOf word?)
  let data ← memberOr value "data" [] (listOf segment?)
  let start ← memberOr value "start" [] body?
  let imports ← memberOr value "imports" [] (listOf import?)
  let logImport ← memberOr value "log" Linkage.standard.logSink importName?
  let exports ← memberOr value "exports" (Program.standardExports memory.isSome)
    (exports? memory.isSome)
  return ⟨memory, globals, data, start, imports, logImport, exports⟩

end GuestBridge.Script
