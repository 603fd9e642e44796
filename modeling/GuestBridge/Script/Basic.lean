import GuestBridge.Guest.Value
import GuestBridge.Setup

/-! # Guest scripts

A guest can be written as a script: what its memory looks like, what it imports, and for each
exported function a body of statements. All values of a script are 32-bit words with wrapping
arithmetic. This module holds the language; a `Program` is a whole script, and what it does not say
about the required exports is filled in from `Program.standardExports`.
-/

namespace GuestBridge.Script

/-- The binary operators. All are unsigned; comparisons give one or zero. -/
inductive BinaryOp
  | add | sub | mul | div | rem | and | or | xor | shiftLeft | shiftRight
  | eq | ne | lt | gt | le | ge
deriving DecidableEq

/-- The expressions of a script. Operands are evaluated from left to right. -/
inductive Expr
  | const (word : UInt32)
  | param (index : Nat)
  | localVar (index : Nat)
  | globalVar (index : Nat)
  | binary (op : BinaryOp) (left right : Expr)
  /-- The byte at an address. -/
  | load8 (address : Expr)
  /-- The little-endian word at an address. -/
  | load32 (address : Expr)
  /-- The number of memory pages. -/
  | pages
  /-- Adds pages; the number of pages before, or all ones if there cannot be so many. -/
  | grow (count : Expr)
  /-- Asks the host for random bytes; its answer. -/
  | random (ptr len : Expr)
  /-- Calls the allocator of the script itself. -/
  | alloc (size : Expr)

/-- A value that a function returns. -/
inductive Result
  | expr (value : Expr)
  /-- A 64-bit word that is written out. -/
  | word (value : UInt64)

/-- The statements of a script. -/
inductive Stmt
  | setLocal (index : Nat) (value : Expr)
  | setGlobal (index : Nat) (value : Expr)
  | store8 (address value : Expr)
  | store32 (address value : Expr)
  | fill (ptr value len : Expr)
  | copy (target source len : Expr)
  /-- Calls the log capability. -/
  | log (ptr len : Expr)
  /-- Calls the import with this index. -/
  | callImport (index : Nat) (args : List Expr)
  | cond (test : Expr) (yes no : List Stmt)
  | loop (test : Expr) (body : List Stmt)
  | trap (code : TrapCode)
  /-- Returns one value for each result of the function. -/
  | ret (values : List Result)
  /-- Returns the packed word of a pointer and a length. -/
  | retPacked (ptr len : Expr)

/-- The statements of a function. -/
abbrev Body : Type := List Stmt

/-- What a script imports. -/
inductive ImportKind
  | func (type : FuncType)
  | global
  | memory
  | table
deriving DecidableEq

/-- An import of a script. -/
structure Import where
  name : ImportName
  kind : ImportKind
deriving DecidableEq

/-- What a script exports under a name. -/
inductive Definition
  | func (type : FuncType) (body : Body)
  | global
  /-- The memory of the script. -/
  | memory
  /-- Another memory, with one page at first. -/
  | freshMemory
  | table

/-- The number of memory pages at first and at most. -/
structure MemoryBounds where
  least : Nat
  most : Nat

/-- The largest number of pages that 32-bit addresses can reach. -/
def maxPages : Nat := 65536

/-- The size of a memory of which a script only says that it exports one. -/
def MemoryBounds.fresh : MemoryBounds := ⟨1, maxPages⟩

/-- The number of locals of a call. -/
def localCount : Nat := 8

/-- A whole script. -/
structure Program where
  memory : Option MemoryBounds
  globals : List UInt32
  /-- Bytes that are copied to memory when an instance is made. -/
  data : List (Nat × Bytes)
  /-- The body that runs when an instance is made. -/
  start : Body
  imports : List Import
  /-- The import that the statement `log` calls. -/
  logImport : ImportName
  exports : List (String × Definition)

namespace Program

/-- The definition of a packed function that says nothing: it returns the zero word. -/
def silent (entry : PackedExport) : String × Definition :=
  (entry.name, .func entry.signature [])

/-- The functions that every script exports unless it says otherwise. -/
def standardFunctions : List (String × Definition) :=
  [(Callee.alloc.name, .func allocSignature [.ret [.expr (.const 1024)]]),
    (Callee.dealloc.name, .func deallocSignature [])] ++ PackedExport.all.map silent

/-- What every script exports unless it says otherwise: its memory, if it has one, and the required
functions. -/
def standardExports (hasMemory : Bool) : List (String × Definition) :=
  (if hasMemory then [(memoryName, .memory)] else []) ++ standardFunctions

/-- The exports with the definition under a name replaced, or removed. -/
def override (exports : List (String × Definition)) (name : String)
    (definition : Option Definition) : List (String × Definition) :=
  let others := exports.filter (·.1 != name)
  others ++ (definition.map (name, ·)).toList

/-- The script that exports nothing at all. -/
def empty : Program :=
  ⟨none, [], [], [], [], Linkage.standard.logSink, []⟩

/-- The body of the allocator of a script, with the types of its results. A script that does not
export one still has the standard one. -/
def allocator (program : Program) : List ValueType × Body :=
  match program.exports.lookup Callee.alloc.name with
  | some (.func type body) => (type.results, body)
  | _ => ([.i32], [.ret [.expr (.const 1024)]])

/-- The names under which other memories than that of the script are exported. -/
def freshMemories (program : Program) : List String :=
  program.exports.filterMap fun (name, definition) =>
    match definition with
    | .freshMemory => some name
    | _ => none

/-- All memories of a script. Statements work on the first one. -/
def memories (program : Program) : List MemoryBounds :=
  program.memory.toList ++ program.freshMemories.map fun _ => .fresh

/-- Whether a memory is exported where the host looks for it. -/
def exportsMemory (program : Program) : Bool :=
  match program.exports.lookup memoryName with
  | some .memory => program.memory.isSome
  | some .freshMemory => true
  | _ => false

/-- Whether the memory that the host finds is not the one that statements work on. -/
def showsOther (program : Program) : Bool :=
  program.freshMemories.contains memoryName &&
    (program.memory.isSome || program.freshMemories.head? != some memoryName)

/-- All bodies of a script. -/
def bodies (program : Program) : List Body :=
  program.start :: program.exports.map fun (_, definition) =>
    match definition with
    | .func _ body => body
    | _ => []

end Program

/-! ## What a script imports -/

mutual

/-- Whether a statement contains a call of the log capability. -/
def Stmt.logs : Stmt → Bool
  | .log _ _ => true
  | .cond _ yes no => bodyLogs yes || bodyLogs no
  | .loop _ body => bodyLogs body
  | _ => false

/-- Whether one of several statements contains a call of the log capability. -/
def bodyLogs : List Stmt → Bool
  | [] => false
  | stmt :: rest => stmt.logs || bodyLogs rest

end

/-- The signature of the log capability. -/
def logType : FuncType := .ofWords 2 []

/-- The signature of the capability that provides random bytes. -/
def randomType : FuncType := .ofWords 2 [.i32]

/-- Everything that a script imports by a name of its own: what it lists, and the log capability if
one of its bodies calls it. Random bytes are always imported under the name that the host gives
them. -/
def Program.allImports (program : Program) : List Import :=
  if program.bodies.any bodyLogs then
    program.imports ++ [⟨program.logImport, .func logType⟩]
  else program.imports

end GuestBridge.Script
