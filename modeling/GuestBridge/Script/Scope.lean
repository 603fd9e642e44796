import GuestBridge.Script.Basic

/-! # What a script may refer to

A script compiles only if its parts fit together: statements refer to memory, globals, locals and
imported functions that exist, a packed word is returned where one is expected, and the bounds of
the memory make sense (`Program.fits`).
-/

namespace GuestBridge.Script

/-- What the statements of a function may refer to. -/
structure Scope where
  hasMemory : Bool
  globalCount : Nat
  imports : List Import
  /-- Whether the allocator of the script takes a word and returns one. -/
  hasAllocator : Bool
  results : List ValueType

/-- Whether an expression refers only to what exists. -/
def Expr.fits (scope : Scope) : Expr → Bool
  | .const _ | .param _ => true
  | .localVar index => index < localCount
  | .globalVar index => index < scope.globalCount
  | .binary _ left right => left.fits scope && right.fits scope
  | .load8 address | .load32 address => scope.hasMemory && address.fits scope
  | .pages => scope.hasMemory
  | .grow count => scope.hasMemory && count.fits scope
  | .random ptr len => ptr.fits scope && len.fits scope
  | .alloc size => scope.hasAllocator && size.fits scope

/-- Whether a returned value refers only to what exists. -/
def Result.fits (scope : Scope) : Result → Bool
  | .expr value => value.fits scope
  | .word _ => true

/-- Whether an imported function can be called with so many arguments. -/
def Import.takes (item : Import) (count : Nat) : Bool :=
  match item.kind with
  | .func type => type.params.length == count
  | _ => false

mutual

/-- Whether a statement refers only to what exists. -/
def Stmt.fits (scope : Scope) : Stmt → Bool
  | .setLocal index value => index < localCount && value.fits scope
  | .setGlobal index value => index < scope.globalCount && value.fits scope
  | .store8 address value | .store32 address value =>
    scope.hasMemory && address.fits scope && value.fits scope
  | .fill first second third | .copy first second third =>
    scope.hasMemory && first.fits scope && second.fits scope && third.fits scope
  | .log ptr len => ptr.fits scope && len.fits scope
  | .callImport index args =>
    (scope.imports[index]?.any (·.takes args.length)) && args.all (·.fits scope)
  | .cond test yes no => test.fits scope && bodyFits scope yes && bodyFits scope no
  | .loop test body => test.fits scope && bodyFits scope body
  | .trap _ => true
  | .ret values => values.all (·.fits scope)
  | .retPacked ptr len =>
    (scope.results == [] || scope.results == [.i64]) && ptr.fits scope && len.fits scope

/-- Whether several statements refer only to what exists. -/
def bodyFits (scope : Scope) : List Stmt → Bool
  | [] => true
  | stmt :: rest => stmt.fits scope && bodyFits scope rest

end

/-- Whether a memory can have these bounds. -/
def MemoryBounds.fits (bounds : MemoryBounds) : Bool :=
  bounds.least ≤ bounds.most && bounds.most ≤ maxPages

namespace Program

/-- Whether a script has a memory for its statements; an imported one counts. -/
def hasMemory (program : Program) : Bool :=
  !program.memories.isEmpty || program.imports.any (·.kind == .memory)

/-- Whether the allocator of a script takes a word and returns one. -/
def hasAllocator (program : Program) : Bool :=
  match program.exports.lookup Callee.alloc.name with
  | some (.func type _) => type == allocSignature
  | _ => true

/-- What the statements of a function may refer to, given the types of its results. -/
def scope (program : Program) (results : List ValueType) : Scope where
  hasMemory := program.hasMemory
  globalCount := program.globals.length
  imports := program.imports
  hasAllocator := program.hasAllocator
  results := results

/-- Whether an exported function refers only to what exists. -/
def definitionFits (program : Program) : Definition → Bool
  | .func type body => bodyFits (program.scope type.results) body
  | _ => true

/-- Whether the parts of a script fit together. -/
def fits (program : Program) : Bool :=
  program.memories.all MemoryBounds.fits && (program.data.isEmpty || program.hasMemory) &&
    bodyFits (program.scope []) program.start &&
    program.exports.all fun (_, definition) => program.definitionFits definition

end Program

end GuestBridge.Script
