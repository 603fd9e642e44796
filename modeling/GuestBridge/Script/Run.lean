import GuestBridge.Guest.Capability
import GuestBridge.Memory.Fill
import GuestBridge.Script.Link

/-! # Running a script

A call of a script function runs on a `Machine`: the state of the instance together with the
parameters and locals of the call. Expressions are evaluated by `Expr.eval`, which recurs on the
expression. Statements are run by `execute`, which keeps all statements that are still to be run in
one list and spends one unit of fuel for each; a loop puts its body and itself back in front of the
rest. The only call inside a script is that of its own allocator, and `invoke` bounds how deep such
calls nest.
-/

namespace GuestBridge.Script

/-- The state of a call. -/
structure Machine where
  /-- The memory that statements work on. -/
  memory : Memory
  /-- The memory that the host sees, if it is another one. -/
  other : Option Memory
  globals : Array UInt32
  entropy : Entropy
  tripwire : Option Tripwire
  /-- What the host capabilities noticed, the latest first. -/
  notices : List Notice
  params : List UInt32
  locals : Array UInt32

/-- Why a call does not return. -/
inductive Stop
  | trapped (trap : Trap)
  | panicked (payload : Payload)

/-- A part of a call. -/
abbrev RunM (α : Type) : Type := EStateM Stop Machine α

/-- What a linked script knows about itself. -/
structure Linked where
  /-- Whether the host capabilities see a memory. -/
  exportsMemory : Bool
  bindings : List Binding
  logBinding : Binding
  allocResults : List ValueType
  allocBody : Body

/-- Stops with the trap of a code. -/
def trapWith {α : Type} (code : TrapCode) : RunM α :=
  throw (.trapped (.ofCode code))

/-! ## Memory -/

/-- Goes on if a range lies inside the memory. -/
def requireRange (ptr : UInt32) (length : Nat) : RunM Unit := do
  unless ptr.toNat + length ≤ (← get).memory.size do trapWith .memoryOutOfBounds

/-- Changes the memory. -/
def modifyMemory (change : Memory → Memory) : RunM Unit :=
  modify fun machine => { machine with memory := change machine.memory }

/-- Replaces bytes of the memory, or none of them. -/
def storeBytes (ptr : UInt32) (bytes : Bytes) : RunM Unit := do
  requireRange ptr bytes.length
  modifyMemory (·.store ptr.toNat bytes)

/-- Reads bytes of the memory. -/
def loadBytes (ptr : UInt32) (length : Nat) : RunM Bytes := do
  requireRange ptr length
  return (← get).memory.bytesAt ptr.toNat length

/-- Adds pages to the memory: the number of pages before, or all ones if there cannot be so many. -/
def growMemory (count : UInt32) : RunM UInt32 := fun machine =>
  match machine.memory.grow? count.toNat with
  | some memory =>
    .ok (UInt32.ofNat machine.memory.pages.size) { machine with memory := memory }
  | none => .ok 0xFFFFFFFF machine

/-! ## Host capabilities -/

/-- Shows something to the log subscriber, whose tripwire may answer with a panic. -/
def notice (item : Notice) : RunM Unit := fun machine =>
  let seen := { machine with notices := item :: machine.notices }
  match Capability.tripped machine.tripwire item with
  | some payload => .error (.panicked payload) { seen with tripwire := none }
  | none => .ok () seen

/-- The memory that the host sees if it sees one. -/
def Machine.shared (machine : Machine) : Memory :=
  machine.other.getD machine.memory

/-- The machine with the memory replaced that the host sees. -/
def Machine.share (machine : Machine) (memory : Memory) : Machine :=
  if machine.other.isSome then { machine with other := some memory }
  else { machine with memory := memory }

/-- Calls the log capability. -/
def callLog (linked : Linked) (region : Region) : RunM Unit := do
  let memory := (← get).shared
  notice (Capability.log (if linked.exportsMemory then some memory else none) region)

/-- Calls the capability that provides random bytes. -/
def callRandom (linked : Linked) (region : Region) : RunM UInt32 := fun machine =>
  let drawn := Capability.random linked.exportsMemory machine.shared machine.entropy region
  .ok drawn.answer
    { machine.share drawn.memory with
      entropy := drawn.entropy
      notices := drawn.notices ++ machine.notices }

/-- Calls what an import is bound to; a result is dropped. -/
def callBinding (linked : Linked) (args : List UInt32) : Binding → RunM Unit
  | .log => callLog linked ⟨args.getD 0 0, args.getD 1 0⟩
  | .random => discard (callRandom linked ⟨args.getD 0 0, args.getD 1 0⟩)
  | .stub name => throw (.trapped ⟨none, unknownImport name⟩)

/-! ## Expressions -/

/-- The word for a truth value. -/
def truth (value : Bool) : UInt32 :=
  if value then 1 else 0

/-- Divides, unless the divisor is zero. -/
def divide (op : UInt32 → UInt32 → UInt32) (left right : UInt32) : RunM UInt32 :=
  if right = 0 then trapWith .integerDivisionByZero else pure (op left right)

/-- Applies a binary operator. Shift amounts count modulo 32. -/
def BinaryOp.apply (left right : UInt32) : BinaryOp → RunM UInt32
  | .add => pure (left + right)
  | .sub => pure (left - right)
  | .mul => pure (left * right)
  | .div => divide (· / ·) left right
  | .rem => divide (· % ·) left right
  | .and => pure (left &&& right)
  | .or => pure (left ||| right)
  | .xor => pure (left ^^^ right)
  | .shiftLeft => pure (left <<< right)
  | .shiftRight => pure (left >>> right)
  | .eq => pure (truth (left == right))
  | .ne => pure (truth (left != right))
  | .lt => pure (truth (left < right))
  | .gt => pure (truth (left > right))
  | .le => pure (truth (left ≤ right))
  | .ge => pure (truth (left ≥ right))

/-- Evaluates an expression. Calls of the allocator of the script are made by `callAlloc`. -/
def Expr.eval (linked : Linked) (callAlloc : UInt32 → RunM UInt32) : Expr → RunM UInt32
  | .const word => pure word
  | .param index => return (← get).params.getD index 0
  | .localVar index => return (← get).locals.getD index 0
  | .globalVar index => return (← get).globals.getD index 0
  | .binary op left right => do
    let left ← left.eval linked callAlloc
    let right ← right.eval linked callAlloc
    op.apply left right
  | .load8 address => do
    let address ← address.eval linked callAlloc
    requireRange address 1
    return ((← get).memory.byte address.toNat).toUInt32
  | .load32 address => do
    let address ← address.eval linked callAlloc
    return UInt32.ofNat (Bytes.toNatLE (← loadBytes address 4))
  | .pages => return UInt32.ofNat (← get).memory.pages.size
  | .grow count => do
    let count ← count.eval linked callAlloc
    growMemory count
  | .random ptr len => do
    let ptr ← ptr.eval linked callAlloc
    let len ← len.eval linked callAlloc
    callRandom linked ⟨ptr, len⟩
  | .alloc size => do
    let size ← size.eval linked callAlloc
    callAlloc size

/-! ## Statements -/

/-- The value that a function returns as a result of the given type. A type other than an integer
has its zero returned, whatever was written. -/
def Result.eval (eval : Expr → RunM UInt32) : ValueType → Result → RunM Value
  | .i32, .expr value => return .i32 (← eval value)
  | .i32, .word value => pure (.i32 value.toUInt32)
  | .i64, .expr value => return .i64 (← eval value).toUInt64
  | .i64, .word value => pure (.i64 value)
  | type, _ => pure (.zero type)

/-- The values that a function returns, one for each of its result types. -/
def evalResults (eval : Expr → RunM UInt32) : List ValueType → List Result → RunM (List Value)
  | type :: types, value :: values => do
    let first ← value.eval eval type
    return first :: (← evalResults eval types values)
  | types, _ => pure (types.map Value.zero)

/-- The values that a function returns with a packed word: the word, if it returns anything. -/
def packedResults (ptr len : UInt32) (types : List ValueType) : List Value :=
  types.map fun _ => .i64 (PackedResult.encode (.success ptr len))

/-- Runs a statement that neither returns nor contains statements. -/
def Stmt.runSimple (linked : Linked) (eval : Expr → RunM UInt32) : Stmt → RunM Unit
  | .setLocal index value => do
    let value ← eval value
    modify fun machine => { machine with locals := machine.locals.setIfInBounds index value }
  | .setGlobal index value => do
    let value ← eval value
    modify fun machine => { machine with globals := machine.globals.setIfInBounds index value }
  | .store8 address value => do
    let address ← eval address
    let value ← eval value
    storeBytes address [value.toUInt8]
  | .store32 address value => do
    let address ← eval address
    let value ← eval value
    storeBytes address (Bytes.ofNatLE 4 value.toNat)
  | .fill ptr value len => do
    let ptr ← eval ptr
    let value ← eval value
    let len ← eval len
    requireRange ptr len.toNat
    modifyMemory (·.fill ptr.toNat len.toNat value.toUInt8)
  | .copy target source len => do
    let target ← eval target
    let source ← eval source
    let len ← eval len
    requireRange target len.toNat
    storeBytes target (← loadBytes source len.toNat)
  | .log ptr len => do
    let ptr ← eval ptr
    let len ← eval len
    callBinding linked [ptr, len] linked.logBinding
  | .callImport index args => do
    let args ← args.mapM eval
    match linked.bindings[index]? with
    | some binding => callBinding linked args binding
    | none => trapWith .unreachableCodeReached
  | .trap code => trapWith code
  | .cond _ _ _ | .loop _ _ | .ret _ | .retPacked _ _ => pure ()

/-- Runs the statements that are still to be run, with so much fuel. A function that runs to its end
returns zeros. -/
def execute (linked : Linked) (eval : Expr → RunM UInt32) (types : List ValueType) :
    (fuel : Nat) → Body → RunM (List Value)
  | 0, _ => trapWith .outOfFuel
  | _ + 1, [] => pure (types.map Value.zero)
  | fuel + 1, stmt :: rest =>
    match stmt with
    | .cond test yes no => fun machine =>
      match eval test machine with
      | .ok value machine =>
        execute linked eval types fuel ((if value = 0 then no else yes) ++ rest) machine
      | .error stop machine => .error stop machine
    | .loop test body => fun machine =>
      match eval test machine with
      | .ok value machine =>
        execute linked eval types fuel
          (if value = 0 then rest else body ++ .loop test body :: rest) machine
      | .error stop machine => .error stop machine
    | .ret values => evalResults eval types values
    | .retPacked ptr len => do
      let ptr ← eval ptr
      let len ← eval len
      return packedResults ptr len types
    | simple => fun machine =>
      match simple.runSimple linked eval machine with
      | .ok () machine => execute linked eval types fuel rest machine
      | .error stop machine => .error stop machine

/-! ## Calls -/

/-- The number of statements that a call may run; no script that ends comes near it. -/
def callFuel : Nat := 1 <<< 62

/-- How deep calls of the allocator may nest: as many calls as fit, at 16 bytes each, into a stack
of 512 KiB. -/
def callDepth : Nat := 1 <<< 15

/-- Calls a function of the script. The caller's parameters and locals are back after the call. -/
def invoke (linked : Linked) :
    (depth : Nat) → List ValueType → Body → List UInt32 → RunM (List Value)
  | 0, _, _, _ => trapWith .stackOverflow
  | depth + 1, types, body, args => fun machine =>
    let callAlloc (size : UInt32) : RunM UInt32 :=
      ExportTable.wordOf <$> invoke linked depth linked.allocResults linked.allocBody [size]
    let eval := Expr.eval linked callAlloc
    let params := machine.params
    let locals := machine.locals
    let frame := { machine with params := args, locals := Array.replicate localCount 0 }
    match execute linked eval types callFuel body frame with
    | .ok values after => .ok values { after with params := params, locals := locals }
    | .error stop after => .error stop { after with params := params, locals := locals }

/-- The private state of an instance of a script. -/
structure Hidden where
  globals : Array UInt32
  /-- The memory that statements work on, if the host sees another one. -/
  memory : Option Memory

/-- The machine on which a call from outside starts. -/
def Machine.enter (guest : Instance Hidden) (tripwire : Option Tripwire) : Machine where
  memory := guest.state.memory.getD guest.memory
  other := guest.state.memory.map fun _ => guest.memory
  globals := guest.state.globals
  entropy := guest.entropy
  tripwire := tripwire
  notices := []
  params := []
  locals := #[]

/-- The instance that a call leaves behind. -/
def Machine.guest (machine : Machine) : Instance Hidden where
  memory := machine.shared
  state := ⟨machine.globals, machine.other.map fun _ => machine.memory⟩
  entropy := machine.entropy

/-- The reply of a call that ran on a machine. -/
def replyOf {α : Type} : EStateM.Result Stop Machine α → Reply Hidden α
  | .ok values machine => ⟨machine.guest, machine.notices.reverse, .returned values⟩
  | .error (.trapped trap) machine => ⟨machine.guest, machine.notices.reverse, .trapped trap⟩
  | .error (.panicked payload) machine =>
    ⟨machine.guest, machine.notices.reverse, .panicked payload⟩

/-- The guest function that runs a body. -/
def functionOf (linked : Linked) (types : List ValueType) (body : Body) :
    GuestFunction Hidden (List Value) := fun args tripwire guest =>
  replyOf (invoke linked callDepth types body args (.enter guest tripwire))

end GuestBridge.Script
