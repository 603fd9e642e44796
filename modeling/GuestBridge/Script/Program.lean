import GuestBridge.Script.Run

/-! # Making instances of a script

`Program.blueprint` turns a script and a linkage into a way to make instances: the imports are
bound, the memories are made and filled, and the start body runs. Each of these can fail, and then
there is no instance.
-/

namespace GuestBridge.Script

/-- A memory of a new instance before any data is copied. The limit on its size counts in bytes. -/
def initialMemory (limit : Option Nat) (bounds : MemoryBounds) : Except String Memory :=
  match limit with
  | none => .ok (.zeroed bounds.least bounds.most)
  | some bytes =>
    if bytes < bounds.least * pageSize then
      .error "memory minimum size exceeds memory limits"
    else .ok (.zeroed bounds.least (min bounds.most (bytes / pageSize)))

/-- Copies one segment of data to memory. -/
def copySegment (memory : Memory) (segment : Nat × Bytes) : Except String Memory :=
  let (offset, bytes) := segment
  if offset + bytes.length ≤ memory.size then .ok (memory.store offset bytes)
  else .error (TrapCode.message .memoryOutOfBounds)

/-- What an instance of a linked script exports for a definition. -/
def Definition.inInstance (linked : Linked) : Definition → Extern Hidden
  | .func type body => .func type (functionOf linked type.results body)
  | .global => .global
  | .memory | .freshMemory => .memory
  | .table => .table

namespace Program

/-- What a script knows about itself once its imports are bound. -/
def linked (program : Program) (linkage : Linkage) (bindings : List Binding) : Linked where
  exportsMemory := program.exportsMemory
  bindings := bindings
  logBinding := logBinding linkage program
  allocResults := program.allocator.1
  allocBody := program.allocator.2

/-- What an instance exports. -/
def exportTable (program : Program) (linked : Linked) : ExportTable Hidden :=
  program.exports.map fun (name, definition) => (name, definition.inInstance linked)

/-- The instance of a script with these memories before its start body runs. Data goes to the first
one; a script without memories works on an empty one that cannot grow. -/
def fill (program : Program) (memories : List Memory) (entropy : Entropy) :
    Except String (Instance Hidden) := do
  let memory ← program.data.foldlM copySegment (memories.headD (.zeroed 0 0))
  let globals := program.globals.toArray
  let bounds := MemoryBounds.fresh
  if program.showsOther then
    return ⟨.zeroed bounds.least bounds.most, ⟨globals, some memory⟩, entropy⟩
  else return ⟨memory, ⟨globals, none⟩, entropy⟩

/-- The linked script and its instance before the start body runs. All memories have to respect the
limit. -/
def assemble (program : Program) (linkage : Linkage) (entropy : Entropy) :
    Except String (Linked × Instance Hidden) := do
  let bindings ← link linkage program.allImports
  let memories ← program.memories.mapM (initialMemory linkage.memoryLimit)
  return (program.linked linkage bindings, ← program.fill memories entropy)

/-- A way to make instances of a script. -/
def blueprint (program : Program) (linkage : Linkage) : Blueprint Hidden :=
  fun entropy tripwire =>
    match program.assemble linkage entropy with
    | .error reason => ⟨[], .failed reason⟩
    | .ok (linked, guest) =>
      let reply := functionOf linked [] program.start [] tripwire guest
      match reply.ending with
      | .returned _ => ⟨reply.notices, .ready (program.exportTable linked) reply.guest⟩
      | .trapped trap => ⟨reply.notices, .failed trap.message⟩
      | .panicked payload => ⟨reply.notices, .panicked payload⟩

end Program

end GuestBridge.Script
