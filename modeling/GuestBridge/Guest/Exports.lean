import GuestBridge.Bytes
import GuestBridge.Guest.Instance
import GuestBridge.Guest.Value

/-! # Required exports

A guest is usable if it exports its memory, an allocator and the seven functions that return a
packed word. `ExportTable.resolve` looks all of them up at once. It collects the names under which
nothing fits (`ExportTable.missing`) and reports all of them together, sorted; otherwise it reports
the first function whose signature does not fit. Result types of the seven functions are not checked
here: what a function returns is judged call by call. The seven functions are kept in a list, and
each of them is called by its place there (`Exports.packed`).
-/

namespace GuestBridge

/-- A function that returns a packed word. -/
inductive PackedExport
  | newPrivateKey | getAddress | sign | hashMessage | hashMessageBytes | formatMessage
  | recoverMessage
deriving DecidableEq

namespace PackedExport

/-- All of them, in the order in which their signatures are checked. -/
def all : List PackedExport :=
  [.newPrivateKey, .getAddress, .sign, .hashMessage, .hashMessageBytes, .formatMessage,
    .recoverMessage]

/-- The place of the function in the order of declaration. -/
def index (entry : PackedExport) : Nat :=
  entry.ctorIdx

/-- The place of a function among all of them is its index. -/
@[simp] theorem getElem?_all_index (entry : PackedExport) : all[entry.index]? = some entry := by
  cases entry <;> rfl

theorem mem_all (entry : PackedExport) : entry ∈ all :=
  List.mem_of_getElem? entry.getElem?_all_index

/-- The name under which the guest exports the function. -/
def name : PackedExport → String
  | .newPrivateKey => "new_private_key"
  | .getAddress => "get_address"
  | .sign => "sign"
  | .hashMessage => "hash_message"
  | .hashMessageBytes => "hash_message_bytes"
  | .formatMessage => "format_message"
  | .recoverMessage => "formatted_message_to_bytes"

/-- The number of words that the function takes. -/
def arity : PackedExport → Nat
  | .newPrivateKey => 0
  | .getAddress | .hashMessage | .hashMessageBytes | .recoverMessage => 2
  | .formatMessage => 3
  | .sign => 4

/-- The signature that the function should have. -/
def signature (entry : PackedExport) : FuncType :=
  .ofWords entry.arity [.i64]

/-- How that signature is written. -/
def expected (entry : PackedExport) : String :=
  match entry.arity with
  | 0 => "() -> i64"
  | 2 => "(i32, i32) -> i64"
  | 3 => "(i32, i32, i32) -> i64"
  | _ => "(i32, i32, i32, i32) -> i64"

end PackedExport

/-- A function of the guest that the host calls. -/
inductive Callee
  | alloc | dealloc | packed (entry : PackedExport)
deriving DecidableEq

/-- The name under which the guest exports a function. -/
def Callee.name : Callee → String
  | .alloc => "alloc"
  | .dealloc => "dealloc"
  | .packed entry => entry.name

/-- How the signature that a function should have is written. -/
def Callee.expected : Callee → String
  | .alloc => "(i32) -> i32"
  | .dealloc => "(i32, i32) -> ()"
  | .packed entry => entry.expected

/-- What a function hands to the host when it returns. -/
abbrev Callee.Result : Callee → Type
  | .alloc => UInt32
  | .dealloc => Unit
  | .packed _ => List Value

/-- The signature of the allocator. -/
def allocSignature : FuncType := ⟨[.i32], [.i32]⟩

/-- The signature of the release function. -/
def deallocSignature : FuncType := ⟨[.i32, .i32], []⟩

/-- The name of the exported memory. -/
def memoryName : String := "memory"

/-- Something that a guest exports. -/
inductive Extern (σ : Type)
  | func (type : FuncType) (call : GuestFunction σ (List Value))
  | memory
  | global
  | table

/-- What an instance exports, by name. Names are unique; of several entries the first counts. -/
abbrev ExportTable (σ : Type) : Type := List (String × Extern σ)

/-- The functions that the host calls, found and checked. -/
structure Exports (σ : Type) where
  alloc : GuestFunction σ UInt32
  dealloc : GuestFunction σ Unit
  /-- The functions that return a packed word, each at the index of its export. -/
  functions : List (GuestFunction σ (List Value))

namespace Exports

variable {σ : Type}

/-- The function of a packed export: the one at its index. If there is none, the call panics before
it reaches the guest. -/
def packed (exports : Exports σ) (entry : PackedExport) : GuestFunction σ (List Value) :=
  match exports.functions[entry.index]? with
  | some function => function
  | none => fun _ _ guest =>
    let length := exports.functions.length
    let index := entry.index
    let message := s!"index out of bounds: the len is {length} but the index is {index}"
    ⟨guest, [], .panicked (.text message)⟩

/-- The function behind a callee. -/
def function (exports : Exports σ) : (callee : Callee) → GuestFunction σ callee.Result
  | .alloc => exports.alloc
  | .dealloc => exports.dealloc
  | .packed entry => exports.packed entry

/-- Functions that are listed in the order of all packed exports are found there. -/
@[simp] theorem packed_map_all (alloc : GuestFunction σ UInt32) (dealloc : GuestFunction σ Unit)
    (call : PackedExport → GuestFunction σ (List Value)) (entry : PackedExport) :
    packed ⟨alloc, dealloc, PackedExport.all.map call⟩ entry = call entry := by
  simp [packed]

end Exports

namespace ExportTable

variable {σ : Type}

/-- The function exported under a name, with its signature. -/
def function? (table : ExportTable σ) (name : String) :
    Option (FuncType × GuestFunction σ (List Value)) :=
  match table.lookup name with
  | some (.func type call) => some (type, call)
  | _ => none

/-- Whether a memory is exported under the name that the host expects. -/
def hasMemory (table : ExportTable σ) : Bool :=
  match table.lookup memoryName with
  | some .memory => true
  | _ => false

/-- The name of something required, unless that was found. -/
def lacking (name : String) (isFound : Bool) : List String :=
  if isFound then [] else [name]

/-- The required names that are absent or exported as something else, in the order in which they are
looked up. -/
def missing (table : ExportTable σ) : List String :=
  lacking memoryName table.hasMemory ++
    lacking Callee.alloc.name (table.function? Callee.alloc.name).isSome ++
    lacking Callee.dealloc.name (table.function? Callee.dealloc.name).isSome ++
    PackedExport.all.flatMap fun entry => lacking entry.name (table.function? entry.name).isSome

/-- Names in ascending order of their bytes. -/
def sortNames (names : List String) : List String :=
  names.mergeSort fun first second => Bytes.ofText first ≤ Bytes.ofText second

/-- Checks the signature of a function. -/
def expectSignature (callee : Callee) (actual : FuncType) (fits : Bool) :
    Except BridgeError Unit :=
  if fits then .ok ()
  else .error (.exportSignature callee.name callee.expected actual.describe)

/-- The word that the allocator returned. -/
def wordOf : List Value → UInt32
  | .i32 word :: _ => word
  | _ => 0

/-- Checks a function that returns a packed word: only its parameters matter. -/
def checkPacked (entry : PackedExport) (type : FuncType) : Except BridgeError Unit :=
  expectSignature (.packed entry) type
    (type.params.length == entry.arity && type.params.all (· == .i32))

/-- Finds and checks the functions that the host calls. -/
def resolve (table : ExportTable σ) : Except BridgeError (Exports σ) :=
  let found := PackedExport.all.map fun entry => table.function? entry.name
  match table.hasMemory, table.function? Callee.alloc.name, table.function? Callee.dealloc.name with
  | true, some (allocType, alloc), some (deallocType, dealloc) => do
    unless table.missing.isEmpty do throw (.missingExports (sortNames table.missing))
    let functions := found.filterMap id
    expectSignature .alloc allocType (allocType == allocSignature)
    expectSignature .dealloc deallocType (deallocType == deallocSignature)
    (PackedExport.all.zip functions).forM fun (entry, type, _) => checkPacked entry type
    return ⟨alloc.map wordOf, dealloc.map fun _ => (), functions.map Prod.snd⟩
  | _, _, _ => .error (.missingExports (sortNames table.missing))

end ExportTable

end GuestBridge
