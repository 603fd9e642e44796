import GuestBridge.Host

/-! # Setting up a runtime

A runtime is made from a `Setup`: where the guest module comes from and how it is linked. The module
is loaded, compiled by an engine and combined with the host capabilities (`Runtime.create`). An
engine is a parameter here: it turns bytecode into a module that can be linked and then makes
instances, and it may refuse either. Reading files is a parameter as well.
-/

namespace GuestBridge

/-- The two names under which something is imported. -/
structure ImportName where
  module : String
  name : String
deriving DecidableEq

/-- The name of the host capability that provides random bytes. -/
def randomImport : ImportName := ⟨"wasi_snapshot_preview1", "random_get"⟩

/-- How a guest module is linked. -/
structure Linkage where
  /-- The name under which the guest gets the log capability. -/
  logSink : ImportName
  /-- Whether functions that the host does not provide are replaced by stubs that fail when they are
  called. Otherwise there is no instance. -/
  trapUnknownImports : Bool
  /-- The largest size of guest memory in bytes, if there is one. -/
  memoryLimit : Option Nat

/-- The linkage that nothing was changed about. -/
def Linkage.standard : Linkage := ⟨⟨"env", "host_log_string"⟩, true, none⟩

/-- Where the bytecode of a guest module comes from. -/
inductive GuestSource
  | bytes (bytecode : Bytes)
  | file (path : String)

/-- The diagnostic text of a source leaves out the bytecode. -/
def GuestSource.describe : GuestSource → String
  | .bytes bytecode =>
    let length := bytecode.length
    s!"Bytes \x7b len: {length} \x7d"
  | .file path => "File(" ++ Quoted.write path ++ ")"

/-- Everything that a runtime is made from. -/
structure Setup where
  source : GuestSource
  linkage : Linkage

/-- The diagnostic text of a setup. -/
def Setup.describe (setup : Setup) : String :=
  let linkage := setup.linkage
  let sink := linkage.logSink
  let trap := linkage.trapUnknownImports
  let limit :=
    match linkage.memoryLimit with
    | none => "None"
    | some bytes => s!"Some({bytes})"
  "RuntimeConfig \x7b source: " ++ setup.source.describe ++
    ", log_sink: (" ++ Quoted.write sink.module ++ ", " ++ Quoted.write sink.name ++ ")" ++
    s!", trap_unknown_imports: {trap}, memory_limit: {limit} \x7d"

/-- A compiled guest module. -/
structure GuestModule (σ : Type) where
  /-- Puts stubs in the place of functions that the host does not provide, or says why it cannot. -/
  defineStubs : Linkage → Except String Unit
  /-- Makes instances that are linked in a certain way. -/
  blueprint : Linkage → Blueprint σ

/-- An engine compiles bytecode, or says why it cannot. -/
structure Engine (σ : Type) where
  compile : Bytes → Except String (GuestModule σ)

/-- Reads files: the content of the file at a path, or why it cannot be read. -/
abbrev FileReader : Type := String → Except String Bytes

namespace GuestSource

/-- The bytecode from a source. -/
def load (files : FileReader) : GuestSource → Except BridgeError Bytes
  | .bytes bytecode => .ok bytecode
  | .file path =>
    match files path with
    | .ok bytecode => .ok bytecode
    | .error reason => .error (.load path reason)

end GuestSource

namespace Linkage

/-- Checks that the host capabilities have different names. -/
def register (linkage : Linkage) : Except BridgeError Unit :=
  if linkage.logSink = randomImport then
    .error (.compile ("failed registering host capabilities: import of `" ++
      randomImport.module ++ "::" ++ randomImport.name ++ "` defined twice"))
  else .ok ()

end Linkage

/-- Links a guest module: host capabilities come first, then stubs if they are wanted. -/
def GuestModule.link {σ : Type} (module : GuestModule σ) (linkage : Linkage) :
    Except BridgeError (Blueprint σ) := do
  linkage.register
  if linkage.trapUnknownImports then
    match module.defineStubs linkage with
    | .ok () => pure ()
    | .error reason => throw (.compile ("failed linking guest imports: " ++ reason))
  return module.blueprint linkage

namespace Engine

variable {σ : Type}

/-- Compiles bytecode; a refusal of the engine is a cause of failure. -/
def compileGuest (engine : Engine σ) (bytecode : Bytes) : Except BridgeError (GuestModule σ) :=
  match engine.compile bytecode with
  | .ok module => .ok module
  | .error reason => .error (.compile reason)

/-- The guest module of a setup, linked and ready to make instances. -/
def prepare (engine : Engine σ) (files : FileReader) (setup : Setup) :
    Except BridgeError (Blueprint σ) := do
  let bytecode ← setup.source.load files
  let module ← engine.compileGuest bytecode
  module.link setup.linkage

end Engine

/-- Makes a runtime from a setup. Success is an event. -/
def Runtime.create {σ : Type} (engine : Engine σ) (files : FileReader) (setup : Setup) :
    Except BridgeError (Runtime σ) × List Event :=
  match engine.prepare files setup with
  | .ok blueprint => (.ok ⟨some blueprint⟩, [.compiledGuest])
  | .error error => (.error error, [])

end GuestBridge
