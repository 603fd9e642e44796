import GuestBridge.Script.Basic

/-! # Linking the imports of a script

Each import of a script is bound to a host capability or, if that is allowed, to a stub that fails
when it is called (`Script.link`). Whatever can be neither makes instances impossible: an import
that is no function, a capability with a wrong signature, and two imports of one name that disagree
about their signature.
-/

namespace GuestBridge.Script

/-- What an import is bound to. -/
inductive Binding
  | log
  | random
  /-- A stub for a function that nobody provides. -/
  | stub (name : ImportName)
deriving DecidableEq

/-- The written form of the name of an import. -/
def importText (name : ImportName) : String :=
  "`" ++ name.module ++ "::" ++ name.name ++ "`"

/-- Why an import cannot be bound, or why a call of a stub fails. -/
def unknownImport (name : ImportName) : String :=
  "unknown import: " ++ importText name ++ " has not been defined"

/-- Why a capability does not fit an import. -/
def incompatibleImport (name : ImportName) : String :=
  "incompatible import type for " ++ importText name

/-- The capability that the host provides under a name, with its signature. -/
def capability? (linkage : Linkage) (name : ImportName) : Option (FuncType × Binding) :=
  if name = linkage.logSink then some (logType, .log)
  else if name = randomImport then some (randomType, .random)
  else none

/-- The signature with which a name is first imported as a function. -/
def firstType? (imports : List Import) (name : ImportName) : Option FuncType :=
  imports.findSome? fun candidate =>
    match candidate.kind with
    | .func type => if candidate.name = name then some type else none
    | _ => none

/-- Binds one of the imports of a script. -/
def bind (linkage : Linkage) (all : List Import) (item : Import) : Except String Binding :=
  match item.kind with
  | .func type =>
    match capability? linkage item.name with
    | some (provided, binding) =>
      if type = provided then .ok binding else .error (incompatibleImport item.name)
    | none =>
      if !linkage.trapUnknownImports then .error (unknownImport item.name)
      else if firstType? all item.name = some type then .ok (.stub item.name)
      else .error (incompatibleImport item.name)
  | _ => .error (unknownImport item.name)

/-- Binds all imports of a script, in order. -/
def link (linkage : Linkage) (imports : List Import) : Except String (List Binding) :=
  imports.mapM (bind linkage imports)

/-- What the statement `log` of a linked script calls. -/
def logBinding (linkage : Linkage) (program : Program) : Binding :=
  if program.logImport = linkage.logSink then .log else .stub program.logImport

end GuestBridge.Script
