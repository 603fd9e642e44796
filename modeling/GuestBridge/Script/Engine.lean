import GuestBridge.Script.Reader
import GuestBridge.Script.Scope

/-! # The engine for scripts

An engine for scripts depends on how bytecode holds a script (`Script.engineOf`). For
`Script.engine` that is a first line that says so, followed by the script as JSON. The only other
bytecode that such an engine knows is that of a module without any content, in binary and in text
form.
-/

namespace GuestBridge.Script

/-- The first line of bytecode that holds a script. -/
def header : String := "guest script\n"

/-- The binary form of a module without content: its magic number and version. -/
def emptyBinary : Bytes := [0x00, 0x61, 0x73, 0x6D, 0x01, 0x00, 0x00, 0x00]

/-- The text form of a module without content. -/
def emptyText : String := "(module)"

/-- The script behind the header of bytecode. -/
def readScript? (code : Bytes) : Option Program := do
  let text ← Utf8.decode? code
  let json ← Scan.expect? header.toList text.toList
  Program.ofJson? (← Json.read? (String.ofList json))

/-- The module that bytecode holds, or why it holds none. -/
def compile (read? : Bytes → Option Program) (code : Bytes) : Except String Program :=
  if code = emptyBinary ∨ code = Bytes.ofText emptyText then .ok .empty
  else
    match read? code with
    | some program =>
      if program.fits then .ok program else .error "the script refers to what it does not have"
    | none => .error "the bytecode holds no guest script"

/-- The engine for scripts that bytecode holds in a given way. -/
def engineOf (read? : Bytes → Option Program) : Engine Hidden where
  compile code := (compile read? code).map fun program => ⟨fun _ => .ok (), program.blueprint⟩

/-- The engine for scripts behind the header. -/
def engine : Engine Hidden := engineOf readScript?

end GuestBridge.Script
