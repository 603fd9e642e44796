/-! # Errors of the bridge

Everything that can go wrong between host and guest is one of the causes in `BridgeError`, from a
module that cannot be read to a result that is not text. The wording of a cause is in
`BridgeError.message`. A panic that unwinds out of a guest call carries a `Payload`, which
`BridgeError.ofPanic` turns into a cause.
-/

namespace GuestBridge

/-- The reasons for which the execution of guest code stops. -/
inductive TrapCode
  | stackOverflow | memoryOutOfBounds | heapMisaligned | tableOutOfBounds | indirectCallToNull
  | badSignature | integerOverflow | integerDivisionByZero | badConversionToInteger
  | unreachableCodeReached | interrupt | outOfFuel
deriving DecidableEq

/-- The wording of a trap code. -/
def TrapCode.message : TrapCode → String
  | .stackOverflow => "wasm trap: call stack exhausted"
  | .memoryOutOfBounds => "wasm trap: out of bounds memory access"
  | .heapMisaligned => "wasm trap: unaligned atomic"
  | .tableOutOfBounds => "wasm trap: undefined element: out of bounds table access"
  | .indirectCallToNull => "wasm trap: uninitialized element"
  | .badSignature => "wasm trap: indirect call type mismatch"
  | .integerOverflow => "wasm trap: integer overflow"
  | .integerDivisionByZero => "wasm trap: integer divide by zero"
  | .badConversionToInteger => "wasm trap: invalid conversion to integer"
  | .unreachableCodeReached => "wasm trap: wasm `unreachable` instruction executed"
  | .interrupt => "wasm trap: interrupt"
  | .outOfFuel => "wasm trap: all fuel consumed by WebAssembly"

/-- Why a guest call failed: a trap of the guest, or a failure of the host without a trap code. -/
structure Trap where
  code : Option TrapCode
  message : String
deriving DecidableEq

/-- The trap with the given code and the wording of that code. -/
def Trap.ofCode (code : TrapCode) : Trap := ⟨some code, code.message⟩

/-- A precondition that was violated before anything crossed into the guest. -/
inductive InputError
  /-- The number of chunks is zero or above the limit. -/
  | chunkCount (count : Nat)
  /-- The message does not fit into the requested chunks. -/
  | messageTooLong (length limit : Nat)
  /-- The private key does not have the length of a private key. -/
  | keyLength (expected actual : Nat)
  /-- The length of a buffer is no 32-bit number. -/
  | tooLarge (length : Nat)
deriving DecidableEq

/-- The wording of a violated precondition. -/
def InputError.message : InputError → String
  | .chunkCount count => s!"target number of chunks must be between 1 and 32, got {count}"
  | .messageTooLong length limit =>
    s!"message length {length} exceeds the maximum of {limit} bytes " ++
      "for the requested number of chunks"
  | .keyLength expected actual =>
    s!"invalid private key size: expected {expected} bytes, got {actual}"
  | .tooLarge length => s!"buffer of {length} bytes exceeds guest address space"

/-- What is wrong with the result of a guest function. -/
inductive ResultError
  /-- The function returned nothing at all. -/
  | emptyReturn
  /-- The function returned a word with a null pointer. -/
  | invalidInput
  /-- The function returned a value that is no 64-bit word. -/
  | unexpectedType (type : String)
  /-- The buffer does not have the required length. -/
  | unexpectedLength (expected actual : Nat)
  /-- The buffer should be text, but is not well-formed UTF-8. -/
  | notUtf8
deriving DecidableEq

/-- The wording of a bad result. -/
def ResultError.message : ResultError → String
  | .emptyReturn => "empty return"
  | .invalidInput => "invalid input"
  | .unexpectedType type => s!"unexpected result type {type}; expected `i64`"
  | .unexpectedLength expected actual =>
    s!"unexpected length: expected {expected} bytes, got {actual}"
  | .notUtf8 => "not UTF-8"

/-- A failure raised while a guest function was running or while its result was handled. -/
inductive Fault
  /-- A call of the named export failed. -/
  | trap (name : String) (trap : Trap)
  /-- A panic with a text. -/
  | panic (message : String)
  /-- A panic with something else. -/
  | unknown
deriving DecidableEq

/-- The wording of a fault. -/
def Fault.message : Fault → String
  | .trap name ⟨some code, message⟩ =>
    s!"guest `{name}` trapped (" ++ code.message ++ s!"): {message}"
  | .trap name ⟨none, message⟩ => s!"guest `{name}` failed: {message}"
  | .panic message => s!"panic: {message}"
  | .unknown => "unknown internal failure"

/-- The causes of failure of the bridge. -/
inductive BridgeError
  /-- The file with the guest module cannot be read. -/
  | load (path reason : String)
  /-- The guest module is malformed, or the host capabilities cannot be provided to it. -/
  | compile (reason : String)
  /-- No instance of the guest module can be made. -/
  | instantiate (reason : String)
  /-- Required exports are absent; all of them are named. -/
  | missingExports (names : List String)
  /-- A required export has the wrong signature. -/
  | exportSignature (name expected actual : String)
  /-- The runtime was closed. -/
  | runtimeClosed
  /-- The session was closed. -/
  | sessionClosed
  /-- The guest allocator did not provide memory. -/
  | allocation (size : UInt32) (reason : String)
  /-- An access of the host would leave guest memory. -/
  | memoryAccess (offset len : UInt32) (memorySize : Nat)
  /-- A precondition was violated; the guest was not called. -/
  | invalidInput (error : InputError)
  /-- The named export reported a failure or returned something malformed. -/
  | invalidResult (name : String) (error : ResultError)
  /-- A guest call failed in another way. -/
  | fault (cause : Fault)
deriving DecidableEq

namespace BridgeError

/-- The wording of a cause. -/
def message : BridgeError → String
  | .load path reason => s!"failed reading guest module from `{path}`: {reason}"
  | .compile reason => s!"failed compiling guest module: {reason}"
  | .instantiate reason => s!"failed instantiating guest session: {reason}"
  | .missingExports names =>
    "missing required wasm exports: " ++
      ", ".intercalate (names.map fun name => s!"`{name}`")
  | .exportSignature name expected actual =>
    s!"export `{name}` has unexpected signature; expected {expected}, got {actual}"
  | .runtimeClosed => "runtime is closed, create a new one"
  | .sessionClosed => "session module is closed"
  | .allocation size reason => s!"failed to allocate {size} bytes in guest memory: {reason}"
  | .memoryAccess offset len memorySize =>
    s!"guest memory access out of bounds: {len} bytes at {offset} " ++
      s!"(memory size is {memorySize} bytes)"
  | .invalidInput error => "invalid input: " ++ error.message
  | .invalidResult name error => s!"invalid result from `{name}`: " ++ error.message
  | .fault cause => cause.message

/-- The wording of the cause behind the cause: only a failed read has one. -/
def source? : BridgeError → Option String
  | .load _ reason => some reason
  | _ => none

/-- Whether a precondition was violated. -/
def isInvalidInput : BridgeError → Bool
  | .invalidInput _ => true
  | _ => false

end BridgeError

/-- What a panic carries. -/
inductive Payload
  /-- A cause of failure in structured form. -/
  | error (error : BridgeError)
  /-- A text. -/
  | text (message : String)
  /-- Anything else. -/
  | other
deriving DecidableEq

/-- The cause of failure that a panic turns into: a structured cause passes through unchanged. -/
def BridgeError.ofPanic : Payload → BridgeError
  | .error error => error
  | .text message => .fault (.panic message)
  | .other => .fault .unknown

end GuestBridge
