import GuestBridge.Lease
import GuestBridge.Text.Quoted

/-! # Operations on a guest

The six things that a session can do: make a key, format and recover a message, hash a message to
text or to bytes, and sign. Each is a function from the state before it to a `Report`. Arguments are
checked first; if a check fails the guest is not called. What follows runs under a lease, so every
region acquired is given back, and secrets are overwritten first. `Operation.perform` chooses the
operation by a `Request`.
-/

namespace GuestBridge

/-- A new private key and the address derived from it. The key is a copy in host memory. -/
structure KeyPair where
  privateKey : Bytes
  address : String
deriving DecidableEq

/-- The diagnostic text of a key pair shows the address only. -/
def KeyPair.describe (pair : KeyPair) : String :=
  "KeyPair \x7b address: " ++ Quoted.write pair.address ++ ", .. \x7d"

namespace Operation

variable {σ α : Type}

/-- The length of a private key. -/
def privateKeySize : Nat := 59

/-- The length of an address. -/
def addressSize : Nat := 63

/-- The length of a signature. -/
def signatureSize : Nat := 216

/-- The number of message bytes in a chunk of a formatted message. -/
def formatBlockSize : Nat := 16 * 32

/-- The largest number of chunks of a formatted message. -/
def maxFormatChunks : Nat := 32

/-- Runs an operation under a lease and reports it under its name. -/
def shielded (name : String) (exports : Exports σ) (body : LeaseM σ α) (start : Lease σ) :
    Report σ α :=
  .ofRun name (Lease.run exports body start)

/-- The report of an operation that was refused before anything happened. -/
def refused (error : BridgeError) (start : Lease σ) : Report σ α :=
  ⟨.error error, start⟩

/-! ## Making a key -/

/-- The body of `newPrivateKey`. The key is marked as a secret before anything is checked. -/
def newPrivateKeyBody (exports : Exports σ) : LeaseM σ KeyPair := do
  let key ← Lease.callPacked exports .newPrivateKey []
  Lease.markSecret key
  Lease.expectLength .newPrivateKey privateKeySize key
  let privateKey ← Lease.read key
  let address ← Lease.callPacked exports .getAddress [key.ptr, key.len]
  Lease.expectLength .getAddress addressSize address
  let text ← Lease.readText .getAddress address
  pure ⟨privateKey, text⟩

/-- Makes a private key and derives its address. -/
def newPrivateKey (exports : Exports σ) (start : Lease σ) : Report σ KeyPair :=
  shielded PackedExport.newPrivateKey.name exports (newPrivateKeyBody exports) start

/-! ## Operations with one operand -/

/-- Copies the operand into the guest, calls the function with it and reads the result. -/
def transformBody (exports : Exports σ) (entry : PackedExport) (input : Bytes)
    (extra : List UInt32) (read : Region → LeaseM σ α) : LeaseM σ α := do
  let operand ← Lease.allocBytes exports input .plain
  let output ← Lease.callPacked exports entry ([operand.ptr, operand.len] ++ extra)
  read output

/-- An operation with one operand, followed by plain words. -/
def transform (exports : Exports σ) (entry : PackedExport) (input : Bytes) (extra : List UInt32)
    (read : Region → LeaseM σ α) (start : Lease σ) : Report σ α :=
  match Lease.guestLength input.length with
  | .error error => refused error start
  | .ok _ => shielded entry.name exports (transformBody exports entry input extra read) start

/-- Checks the arguments of a request to format a message of the given length. -/
def checkFormat (length chunks : Nat) : Except InputError Unit :=
  if 1 ≤ chunks ∧ chunks ≤ maxFormatChunks then
    if chunks * formatBlockSize < length then
      .error (.messageTooLong length (chunks * formatBlockSize))
    else .ok ()
  else .error (.chunkCount chunks)

/-- A formatted message as it is handed out: without line feeds. -/
def withoutLineFeeds (formatted : Bytes) : Bytes :=
  formatted.filter (· ≠ 0x0A)

/-- Formats a message in so many chunks. -/
def formatMessage (exports : Exports σ) (message : Bytes) (chunks : Nat) (start : Lease σ) :
    Report σ Bytes :=
  match checkFormat message.length chunks with
  | .error error => refused (.invalidInput error) start
  | .ok () =>
    match Lease.guestLength chunks with
    | .error error => refused error start
    | .ok chunkWord =>
      (transform exports .formatMessage message [chunkWord] Lease.read start).map withoutLineFeeds

/-- Recovers the message from its formatted form. -/
def recoverMessage (exports : Exports σ) (formatted : Bytes) (start : Lease σ) : Report σ Bytes :=
  transform exports .recoverMessage formatted [] Lease.read start

/-- Hashes a message and returns the hash as text. -/
def hashText (exports : Exports σ) (message : Bytes) (start : Lease σ) : Report σ String :=
  transform exports .hashMessage message [] (Lease.readText .hashMessage) start

/-- Hashes a message and returns the hash as bytes. -/
def hashBytes (exports : Exports σ) (message : Bytes) (start : Lease σ) : Report σ Bytes :=
  transform exports .hashMessageBytes message [] Lease.read start

/-! ## Signing -/

/-- The body of `sign`. The message is placed first; the key is a secret from the start. -/
def signBody (exports : Exports σ) (privateKey message : Bytes) : LeaseM σ String := do
  let operand ← Lease.allocBytes exports message .plain
  let key ← Lease.allocBytes exports privateKey .secret
  let signature ←
    Lease.callPacked exports .sign [key.ptr, key.len, operand.ptr, operand.len]
  Lease.expectLength .sign signatureSize signature
  Lease.readText .sign signature

/-- Signs a message with a private key. -/
def sign (exports : Exports σ) (privateKey message : Bytes) (start : Lease σ) : Report σ String :=
  if privateKey.length = privateKeySize then
    match Lease.guestLength message.length with
    | .error error => refused error start
    | .ok _ => shielded PackedExport.sign.name exports (signBody exports privateKey message) start
  else refused (.invalidInput (.keyLength privateKeySize privateKey.length)) start

end Operation

/-- An operation with its arguments. -/
inductive Request
  | newPrivateKey
  | formatMessage (message : Bytes) (chunks : Nat)
  | recoverMessage (formatted : Bytes)
  | hashText (message : Bytes)
  | hashBytes (message : Bytes)
  | sign (privateKey message : Bytes)

/-- What an operation produces. -/
inductive Product
  | keyPair (pair : KeyPair)
  | bytes (bytes : Bytes)
  | text (text : String)
deriving DecidableEq

/-- Performs the requested operation. -/
def Operation.perform {σ : Type} (exports : Exports σ) (start : Lease σ) :
    Request → Report σ Product
  | .newPrivateKey => (newPrivateKey exports start).map .keyPair
  | .formatMessage message chunks => (formatMessage exports message chunks start).map .bytes
  | .recoverMessage formatted => (recoverMessage exports formatted start).map .bytes
  | .hashText message => (hashText exports message start).map .text
  | .hashBytes message => (hashBytes exports message start).map .bytes
  | .sign privateKey message => (sign exports privateKey message start).map .text

end GuestBridge
