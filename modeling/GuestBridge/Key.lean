import GuestBridge.Hash.Fnv

/-! # Placeholder keys, addresses and signatures

Keys, addresses and signatures have the lengths, prefixes and alphabets of real ones. A private key
spells a seed of 47 bytes; address and signature are expanded from a hash of the key, and of the
message for a signature. `Key.address` and `Key.sign` refuse whatever is not a private key.
-/

namespace GuestBridge.Key

/-- The bytes of a text of ASCII characters. -/
def asciiBytes (text : String) : Bytes :=
  text.toList.map fun char => UInt8.ofNat char.toNat

/-- What every private key starts with. -/
def privateKeyPrefix : Bytes := asciiBytes "APrivateKey1"

/-- The length of a private key. -/
def privateKeyLength : Nat := 59

/-- The number of bytes that a private key is made from. -/
def seedLength : Nat := privateKeyLength - privateKeyPrefix.length

/-- What every address starts with. -/
def addressPrefix : Bytes := asciiBytes "aleo1"

/-- The length of an address. -/
def addressLength : Nat := 63

/-- What every signature starts with. -/
def signaturePrefix : Bytes := asciiBytes "sign1"

/-- The length of a signature. -/
def signatureLength : Nat := 216

/-- The alphabet of keys and signatures. -/
def base58 : Bytes := asciiBytes "123456789ABCDEFGHJKLMNPQRSTUVWXYZabcdefghijkmnopqrstuvwxyz"

/-- The alphabet of addresses. -/
def bech32 : Bytes := asciiBytes "qpzry9x8gf2tvdw0s3jn54khce6mua7l"

/-- The character of an alphabet that a byte selects. -/
def pick (alphabet : Bytes) (byte : UInt8) : UInt8 :=
  alphabet.getD (byte.toNat % alphabet.length) 0

/-- The private key that spells a seed. -/
def privateKey (seed : Bytes) : Bytes :=
  privateKeyPrefix ++ seed.map (pick base58)

/-- Whether a byte string is a private key: its length, its prefix and its alphabet. -/
def isPrivateKey (key : Bytes) : Bool :=
  key.length == privateKeyLength && privateKeyPrefix.isPrefixOf key &&
    (key.drop privateKeyPrefix.length).all base58.contains

/-- The block of the expansion of a seed with the given number. -/
def block (seed : Fnv.State) (counter : Nat) : Bytes :=
  (Fnv.update (Fnv.update Fnv.offsetBasis seed.leBytes) (Bytes.ofNatLE 4 counter)).leBytes

/-- So many characters of an alphabet, selected by the blocks that a seed expands to. -/
def expand (seed : Fnv.State) (alphabet : Bytes) (length : Nat) : Bytes :=
  (((List.range ((length + 15) / 16)).flatMap (block seed)).take length).map (pick alphabet)

/-- The address of a private key. -/
def address (key : Bytes) : Option Bytes :=
  if isPrivateKey key then
    some (addressPrefix ++ expand (Fnv.digest key) bech32 (addressLength - addressPrefix.length))
  else none

/-- The seed of the signature of a message: a hash of the key, the length of the message and the
message. -/
def signatureSeed (key message : Bytes) : Fnv.State :=
  Fnv.update (Fnv.update (Fnv.digest key) (Bytes.ofNatLE 8 message.length)) message

/-- The signature of a message with a private key. -/
def sign (key message : Bytes) : Option Bytes :=
  if isPrivateKey key then
    some (signaturePrefix ++
      expand (signatureSeed key message) base58 (signatureLength - signaturePrefix.length))
  else none

end GuestBridge.Key
