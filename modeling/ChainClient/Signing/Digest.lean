import ChainClient.Datum.Octets
import ChainClient.Digest.Blake2b
import ChainClient.Digest.Keccak
import ChainClient.Signing.Scheme

/-!
# Digests of the schemes

Each scheme has one digest, which signatures, addresses and transaction hashes use.
-/

namespace ChainClient

/-- The personalization of the chain's BLAKE2b digests, the word "CryptapeCryptape". -/
def chainPerson : Bytes :=
  [0x43, 0x72, 0x79, 0x70, 0x74, 0x61, 0x70, 0x65, 0x43, 0x72, 0x79, 0x70, 0x74, 0x61, 0x70, 0x65]

/-- The BLAKE2b digest of a message with the chain's personalization. -/
def chainBlake2b (digestSize : Nat) (message : Bytes) : Bytes :=
  Digest.blake2b digestSize chainPerson message

/-- A digest size that a caller gives: an integer from one to 64. -/
def digestSizeOf (size : Datum) : Except Misuse Nat :=
  match size.integer? with
  | none => .error (.wrongKind none)
  | some n =>
    if n < Int32.minValue.toInt ∨ Int32.maxValue.toInt < n then .error .tooLarge
    else if n < 1 ∨ 64 < n then .error (.badValue none)
    else .ok n.toNat

/-- The Keccak-256 digest of bytes or of what hexadecimal text denotes. -/
def keccak256Of (value : Datum) : Except Misuse Bytes :=
  Digest.keccak256 <$> value.octets

/-- The chain's BLAKE2b digest of bytes or of what hexadecimal text denotes. -/
def chainBlake2bOf (value size : Datum) : Except Misuse Bytes := do
  let message ← value.octets
  let size ← digestSizeOf size
  return chainBlake2b size message

/-- The digest of a message under a scheme. -/
def Scheme.digest : Scheme → Bytes → Bytes
  | ecdsa => Digest.keccak256
  | ed25519 => chainBlake2b 32

end ChainClient
