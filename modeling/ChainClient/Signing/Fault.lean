import ChainClient.Failure
import ChainClient.Signing.Scheme

/-!
# Signing faults

What can be wrong with key material, public keys and signatures.
-/

namespace ChainClient

namespace Signing

/-- The key material of a scheme. -/
inductive Material where
  | ecdsaKey
  | ed25519Key
deriving DecidableEq

namespace Material

/-- What messages call the material. -/
def name : Material → Text
  | ecdsaKey => "secp256k1 private key"
  | ed25519Key => "Ed25519 private key"

/-- The lengths the material may have. -/
def lengths : Material → List Nat
  | ecdsaKey => [32]
  | ed25519Key => [32, 64]

end Material

/-- Why nothing can be signed or checked. -/
inductive Fault where
  | unknownScheme (value : Datum)
  | signatureLength (scheme : Scheme) (length : Nat)
  | keyNotHex (material : Material)
  | keyKind (material : Material) (kind : Text)
  | keyLength (material : Material) (length : Nat)
  | keyOutOfRange
  | keyMismatch
  | otherScheme (expected found : Scheme)
  | invalidPublicKey
  | publicKeyLength
  | publicKeyMissing
  | unrecoverable

namespace Fault

/-- The text of a fault. -/
def message? : Fault → Option Text
  | unknownScheme value => value.quoted?.map fun t => Text.join ["unknown signature scheme: ", t]
  | signatureLength scheme length => some (Text.join [scheme.name, " signature must be ",
      Decimal.ofNat scheme.signatureLength, " bytes, got ", Decimal.ofNat length])
  | keyNotHex material => some (Text.join [material.name, " is not valid hex"])
  | keyKind material kind => some (Text.join [material.name, " must be bytes or hex, got ", kind])
  | keyLength material length => some (Text.join [material.name, " must be ",
      (Text.ofString " or ").intercalate (material.lengths.map Decimal.ofNat), " bytes, got ",
      Decimal.ofNat length])
  | keyOutOfRange => some "secp256k1 private key is out of range"
  | keyMismatch =>
    some "Ed25519 secret key: embedded public key does not match the seed"
  | otherScheme expected found => some (Text.join ["expected a ", expected.name,
      " signature, got ", found.name])
  | invalidPublicKey => some "invalid secp256k1 public key"
  | publicKeyLength => some "Ed25519 public key must be 32 bytes"
  | publicKeyMissing => some "secp256k1 verification needs the expected public key"
  | unrecoverable => some "cannot recover public key"

/-- A fault as a failure. -/
def toFailure (fault : Fault) : Failure :=
  .ofMessage? .signing fault.message?

end Fault

end Signing

end ChainClient
