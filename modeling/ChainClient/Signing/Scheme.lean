import ChainClient.Datum.Equality

/-!
# Signature schemes

The two schemes under which transactions are signed. The tag of a scheme is what an envelope
carries.
-/

namespace ChainClient

/-- A signature scheme. -/
inductive Scheme where
  /-- Recoverable ECDSA on secp256k1 over the Keccak-256 digest. -/
  | ecdsa
  /-- Ed25519 over the personalized BLAKE2b-256 digest. -/
  | ed25519
deriving DecidableEq

namespace Scheme

/-- The tag of a scheme in an envelope. -/
def tag : Scheme → Nat
  | ecdsa => 0
  | ed25519 => 1

/-- The name of a scheme in messages. -/
def name : Scheme → Text
  | ecdsa => "ECDSA_SECP256K1"
  | ed25519 => "ED25519_BLAKE2B"

/-- How many bytes a signature has: for Ed25519 the public key stands behind it. -/
def signatureLength : Scheme → Nat
  | ecdsa => 65
  | ed25519 => 96

/-- The scheme with a tag. -/
def ofTag? (tag : Int) : Option Scheme :=
  if tag = 0 then some ecdsa else if tag = 1 then some ed25519 else none

/-- The scheme whose tag equals the datum. -/
def ofDatum? (d : Datum) : Option Scheme :=
  if d.equals (.int 0) then some ecdsa else if d.equals (.int 1) then some ed25519 else none

end Scheme

end ChainClient
