import ChainClient.Curve.Ed25519
import ChainClient.Curve.Secp256k1
import ChainClient.Signing.Digest
import ChainClient.Signing.Signature

/-!
# Checking signatures

The public key that a signature reveals, whether a signature belongs to a message and a key, and the
address of a public key.
-/

namespace ChainClient

namespace Signing

open Curve

/-- The uncompressed public key of a secp256k1 signature of a message. -/
def recoverPublicKey (message : Bytes) (signature : Signature) : Except Fault Bytes :=
  if signature.scheme ≠ .ecdsa then .error (.otherScheme .ecdsa signature.scheme)
  else
    let digest := Scheme.ecdsa.digest message
    match (Secp256k1.RecoverableSignature.parse? signature.data).bind
        (Secp256k1.recover? digest) with
    | some key => .ok key.uncompressed
    | none => .error .unrecoverable

/-- A secp256k1 signature belongs to the message and the key. -/
def verifyEcdsa (message : Bytes) (signature : Signature) (key : Bytes) : Except Fault Bool :=
  match Secp256k1.PublicKey.parse? key with
  | none => .error .invalidPublicKey
  | some expected => match recoverPublicKey message signature with
    | .ok found => .ok (found == expected.uncompressed)
    | .error _ => .ok false

/-- An Ed25519 signature belongs to the message and to the key behind it, which has to be the
expected one if there is one. -/
def verifyEd25519 (message : Bytes) (signature : Signature) (expected : Option Bytes) : Bool :=
  let embedded := signature.data.drop 64
  if expected.isSome ∧ expected ≠ some embedded then false
  else Ed25519.verify embedded (Scheme.ed25519.digest message) signature.core

/-- A signature belongs to the message and the expected public key. secp256k1 signatures need one;
for Ed25519 signatures it may be missing. -/
def verify (message : Bytes) (signature : Signature) (expected : Option Bytes) :
    Except Fault Bool :=
  match signature.scheme, expected with
  | .ecdsa, none => .error .publicKeyMissing
  | .ecdsa, some key => verifyEcdsa message signature key
  | .ed25519, expected => .ok (verifyEd25519 message signature expected)

/-- The address of the account with the given key bytes: the last twenty bytes of their digest. -/
def addressOfKey (scheme : Scheme) (key : Bytes) : Text :=
  let digest := scheme.digest key
  Hex.encodeMarked (digest.drop (digest.length - 20))

/-- The address of a public key under a scheme. A secp256k1 key counts by its coordinates. -/
def address (scheme : Scheme) (key : Bytes) : Except Fault Text :=
  match scheme with
  | .ecdsa => match Secp256k1.PublicKey.parse? key with
    | none => .error .invalidPublicKey
    | some key => .ok (addressOfKey scheme (key.uncompressed.drop 1))
  | .ed25519 =>
    if key.length ≠ 32 then .error .publicKeyLength else .ok (addressOfKey scheme key)

/-- What a value converts to, none for a value of a usable kind that is itself unusable. -/
def ifUsable : Except Misuse α → Outcome (Option α)
  | .ok a => .ok (some a)
  | .error (.badValue _) => .ok none
  | .error misuse => .error (.misuse misuse)

/-- The message that a caller gives, in the form in which a scheme takes it: all that converts to
bytes, or else bytes and hexadecimal text. -/
def messageBytes (scheme : Scheme) (message : Datum) : Except Misuse Bytes :=
  match scheme with
  | .ecdsa => message.toBytes
  | .ed25519 => message.octets

/-- The secp256k1 public key that a caller gives. -/
def ecdsaKey (key : Datum) : Outcome Secp256k1.PublicKey := do
  match ← ifUsable key.toBytes with
  | none => throw Fault.invalidPublicKey.toFailure
  | some bytes => match Secp256k1.PublicKey.parse? bytes with
    | none => throw Fault.invalidPublicKey.toFailure
    | some key => return key

/-- The bytes of an Ed25519 public key that a caller gives for its address: bytes or hexadecimal
text, of as many items as a key has bytes. Text has an item for each digit. -/
def ed25519KeyBytes (key : Datum) : Outcome Bytes := do
  let items ← Failure.liftMisuse key.toItems
  if items.length ≠ 32 then throw Fault.publicKeyLength.toFailure
  else Failure.liftMisuse key.octets

/-- The public key that a signature reveals of a message that a caller gives. -/
def recoverGiven (message : Datum) (signature : Signature) : Outcome Bytes := do
  if signature.scheme ≠ .ecdsa then
    throw (Fault.otherScheme .ecdsa signature.scheme).toFailure
  match ← ifUsable (messageBytes .ecdsa message) with
  | none => throw Fault.unrecoverable.toFailure
  | some message => (recoverPublicKey message signature).mapError Fault.toFailure

/-- Checks a secp256k1 signature of a message against a public key, as a caller gives them. A
signature that reveals no key is not valid. -/
def verifyEcdsaGiven (message : Datum) (signature : Signature) (key : Datum) : Outcome Bool := do
  if key.isNull then throw Fault.publicKeyMissing.toFailure
  let expected ← ecdsaKey key
  match recoverGiven message signature with
  | .ok found => return found == expected.uncompressed
  | .error (.misuse misuse) => throw (.misuse misuse)
  | .error _ => return false

/-- Checks an Ed25519 signature of a message against a public key, as a caller gives them, null for
no key. The message is not looked at under another key. -/
def verifyEd25519Given (message : Datum) (signature : Signature) (key : Datum) : Outcome Bool := do
  let expected ← if key.isNull then pure none else some <$> Failure.liftMisuse key.toBytes
  if expected.isSome ∧ expected ≠ signature.embeddedKey? then return false
  match ← ifUsable (messageBytes .ed25519 message) with
  | none => return false
  | some message => return verifyEd25519 message signature expected

/-- Checks a signature of a message against a public key, as a caller gives them, null for no
key. -/
def verifyGiven (message : Datum) (signature : Signature) (key : Datum) : Outcome Bool :=
  match signature.scheme with
  | .ecdsa => verifyEcdsaGiven message signature key
  | .ed25519 => verifyEd25519Given message signature key

/-- The address of the public key that a caller gives, under the scheme that a caller gives. -/
def addressGiven (scheme key : Datum) : Outcome Text :=
  match Scheme.ofDatum? scheme with
  | none => .error (.misuse (.badValue none))
  | some .ecdsa => (fun key => addressOfKey .ecdsa (key.uncompressed.drop 1)) <$> ecdsaKey key
  | some .ed25519 => addressOfKey .ed25519 <$> ed25519KeyBytes key

end Signing

end ChainClient
