import ChainClient.Signing.Verification
import ChainClient.Text.Blank

/-!
# Signers

A signer holds key material that was found sound, and signs under the scheme the material is for.
Material is given as bytes or as hexadecimal text with blanks around it.
-/

namespace ChainClient

open Curve

/-- Key material of one of the schemes. -/
inductive Signer where
  | ecdsa (key : Secp256k1.PrivateKey)
  | ed25519 (seed : Bytes)

namespace Signer

open Signing

/-- The bytes of key material, of one of the lengths it may have. -/
def materialBytes (material : Material) (key : Datum) : Except Fault Bytes := do
  let bytes ← match key with
    | .text t => match Hex.parse t.trim with
      | .ok bytes => pure bytes
      | .error _ => throw (.keyNotHex material)
    | .bytes bytes => pure bytes
    | other => throw (.keyKind material other.kindName)
  if bytes.length ∈ material.lengths then return bytes
  else throw (.keyLength material bytes.length)

/-- The signer of a secp256k1 private key. -/
def ofEcdsaKey (key : Datum) : Except Fault Signer := do
  let bytes ← materialBytes .ecdsaKey key
  match Secp256k1.PrivateKey.ofBytes? bytes with
  | some key => return .ecdsa key
  | none => throw .keyOutOfRange

/-- The signer of an Ed25519 seed, which may have its public key behind it. -/
def ofEd25519Key (key : Datum) : Except Fault Signer := do
  let bytes ← materialBytes .ed25519Key key
  let seed := bytes.take 32
  if 32 < bytes.length ∧ bytes.drop 32 ≠ Ed25519.publicKey seed then throw .keyMismatch
  else return .ed25519 seed

/-- The signer of key material under a scheme. -/
def ofKey (scheme : Scheme) (key : Datum) : Except Fault Signer :=
  match scheme with
  | .ecdsa => ofEcdsaKey key
  | .ed25519 => ofEd25519Key key

/-- The signer of key material under whatever a caller gives as scheme. -/
def make (scheme key : Datum) : Outcome Signer :=
  match Scheme.ofDatum? scheme with
  | none => .error (Fault.unknownScheme scheme).toFailure
  | some scheme => (ofKey scheme key).mapError Fault.toFailure

/-- The scheme of a signer. -/
def scheme : Signer → Scheme
  | ecdsa _ => .ecdsa
  | ed25519 _ => .ed25519

/-- The public key of a signer. -/
def publicKey : Signer → Bytes
  | ecdsa key => key.publicKey
  | ed25519 seed => Ed25519.publicKey seed

/-- The address of a signer. -/
def address (signer : Signer) : Except Fault Text :=
  Signing.address signer.scheme signer.publicKey

/-- The name of the kind of a signer. -/
def kindName : Signer → Text
  | ecdsa _ => "EcdsaSigner"
  | ed25519 _ => "Ed25519Blake2bSigner"

/-- The text that shows a signer: its kind and address, never its key. -/
def toText (signer : Signer) : Except Fault Text := do
  let address ← signer.address
  return Text.join [signer.kindName, "(address=", address, ")"]

/-- The bytes of the signature of a message. -/
def signatureBytes (signer : Signer) (message : Bytes) : Bytes :=
  let digest := signer.scheme.digest message
  match signer with
  | ecdsa key => (Secp256k1.sign key digest).toBytes
  | ed25519 seed => Ed25519.sign seed digest ++ Ed25519.publicKey seed

/-- The bytes of a signature are as many as its scheme asks for. -/
theorem length_signatureBytes (signer : Signer) (message : Bytes) :
    (signer.signatureBytes message).length = signer.scheme.signatureLength := by
  cases signer with
  | ecdsa key => simp [signatureBytes, scheme, Scheme.signatureLength]
  | ed25519 seed =>
    simp [signatureBytes, scheme, Scheme.signatureLength, Ed25519.sign, Ed25519.publicKey,
      Ed25519.Point.encode, Bytes.ofNatLittle]

/-- The signature of a message. -/
def sign (signer : Signer) (message : Bytes) : Signature :=
  ⟨signer.scheme, signer.signatureBytes message, signer.length_signatureBytes message⟩

/-- The bytes of the message that a caller gives to sign. A count of zeros is no message. -/
def messageToSign (signer : Signer) (message : Datum) : Except Misuse Bytes := do
  if signer.scheme = .ecdsa ∧ message.integer?.isSome then
    let _ ← message.byteCount
    throw (.wrongKind none)
  messageBytes signer.scheme message

/-- The signature of a message that a caller gives. -/
def signGiven (signer : Signer) (message : Datum) : Outcome Signature :=
  signer.sign <$> Failure.liftMisuse (signer.messageToSign message)

/-- A signature of a message that a caller gives is this signer's. -/
def verifyGiven (signer : Signer) (message : Datum) (signature : Signature) : Outcome Bool :=
  Signing.verifyGiven message signature (.bytes signer.publicKey)

/-- A signature of a message is this signer's. -/
def verify (signer : Signer) (message : Bytes) (signature : Signature) : Except Fault Bool :=
  Signing.verify message signature (some signer.publicKey)

end Signer

end ChainClient
