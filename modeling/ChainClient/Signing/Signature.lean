import ChainClient.Signing.Fault

/-!
# Signatures

A signature is tagged with its scheme and has exactly the bytes that the scheme asks for.
-/

namespace ChainClient

/-- A tagged signature. -/
structure Signature where
  scheme : Scheme
  data : Bytes
  length_data : data.length = scheme.signatureLength
deriving DecidableEq

namespace Signature

/-- The signature of a scheme with the given bytes. -/
def ofBytes (scheme : Scheme) (data : Bytes) : Except Signing.Fault Signature :=
  if h : data.length = scheme.signatureLength then .ok ⟨scheme, data, h⟩
  else .error (.signatureLength scheme data.length)

/-- The signature of whatever a caller gives as scheme and bytes. -/
def make (scheme data : Datum) : Outcome Signature :=
  match Scheme.ofDatum? scheme with
  | none => .error (Signing.Fault.unknownScheme scheme).toFailure
  | some scheme => do
    let count ← Failure.liftMisuse data.byteCount
    if count ≠ scheme.signatureLength then
      throw (Signing.Fault.signatureLength scheme count).toFailure
    let bytes ← Failure.liftMisuse data.toBytes
    (ofBytes scheme bytes).mapError Signing.Fault.toFailure

/-- The signature proper, without a public key behind it. -/
def core (signature : Signature) : Bytes :=
  signature.data.take 64

/-- The public key behind an Ed25519 signature. -/
def embeddedKey? (signature : Signature) : Option Bytes :=
  match signature.scheme with
  | .ecdsa => none
  | .ed25519 => some (signature.data.drop 64)

/-- The hexadecimal text of a signature, with the mark. -/
def toHex (signature : Signature) : Text :=
  Hex.encodeMarked signature.data

end Signature

end ChainClient
