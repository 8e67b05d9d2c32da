import ChainClient.Signing.Digest
import ChainClient.Signing.Signature
import ChainClient.Transaction.Codec

/-!
# Envelopes

An envelope carries the signable bytes of a transaction together with the signature over them. Its
bytes travel as hexadecimal text.
-/

namespace ChainClient

/-- What an envelope carries. -/
structure Envelope where
  transaction : Transaction
  /-- The bytes that the signature covers. -/
  raw : Bytes
  signature : Signature
deriving DecidableEq

namespace Envelope

open Wire (TransactionMessage EnvelopeMessage)

/-- The message of an envelope. -/
def messageOf (body : TransactionMessage) (signature : Signature) : EnvelopeMessage where
  transaction := some body
  signature := signature.data
  crypto := Int32.ofNat signature.scheme.tag

/-- The bytes of the envelope of signable bytes, which have to be in canonical form. -/
def wrapBytes (raw : Datum) (signature : Signature) : Except EnvelopeFault Bytes := do
  let body ← Transaction.messageOfRaw raw
  match raw with
  | .bytes bytes =>
    if body.encode = bytes then return (messageOf body signature).encode
    else throw .notCanonical
  | other => throw (.rawKind other.kindName)

/-- The hexadecimal text of the envelope of signable bytes. -/
def wrap (raw : Datum) (signature : Signature) : Outcome Text :=
  (Hex.encodeMarked <$> wrapBytes raw signature).mapError EnvelopeFault.toFailure

/-- The failure to wrap bytes with something that is no signature. -/
def notSignature (value : Datum) : Failure :=
  (EnvelopeFault.signatureKind value.kindName).toFailure

/-- The bytes of an envelope: given as such, or as hexadecimal text with blanks around it. -/
def bytesOf : Datum → Except EnvelopeFault Bytes
  | .text t => (Hex.parse t.trim).mapError .notHex
  | .bytes bytes => .ok bytes
  | other => .error (.envelopeKind other.kindName)

/-- What the message of an envelope carries. -/
def ofMessage (m : EnvelopeMessage) : Except EnvelopeFault Envelope := do
  match m.transaction with
  | none => throw .noTransaction
  | some body => match Scheme.ofTag? m.crypto.toInt with
    | none => throw (.unknownScheme m.crypto.toInt)
    | some scheme =>
      let signature ← (Signature.ofBytes scheme m.signature).mapError .signature
      let transaction ← Transaction.ofMessage body
      return ⟨transaction, body.encode, signature⟩

/-- What the bytes of an envelope carry. -/
def ofBytes (bytes : Bytes) : Except EnvelopeFault Envelope :=
  match EnvelopeMessage.decode? bytes with
  | some m => ofMessage m
  | none => .error .undecodable

/-- What an envelope carries. -/
def ofDatum (envelope : Datum) : Except EnvelopeFault Envelope := do
  let bytes ← bytesOf envelope
  ofBytes bytes

/-- Reads an envelope. -/
def deserialize (envelope : Datum) : Outcome Envelope :=
  (ofDatum envelope).mapError EnvelopeFault.toFailure

/-- The digest of an envelope's bytes under the scheme of its signature. -/
def digest (envelope : Datum) : Except EnvelopeFault Bytes := do
  let bytes ← bytesOf envelope
  let content ← ofBytes bytes
  return content.signature.scheme.digest bytes

/-- The hash by which the node knows the transaction of an envelope. -/
def transactionHash (envelope : Datum) : Outcome Text :=
  (Hex.encodeMarked <$> digest envelope).mapError EnvelopeFault.toFailure

end Envelope

end ChainClient
