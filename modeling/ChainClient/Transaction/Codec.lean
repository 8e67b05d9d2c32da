import ChainClient.Signing.Fault
import ChainClient.Transaction.Draft
import ChainClient.Wire.Message

/-!
# Signable bytes

The bytes of a transaction that a signature covers: its message on the wire. The nonce travels as
hexadecimal digits and the amount as a big-endian number.
-/

namespace ChainClient

/-- Why bytes are no transaction or envelope, or a draft has no bytes. -/
inductive EnvelopeFault where
  | unfit
  | rawKind (kind : Text)
  | undecodableRaw
  | nonceDigits (nonce : Text)
  | amount (fault : Amount.Fault)
  | signatureKind (kind : Text)
  | notCanonical
  | notHex (fault : Hex.Fault)
  | envelopeKind (kind : Text)
  | undecodable
  | noTransaction
  | unknownScheme (tag : Int)
  | signature (fault : Signing.Fault)

/-- The most hexadecimal digits of a nonce. -/
def maxNonceDigits : Nat := 64

namespace EnvelopeFault

/-- The text of a fault. -/
def message? : EnvelopeFault → Option Text
  | unfit => some "transaction does not fit the wire schema"
  | rawKind kind => some (Text.join ["raw transaction must be bytes, got ", kind])
  | undecodableRaw => some "cannot decode raw transaction"
  | nonceDigits nonce => some (Text.join ["nonce must be 1..", Decimal.ofNat maxNonceDigits,
      " hex digits, got ", nonce.quoted])
  | amount fault => fault.message?
  | signatureKind kind => some (Text.join ["signature must be a Signature, got ", kind])
  | notCanonical => some "raw transaction bytes are not in canonical form"
  | notHex fault => some (Text.join ["envelope is not valid hex: ", fault.message])
  | envelopeKind kind => some (Text.join ["envelope must be hex or bytes, got ", kind])
  | undecodable => some "cannot decode envelope"
  | noTransaction => some "envelope carries no transaction"
  | unknownScheme tag => some (Text.join ["unknown crypto scheme tag: ", Decimal.ofInt tag])
  | signature fault => fault.message?

/-- A fault as a failure. -/
def toFailure (fault : EnvelopeFault) : Failure :=
  .ofMessage? .malformedEnvelope fault.message?

end EnvelopeFault

open Wire (TransactionMessage)

namespace Draft

/-- The failure of a draft that has no message. -/
def unfit : Failure := EnvelopeFault.unfit.toFailure

/-- A result, or the failure of a draft that has no message. -/
def orUnfit : Except Misuse α → Outcome α
  | .ok a => .ok a
  | .error _ => .error unfit

/-- The text of a text slot; null counts as absent, and bytes may hold UTF-8. -/
def textOfSlot : Datum → Outcome Text
  | .null => .ok []
  | .text t => if t.IsScalar then .ok t else .error unfit
  | .bytes bytes => match Utf8.decode? bytes with
    | some t => .ok t
    | none => .error unfit
  | _ => .error unfit

/-- The number of an integer slot, within bounds; null counts as absent. -/
def intOfSlot (low high : Int) : Datum → Outcome Int
  | .null => .ok 0
  | .int n => if low ≤ n ∧ n ≤ high then .ok n else .error unfit
  | _ => .error unfit

/-- The number of an unsigned slot. -/
def uint64OfSlot (d : Datum) : Outcome UInt64 :=
  (fun n => UInt64.ofNat n.toNat) <$> intOfSlot 0 (UInt64.size - 1) d

/-- The number of a signed slot. -/
def int32OfSlot (d : Datum) : Outcome Int32 :=
  Int32.ofInt <$> intOfSlot Int32.minValue.toInt Int32.maxValue.toInt d

/-- The amount's bytes of a draft. A malformed amount is reported as such. -/
def wireAmount (value : Datum) : Outcome Bytes :=
  match Amount.wireOfCanonical value with
  | .error (.misuse _) => .error unfit
  | outcome => outcome

/-- The message of a draft. -/
def toMessage (draft : Draft) : Outcome TransactionMessage := do
  let nonce ← orUnfit draft.nonceHex
  let data ← orUnfit draft.slots.data.bytesOfHex
  let value ← wireAmount draft.slots.value
  let recipient ← textOfSlot draft.slots.recipient
  let quota ← uint64OfSlot draft.slots.quota
  let validUntilBlock ← uint64OfSlot draft.slots.validUntilBlock
  let chainId ← int32OfSlot draft.slots.chainId
  let version ← int32OfSlot draft.slots.version
  return {
    recipient := recipient
    nonce := nonce
    quota := quota
    validUntilBlock := validUntilBlock
    data := data
    value := value
    chainId := chainId
    version := version }

/-- The signable bytes of a draft. -/
def serialize (draft : Draft) : Outcome Bytes :=
  TransactionMessage.encode <$> draft.toMessage

end Draft

namespace Transaction

/-- The nonce of its hexadecimal digits. -/
def nonceOfDigits (digits : Text) : Except EnvelopeFault Nonce :=
  if digits = [] ∨ maxNonceDigits < digits.length then .error (.nonceDigits digits)
  else match Hex.toNat? digits with
    | some n => .ok (Bytes.truncate 32 n)
    | none => .error (.nonceDigits digits)

/-- The transaction of a message. -/
def ofMessage (m : TransactionMessage) : Except EnvelopeFault Transaction := do
  let nonce ← nonceOfDigits m.nonce
  let amount ← (Amount.ofBytes m.value).mapError .amount
  return {
    recipient := m.recipient
    nonce := nonce
    quota := m.quota
    validUntilBlock := m.validUntilBlock
    version := m.version
    chainId := m.chainId
    amount := amount
    payload := m.data }

/-- The message of signable bytes. -/
def messageOfRaw : Datum → Except EnvelopeFault TransactionMessage
  | .bytes raw => match TransactionMessage.decode? raw with
    | some m => .ok m
    | none => .error .undecodableRaw
  | other => .error (.rawKind other.kindName)

/-- The transaction of signable bytes. -/
def ofRaw (raw : Datum) : Except EnvelopeFault Transaction := do
  let m ← messageOfRaw raw
  ofMessage m

/-- Reads the transaction of signable bytes. -/
def deserialize (raw : Datum) : Outcome Transaction :=
  (ofRaw raw).mapError EnvelopeFault.toFailure

end Transaction

end ChainClient
