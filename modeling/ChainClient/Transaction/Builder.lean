import ChainClient.Transaction.Draft

/-!
# Building transactions

A transaction is built from values of any kind; each field has a rule of its own. The first broken
rule is reported, in the order of the fields.
-/

namespace ChainClient

namespace Transaction

/-- Why a value is no value of a field. -/
inductive FieldFault where
  | notInteger (kind : Text)
  | outOfRange (low high value : Int)
  | notText (kind : Text)
  | noRecipient
  | payloadKind (kind : Text)
  | payloadNotHex
  | payloadOdd

namespace FieldFault

/-- The text of a fault. -/
def message? : FieldFault → Option Text
  | notInteger kind => some (Text.join ["must be an integer, got ", kind])
  | outOfRange low high value => (Decimal.ofInt? value).map fun t =>
      Text.join ["must be in [", Decimal.ofInt low, ", ", Decimal.ofInt high, "], got ", t]
  | notText kind => some (Text.join ["must be a string, got ", kind])
  | noRecipient => some "function-call transactions need a recipient"
  | payloadKind kind => some (Text.join ["must be hex or bytes, got ", kind])
  | payloadNotHex => some "must be hex encoded"
  | payloadOdd => some "hex payload must have an even number of digits"

/-- A fault of a field as a failure. -/
def toFailure (field : Text) (fault : FieldFault) : Failure :=
  .ofMessage? (.invalidField field) fault.message?

end FieldFault

/-- An integer within bounds; truth values do not count. -/
def boundedInt (low high : Int) (value : Datum) : Except FieldFault Int :=
  match value with
  | .int n => if n < low ∨ high < n then .error (.outOfRange low high n) else .ok n
  | other => .error (.notInteger other.kindName)

/-- An integer within bounds, for a field. -/
def requireInt (field : Text) (low high : Int) (value : Datum) : Outcome Int :=
  (boundedInt low high value).mapError (FieldFault.toFailure field)

/-- The largest numbers of the fields. -/
def maxNonce : Int := Bytes.capacity 32 - 1
def maxUInt64 : Int := UInt64.size - 1
def maxInt32 : Int := Int32.maxValue.toInt

/-- The bytes of a payload: none, bytes, or hexadecimal text with blanks around it. -/
def payloadBytes : Datum → Except FieldFault Bytes
  | .null => .ok []
  | .bytes bytes => .ok bytes
  | .text t =>
    let digits := Hex.stripMark t.trim
    if ¬ Hex.isDigits digits then .error .payloadNotHex
    else match Hex.decode? digits with
      | some bytes => .ok bytes
      | none => .error .payloadOdd
  | other => .error (.payloadKind other.kindName)

/-- Builds a transaction from values of any kind. -/
def build (values : Slots) : Outcome Transaction := do
  let recipient ← match values.recipient with
    | .text t => pure t.trim
    | other => throw (FieldFault.toFailure Slot.recipient.name (.notText other.kindName))
  let nonce ← requireInt Slot.nonce.name 0 maxNonce values.nonce
  let quota ← requireInt Slot.quota.name 1 maxUInt64 values.quota
  let validUntilBlock ← requireInt Slot.validUntilBlock.name 1 maxUInt64 values.validUntilBlock
  let version ← requireInt Slot.version.name 0 maxInt32 values.version
  let chainId ← requireInt Slot.chainId.name 0 maxInt32 values.chainId
  let amount ← Amount.parse values.value
  let payload ← (payloadBytes values.data).mapError (FieldFault.toFailure Slot.data.name)
  return {
    recipient := recipient
    nonce := Bytes.truncate 32 nonce.toNat
    quota := UInt64.ofNat quota.toNat
    validUntilBlock := UInt64.ofNat validUntilBlock.toNat
    version := Int32.ofInt version
    chainId := Int32.ofInt chainId
    amount := amount
    payload := payload }

/-- Builds a transaction that creates a contract: it has no recipient. -/
def buildCreation (values : Slots) : Outcome Transaction :=
  build { values with recipient := .text [] }

/-- Builds a transaction that calls a contract: it needs a recipient. -/
def buildCall (values : Slots) : Outcome Transaction :=
  match values.recipient with
  | .text t =>
    if t.trim = [] then .error (FieldFault.toFailure Slot.recipient.name .noRecipient) else build values
  | _ => .error (FieldFault.toFailure Slot.recipient.name .noRecipient)

end Transaction

end ChainClient
