import ChainClient.Proofs.Encoding.CanonicalForms
import ChainClient.Proofs.Normalization
import ChainClient.Proofs.Transaction.ReadBack

/-!
# Bytes of one transaction

Signable bytes are put into an envelope if they are the bytes of the message that they denote. That
message may still write the nonce and the amount of its transaction with zeros in front, or carry
records that no field has, so that several byte strings are taken for one transaction. Among them
is one whose message does none of this: the bytes that the transaction itself has.
-/

namespace ChainClient

open Wire (TransactionMessage Schema)

namespace Wire.TransactionMessage

/-- The message denotes the transaction: its nonce in hexadecimal digits of either case, its amount
as a number, both with any count of zeros in front, and every other field as it is. -/
structure Denotes
    (m : TransactionMessage)
    (tx : Transaction) : Prop where
  recipient : m.recipient = tx.recipient
  nonce : IsNumeral 16 m.nonce tx.nonce.val
  quota : m.quota = tx.quota
  validUntilBlock : m.validUntilBlock = tx.validUntilBlock
  data : m.data = tx.payload
  value : m.value.toNat = tx.amount.val
  chainId : m.chainId = tx.chainId
  version : m.version = tx.version

/-- The message has the wire form of a transaction: small digits and bytes without zeros in front,
and nothing beyond its fields. -/
structure IsInWireForm (m : TransactionMessage) : Prop where
  nonce : Hex.IsCanonical m.nonce
  value : IsUnpadded 0 m.value
  known : m.unknown = []

end Wire.TransactionMessage

namespace Transaction

/-! ## What a message denotes -/

/-- Up to 64 digits are read as the nonce that they denote. -/
theorem nonceOfDigits_eq_ok_iff
    {digits : Text}
    {nonce : Nonce} :
    nonceOfDigits digits = .ok nonce ↔
      digits ≠ [] ∧ digits.length ≤ 64 ∧ IsNumeral 16 digits nonce.val := by
  rw [nonceOfDigits]
  by_cases wrongCount : digits = [] ∨ maxNonceDigits < digits.length
  · rw [if_pos wrongCount]
    constructor
    · intro read
      cases read
    · rintro ⟨nonempty, short, -⟩
      exact absurd wrongCount (not_or.mpr ⟨nonempty, Nat.not_lt.mpr short⟩)
  · obtain ⟨nonempty, short⟩ := not_or.mp wrongCount
    rw [if_neg wrongCount, ← Hex.toNat?_eq_some_iff]
    have sized : digits ≠ [] ∧ digits.length ≤ 64 := ⟨nonempty, Nat.not_lt.mp short⟩
    cases read : Hex.toNat? digits with
    | none => simp
    | some n =>
        have below : n < Bytes.capacity 32 := Hex.lt_capacity_of_length_le read sized.2
        have kept : Bytes.truncate 32 n = (⟨n, below⟩ : Nonce) := Fin.ext (Nat.mod_eq_of_lt below)
        simp only [kept, sized, Except.ok.injEq, Option.some.injEq, Fin.ext_iff, ne_eq,
          not_false_eq_true, true_and]

/-- A message that obeys the rules is read as the transaction that it denotes. -/
theorem ofMessage_eq_ok_iff
    {m : TransactionMessage}
    {tx : Transaction} :
    ofMessage m = .ok tx ↔ ObeysRules m ∧ m.Denotes tx := by
  constructor
  · intro made
    refine ⟨exists_ofMessage_eq_ok_iff.mp ⟨tx, made⟩, ?_⟩
    simp only [ofMessage, bind_eq_ok_iff, mapError_eq_ok_iff] at made
    obtain ⟨nonce, nonceRead, amount, amountRead, built⟩ := made
    cases built
    exact {
      recipient := rfl
      nonce := (nonceOfDigits_eq_ok_iff.mp nonceRead).2.2
      quota := rfl
      validUntilBlock := rfl
      data := rfl
      value := (Amount.ofBytes_eq_ok_iff.mp amountRead).2
      chainId := rfl
      version := rfl }
  · rintro ⟨obeys, denotes⟩
    have nonceRead : nonceOfDigits m.nonce = .ok tx.nonce :=
      nonceOfDigits_eq_ok_iff.mpr ⟨obeys.nonce_ne_nil, obeys.length_nonce_le, denotes.nonce⟩
    have amountRead : Amount.ofBytes m.value = .ok tx.amount :=
      Amount.ofBytes_eq_ok_iff.mpr ⟨obeys.length_value_le, denotes.value⟩
    simp only [ofMessage, nonceRead, amountRead, denotes.recipient, denotes.quota,
      denotes.validUntilBlock, denotes.data, denotes.chainId, denotes.version]
    rfl

theorem isInWireForm_message (tx : Transaction) :
    tx.message.IsInWireForm :=
  ⟨Hex.isCanonical_ofNat _, tx.amount.isUnpadded_toBytes, rfl⟩

end Transaction

namespace Wire.TransactionMessage

variable
    {m other : TransactionMessage}
    {tx : Transaction}

/-- Messages of one transaction differ at most in its nonce, in its amount and in unknown
records. -/
theorem Denotes.eq_iff
    (denotes : m.Denotes tx)
    (otherDenotes : other.Denotes tx) :
    m = other ↔ m.nonce = other.nonce ∧ m.value = other.value ∧ m.unknown = other.unknown := by
  constructor
  · rintro rfl
    exact ⟨rfl, rfl, rfl⟩
  · rintro ⟨nonce, value, unknown⟩
    cases m
    cases other
    cases nonce
    cases value
    cases unknown
    cases denotes.recipient.trans otherDenotes.recipient.symm
    cases denotes.quota.trans otherDenotes.quota.symm
    cases denotes.validUntilBlock.trans otherDenotes.validUntilBlock.symm
    cases denotes.data.trans otherDenotes.data.symm
    cases denotes.chainId.trans otherDenotes.chainId.symm
    cases denotes.version.trans otherDenotes.version.symm
    rfl

theorem denotes_message (tx : Transaction) :
    tx.message.Denotes tx :=
  (Transaction.ofMessage_eq_ok_iff.mp (Transaction.ofMessage_message tx)).2

/-- Of the messages of a transaction only its own has the wire form. -/
theorem Denotes.isInWireForm_iff
    (denotes : m.Denotes tx) :
    m.IsInWireForm ↔ m = tx.message := by
  constructor
  · intro form
    refine (denotes.eq_iff (denotes_message tx)).mpr ⟨?_, ?_, form.known⟩
    · exact form.nonce.toNat?_eq_some_iff.mp (Hex.toNat?_eq_some_iff.mpr denotes.nonce)
    · exact (Amount.toNat_eq_iff form.value).mp denotes.value
  · rintro rfl
    exact tx.isInWireForm_message

end Wire.TransactionMessage

/-! ## What an envelope takes -/

namespace Envelope

variable
    {raw other : Bytes}
    {signature otherSignature : Signature}
    {text otherText : Text}
    {tx : Transaction}

/-- The bytes that an envelope takes and that are read as a transaction are those of the messages
that obey the rules and denote it. -/
theorem wrap_and_deserialize_iff :
    ((∃ text, wrap (.bytes raw) signature = .ok text) ∧
      Transaction.deserialize (.bytes raw) = .ok tx) ↔
    ∃ body : TransactionMessage, body.encode = raw ∧ body.IsEncodable Schema.depthLimit ∧
      Transaction.ObeysRules body ∧ body.Denotes tx := by
  simp only [wrap_eq_ok_iff, Transaction.deserialize_eq_ok_iff, Transaction.ofMessage_eq_ok_iff]
  constructor
  · rintro ⟨⟨_, body, decoded, written, -⟩, same, found, made⟩
    cases decoded.symm.trans found
    exact ⟨body, written, TransactionMessage.isEncodable_of_decode decoded, made⟩
  · rintro ⟨body, rfl, encodable, made⟩
    have decoded := encodable.decodeInto?_encode
    exact ⟨⟨_, body, decoded, rfl, rfl⟩, body, decoded, made⟩

/-- The bytes that a transaction has itself are those of its own message. -/
theorem serialize_toDraft_eq_ok_iff
    {body : TransactionMessage}
    (encodable : body.IsEncodable Schema.depthLimit)
    (denotes : body.Denotes tx)
    (obeys : Transaction.ObeysRules body) :
    tx.toDraft.serialize = .ok body.encode ↔ body.IsInWireForm := by
  have made := Transaction.ofMessage_eq_ok_iff.mpr ⟨obeys, denotes⟩
  have writable := Transaction.isWritable_message encodable.writable made
  have decoded := encodable.decodeInto?_encode
  rw [Transaction.serialize_toDraft_of_isScalar writable.scalar.recipient, Except.ok.injEq,
    denotes.isInWireForm_iff]
  constructor
  · intro same
    have own := Transaction.decode?_encode_message writable
    rw [same] at own
    exact Option.some.inj (decoded.symm.trans own)
  · rintro rfl
    rfl

/-- Two byte strings that envelopes take and that are read as the same transaction have messages
that denote it. The bytes are equal exactly if these messages write the nonce and the amount alike
and carry the same unknown records, and they are the bytes that the transaction itself has exactly
if the message has the wire form. So only byte strings in wire form are sure to be equal. -/
theorem wrapped_eq_iff
    (wrapped : wrap (.bytes raw) signature = .ok text)
    (otherWrapped : wrap (.bytes other) otherSignature = .ok otherText)
    (read : Transaction.deserialize (.bytes raw) = .ok tx)
    (otherRead : Transaction.deserialize (.bytes other) = .ok tx) :
    ∃ body otherBody : TransactionMessage,
      TransactionMessage.schema.Reads raw body ∧ body.Denotes tx ∧
      TransactionMessage.schema.Reads other otherBody ∧ otherBody.Denotes tx ∧
      (raw = other ↔ body.nonce = otherBody.nonce ∧ body.value = otherBody.value ∧
        body.unknown = otherBody.unknown) ∧
      (tx.toDraft.serialize = .ok raw ↔ body.IsInWireForm) ∧
      (tx.toDraft.serialize = .ok other ↔ otherBody.IsInWireForm) ∧
      (body.IsInWireForm → otherBody.IsInWireForm → raw = other) := by
  obtain ⟨body, rfl, encodable, obeys, denotes⟩ :=
    wrap_and_deserialize_iff.mp ⟨⟨text, wrapped⟩, read⟩
  obtain ⟨otherBody, rfl, otherEncodable, otherObeys, otherDenotes⟩ :=
    wrap_and_deserialize_iff.mp ⟨⟨otherText, otherWrapped⟩, otherRead⟩
  have decoded := encodable.decodeInto?_encode
  have otherDecoded := otherEncodable.decodeInto?_encode
  have same : body.encode = otherBody.encode ↔ body = otherBody := by
    constructor
    · intro same
      rw [same] at decoded
      exact Option.some.inj (decoded.symm.trans otherDecoded)
    · rintro rfl
      rfl
  refine ⟨body, otherBody, Schema.decode?_eq_some_iff.mp decoded, denotes,
    Schema.decode?_eq_some_iff.mp otherDecoded, otherDenotes, ?_,
    serialize_toDraft_eq_ok_iff encodable denotes obeys,
    serialize_toDraft_eq_ok_iff otherEncodable otherDenotes otherObeys, ?_⟩
  · exact same.trans (denotes.eq_iff otherDenotes)
  · intro form otherForm
    rw [same, denotes.isInWireForm_iff.mp form, otherDenotes.isInWireForm_iff.mp otherForm]

/-- A message that is read back denotes what it is read as, in an envelope and alone. -/
theorem wrap_and_deserialize_encode
    {body : TransactionMessage}
    (decoded : TransactionMessage.decode? body.encode = some body)
    (made : Transaction.ofMessage body = .ok tx)
    (signature : Signature) :
    (∃ text, wrap (.bytes body.encode) signature = .ok text) ∧
      Transaction.deserialize (.bytes body.encode) = .ok tx :=
  ⟨⟨_, wrap_encode decoded signature⟩, Transaction.deserialize_eq_ok_iff.mpr ⟨body, decoded, made⟩⟩

theorem wrapped_eq_iff_disordered :
    ∃ raw other, raw ≠ other ∧ disordered.toDraft.serialize = .ok other ∧
      disordered.toDraft.serialize ≠ .ok raw ∧
      Transaction.deserialize (.bytes raw) = .ok disordered ∧
      Transaction.deserialize (.bytes other) = .ok disordered ∧
      (∃ text, wrap (.bytes raw) blankSignature = .ok text) ∧
      ∃ text, wrap (.bytes other) blankSignature = .ok text := by
  have decoded : TransactionMessage.decode? disorderedMessage.encode = some disorderedMessage := by
    decide +kernel
  have ownDecoded : TransactionMessage.decode? disordered.message.encode =
      some disordered.message := by
    decide +kernel
  obtain ⟨⟨text, wrapped⟩, read⟩ := wrap_and_deserialize_encode decoded rfl blankSignature
  obtain ⟨⟨otherText, otherWrapped⟩, otherRead⟩ :=
    wrap_and_deserialize_encode ownDecoded (Transaction.ofMessage_message _) blankSignature
  obtain ⟨body, otherBody, reads, -, otherReads, -, -, form, otherForm, -⟩ :=
    wrapped_eq_iff wrapped otherWrapped read otherRead
  obtain rfl : body = disorderedMessage :=
    Option.some.inj ((Schema.decode?_eq_some_iff.mpr reads).symm.trans decoded)
  obtain rfl : otherBody = disordered.message :=
    Option.some.inj ((Schema.decode?_eq_some_iff.mpr otherReads).symm.trans ownDecoded)
  have padded : ¬ disorderedMessage.IsInWireForm := fun form => List.cons_ne_nil _ _ form.known
  have own := otherForm.mpr disordered.isInWireForm_message
  refine ⟨_, _, ?_, own, fun serialized => padded (form.mp serialized), read, otherRead,
    ⟨text, wrapped⟩, otherText, otherWrapped⟩
  intro same
  rw [same] at form
  exact padded (form.mp own)

/-- A creation of a contract with a nonce of one digit. -/
def plainCreation : Transaction where
  recipient := []
  nonce := Bytes.truncate 32 1
  quota := 1
  validUntilBlock := 1
  version := 0
  chainId := 1
  amount := Bytes.truncate 32 0
  payload := []

/-- A message of this transaction with a zero in front of the digit. -/
def paddedMessage : TransactionMessage :=
  { plainCreation.message with nonce := [0x30, 0x31] }

/-- It is not so that envelopes take one byte string for a transaction. -/
theorem not_eq_of_wrap_of_deserialize :
    ¬ ∀ (raw other : Bytes) (signature : Signature) (text otherText : Text) (tx : Transaction),
      wrap (.bytes raw) signature = .ok text →
      wrap (.bytes other) signature = .ok otherText →
      Transaction.deserialize (.bytes raw) = .ok tx →
      Transaction.deserialize (.bytes other) = .ok tx →
      raw = other := by
  intro unique
  have decoded : TransactionMessage.decode? paddedMessage.encode = some paddedMessage := by
    decide +kernel
  have ownDecoded : TransactionMessage.decode? plainCreation.message.encode =
      some plainCreation.message := by
    decide +kernel
  obtain ⟨⟨text, wrapped⟩, read⟩ := wrap_and_deserialize_encode decoded rfl blankSignature
  obtain ⟨⟨otherText, otherWrapped⟩, otherRead⟩ :=
    wrap_and_deserialize_encode ownDecoded (Transaction.ofMessage_message _) blankSignature
  have same := unique _ _ _ _ _ _ wrapped otherWrapped read otherRead
  exact absurd same (by decide +kernel)

end Envelope
end ChainClient
