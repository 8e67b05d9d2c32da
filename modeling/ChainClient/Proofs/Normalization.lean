import ChainClient.Proofs.Acceptance
import ChainClient.Proofs.Wire.Reencoding

/-!
# Normal forms

Decoders accept many byte strings for one transaction. What they read has signable bytes of
its own, in the form that writing gives, and reading these changes nothing any more. The same
goes for the bytes that an envelope carries.
-/

namespace ChainClient

open Wire (TransactionMessage EnvelopeMessage IsAddressable Schema)

namespace Transaction

/-- A transaction takes its recipient and its payload from the message as they are. -/
theorem recipient_and_payload_of_ofMessage
    {m : TransactionMessage}
    {tx : Transaction}
    (made : ofMessage m = .ok tx) :
    tx.message.recipient = m.recipient ∧ tx.message.data = m.data := by
  simp only [ofMessage, bind_eq_ok_iff] at made
  obtain ⟨nonce, -, amount, -, built⟩ := made
  cases built
  exact ⟨rfl, rfl⟩

/-- UTF-8 writes a nonce in few bytes. -/
theorem isAddressable_nonce (tx : Transaction) :
    IsAddressable (tx.message.nonce.flatMap Utf8.encodePoint) := by
  have below : tx.nonce.val < 16 ^ maxNonceDigits :=
    Nat.lt_of_lt_of_le tx.nonce.isLt (by decide)
  have short : (Hex.ofNat tx.nonce.val).length ≤ 64 :=
    Hex.length_ofNat_le below (by decide)
  have narrow := Utf8.length_flatMap_encodePoint_le (Hex.ofNat tx.nonce.val)
  apply Nat.lt_of_le_of_lt narrow
  exact Nat.lt_of_le_of_lt (Nat.mul_le_mul_left 4 short) (by decide)

theorem isAddressable_amount (amount : Amount) :
    IsAddressable amount.toBytes :=
  Nat.lt_of_le_of_lt amount.length_toBytes_le (by decide)

/-- The transaction of a message that can be written has a message that can be written. -/
theorem isWritable_message
    {m : TransactionMessage}
    {tx : Transaction}
    (writable : m.IsWritable)
    (made : ofMessage m = .ok tx) :
    tx.message.IsWritable := by
  obtain ⟨sameRecipient, samePayload⟩ := recipient_and_payload_of_ofMessage made
  have scalar : tx.message.recipient.IsScalar := sameRecipient ▸ writable.scalar.recipient
  exact {
    scalar := isScalar_message scalar
    recipientFits := sameRecipient ▸ writable.recipientFits
    nonceFits := isAddressable_nonce tx
    dataFits := samePayload ▸ writable.dataFits
    valueFits := isAddressable_amount tx.amount }

/-- The message of a transaction is read from its bytes if it can be written. -/
theorem decode?_encode_message
    {tx : Transaction}
    (writable : tx.message.IsWritable) :
    TransactionMessage.decode? tx.message.encode = some tx.message := by
  apply TransactionMessage.decodeInto?_encode_of_isWritable writable
  exact Schema.decodeInto?_nil _

/-- The message of a transaction that was read can be written. -/
theorem isWritable_of_deserialize
    {raw : Bytes}
    {tx : Transaction}
    (read : deserialize (.bytes raw) = .ok tx) :
    tx.message.IsWritable := by
  obtain ⟨body, decoded, made⟩ := deserialize_eq_ok_iff.mp read
  exact isWritable_message (TransactionMessage.isEncodable_of_decode decoded).writable made

end Transaction

namespace Envelope

/-- The body that an envelope carries, its bytes, and what they are read as. -/
theorem exists_body_of_deserialize
    {given : Datum}
    {content : Envelope}
    (read : deserialize given = .ok content) :
    ∃ body : TransactionMessage, body.IsEncodable (Schema.depthLimit - 1) ∧
      Transaction.ofMessage body = .ok content.transaction ∧ content.raw = body.encode := by
  rw [deserialize, mapError_eq_ok_iff, ofDatum] at read
  obtain ⟨bytes, -, made⟩ := bind_eq_ok_iff.mp read
  obtain ⟨m, reads, carried⟩ := ofBytes_eq_ok_iff.mp made
  obtain ⟨body, scheme, signature, tx, present, -, -, built, rfl⟩ := ofMessage_eq_ok_iff.mp carried
  have encodable := EnvelopeMessage.holdsEncodable_of_decode (Schema.decode?_eq_some_iff.mpr reads)
  exact ⟨body, encodable body present, built, rfl⟩

/-- A body that is read back as it was written makes an envelope under every signature. -/
theorem wrap_encode
    {body : TransactionMessage}
    (decoded : TransactionMessage.decode? body.encode = some body)
    (signature : Signature) :
    wrap (.bytes body.encode) signature =
      .ok (Hex.encodeMarked (messageOf body signature).encode) :=
  wrap_eq_ok_iff.mpr ⟨body, decoded, rfl, rfl⟩

/-- Reading brings bytes into a normal form, and reading the normal form changes nothing.

Whatever signable bytes are read, their transaction has signable bytes, these are read as
the same transaction and have themselves as signable bytes, and every signature can wrap
them. Whatever envelope is read, the bytes it carries are read as the transaction it carries,
its signature wraps them, and the envelope that this gives carries the same. -/
theorem decoding_normalizes :
    (∀ raw tx, Transaction.deserialize (.bytes raw) = .ok tx →
      ∃ canonical decoded, tx.toDraft.serialize = .ok canonical ∧
        Transaction.deserialize (.bytes canonical) = .ok decoded ∧ decoded = tx ∧
        decoded.toDraft.serialize = .ok canonical ∧
        ∀ signature, ∃ text, wrap (.bytes canonical) signature = .ok text) ∧
      ∀ given content, deserialize given = .ok content →
        Transaction.deserialize (.bytes content.raw) = .ok content.transaction ∧
          ∃ text, wrap (.bytes content.raw) content.signature = .ok text ∧
            (IsAddressable content.raw → deserialize (.text text) = .ok content) := by
  constructor
  · intro raw tx read
    have writable := Transaction.isWritable_of_deserialize read
    have serialized := Transaction.serialize_toDraft_of_isScalar writable.scalar.recipient
    have decoded := Transaction.decode?_encode_message writable
    have readBack : Transaction.deserialize (.bytes tx.message.encode) = .ok tx :=
      Transaction.deserialize_eq_ok_iff.mpr ⟨tx.message, decoded, Transaction.ofMessage_message tx⟩
    refine ⟨_, tx, serialized, readBack, rfl, serialized, ?_⟩
    intro signature
    exact ⟨_, wrap_encode decoded signature⟩
  · rintro given ⟨tx, raw, signature⟩ read
    obtain ⟨body, encodable, made, rfl⟩ := exists_body_of_deserialize read
    -- the body stands one level deeper in the envelope than on its own
    have shallow := encodable.decodeInto?_encode
    have decoded : TransactionMessage.decode? body.encode = some body :=
      (encodable.mono (Nat.sub_le _ _)).decodeInto?_encode
    refine ⟨Transaction.deserialize_eq_ok_iff.mpr ⟨body, decoded, made⟩, _,
      wrap_encode decoded signature, ?_⟩
    intro addressable
    apply deserialize_eq_ok (bytesOf_text (Hex.spells_encodeMarked _))
    have opened : EnvelopeMessage.decode? (messageOf body signature).encode =
        some (messageOf body signature) :=
      EnvelopeMessage.decode?_encode _ addressable (isAddressable_data signature) shallow
    simp only [ofBytes, opened]
    exact ofMessage_messageOf made signature

/-- A body with its fields out of order: a negative version in five bytes, a quota of zero in
two, two nonces of which the second one has a capital and a zero in front, an amount with a
zero in front, and a record whose field number no field has. -/
def disorderedBody : Bytes :=
  [0x40, 0xFF, 0xFF, 0xFF, 0xFF, 0x0F, 0x48, 0x05, 0x12, 0x01, 0x37, 0x18, 0x80, 0x00,
    0x12, 0x02, 0x30, 0x41, 0x32, 0x02, 0x00, 0x05]

/-- The message that `disorderedBody` denotes. -/
def disorderedMessage : TransactionMessage :=
  { nonce := [0x30, 0x41], value := [0x00, 0x05], version := -1, unknown := [0x48, 0x05] }

/-- The transaction that `disorderedBody` denotes. -/
def disordered : Transaction where
  recipient := []
  nonce := Bytes.truncate 32 10
  quota := 0
  validUntilBlock := 0
  version := -1
  chainId := 0
  amount := Bytes.truncate 32 5
  payload := []

/-- An envelope that carries `disorderedBody`, behind its signature and a body with nothing but
another version. -/
def disorderedEnvelope : Bytes :=
  [0x18, 0x01, 0x12, 0x60] ++ List.replicate 96 0 ++ [0x0A, 0x02, 0x40, 0x07, 0x0A, 0x16] ++
    disorderedBody

theorem decoding_normalizes_disordered :
    (∃ canonical, disordered.toDraft.serialize = .ok canonical ∧
      Transaction.deserialize (.bytes canonical) = .ok disordered) ∧
    ∃ text, wrap (.bytes disorderedMessage.encode) blankSignature = .ok text ∧
      deserialize (.text text) = .ok ⟨disordered, disorderedMessage.encode, blankSignature⟩ := by
  obtain ⟨normalizes, carries⟩ := decoding_normalizes
  have made : Transaction.ofMessage disorderedMessage = .ok disordered := rfl
  have decoded : TransactionMessage.decode? disorderedBody = some disorderedMessage := by
    decide +kernel
  have read : Transaction.deserialize (.bytes disorderedBody) = .ok disordered :=
    Transaction.deserialize_eq_ok_iff.mpr ⟨disorderedMessage, decoded, made⟩
  have opened : EnvelopeMessage.decode? disorderedEnvelope =
      some (messageOf disorderedMessage blankSignature) := by
    decide +kernel
  have carried : deserialize (.bytes disorderedEnvelope) =
      .ok ⟨disordered, disorderedMessage.encode, blankSignature⟩ := by
    have given : bytesOf (.bytes disorderedEnvelope) = .ok disorderedEnvelope := rfl
    apply deserialize_eq_ok given
    simp only [ofBytes, opened]
    exact ofMessage_messageOf made blankSignature
  obtain ⟨canonical, same, serialized, readBack, rfl, -, -⟩ := normalizes _ _ read
  obtain ⟨-, text, wrapped, again⟩ := carries _ _ carried
  exact ⟨⟨canonical, serialized, readBack⟩, text, wrapped, again (by decide +kernel)⟩

end Envelope

end ChainClient
