import ChainClient.Proofs.Normalization
import ChainClient.Proofs.Transaction.Signing
import ChainClient.Proofs.Wire.NormalForm

/-!
# The bytes that an envelope embeds

A signature covers the bytes that its envelope embeds. Reading an envelope gives the bytes that are
written for the embedded body. They are the embedded ones exactly if these have the form that
writing gives, and only then does the signature cover what was read.
-/

namespace ChainClient

namespace Wire

/-- A body that is read under some limit is read alike under a higher one. -/
theorem TransactionMessage.decodeInto?_mono
    {depth higher : Nat}
    {input : Bytes}
    {base m : TransactionMessage}
    (decoded : schema.decodeInto? depth base input = some m)
    (above : depth ≤ higher) :
    schema.decodeInto? higher base input = some m := by
  obtain ⟨records, found, taken⟩ := Schema.decodeInto?_eq_some_iff.mp decoded
  rw [Schema.decodeInto?_eq_some_iff]
  exact ⟨records, readRecords?_mono found above, by rw [takeRecord?_depth _ depth, taken]⟩

namespace EnvelopeMessage

variable {depth : Nat} {m result : EnvelopeMessage} {record : Record} {embedded : Bytes}

/-- The record puts a body with these bytes into an envelope. -/
def Embeds
    (record : Record)
    (embedded : Bytes) : Prop :=
  record.number = 1 ∧ record.payload = .bytes embedded

/-- Among the records of the bytes there is one that embeds a body, and it embeds these bytes. -/
def EmbedsOnce (bytes embedded : Bytes) : Prop :=
  ∃ before record after, bytes = (before ++ record :: after).flatMap Record.raw ∧
    (∀ other ∈ before ++ record :: after, IsRecord Schema.depthLimit other) ∧
    Embeds record embedded ∧ ∀ other ∈ before ++ after, ∀ inner, ¬ Embeds other inner

/-- A record that embeds nothing leaves the body as it is. -/
theorem transaction_of_take
    (other : ∀ inner, ¬ Embeds record inner)
    (taken : schema.takeRecord? (depth + 1) m record = some result) :
    result.transaction = m.transaction := by
  rcases Schema.exists_field_of_takeRecord taken with rfl | ⟨field, listed, number, read⟩
  · rfl
  · simp only [schema, List.mem_cons, List.not_mem_nil, or_false] at listed
    rcases listed with rfl | rfl | rfl
    · obtain ⟨inner, _, held, -, -⟩ := Schema.read_nested_eq_value_iff.mp read
      exact absurd ⟨number.symm, held⟩ (other inner)
    · obtain ⟨_, _, rfl⟩ := Field.read_bytes_eq_value_iff.mp read
      rfl
    · obtain ⟨_, _, rfl⟩ := Field.read_signed_eq_value_iff.mp read
      rfl

/-- Records that embed nothing leave the body as it is. -/
theorem transaction_of_foldlM
    {records : List Record}
    (others : ∀ other ∈ records, ∀ inner, ¬ Embeds other inner)
    (folded : records.foldlM (schema.takeRecord? (depth + 1)) m = some result) :
    result.transaction = m.transaction := by
  induction records generalizing m with
  | nil =>
      cases folded
      rfl
  | cons record records inductionHypothesis =>
      obtain ⟨here, others⟩ := List.forall_mem_cons.mp others
      rw [List.foldlM_cons] at folded
      obtain ⟨between, taken, folded⟩ := Option.bind_eq_some_iff.mp folded
      exact (inductionHypothesis others folded).trans (transaction_of_take here taken)

/-- The first record that embeds a body puts it into the envelope. -/
theorem exists_transaction_of_take
    (embeds : Embeds record embedded)
    (blank : m.transaction = none)
    (taken : schema.takeRecord? (depth + 1) m record = some result) :
    ∃ body, TransactionMessage.schema.decodeInto? depth TransactionMessage.schema.empty embedded =
      some body ∧ result.transaction = some body := by
  have found : schema.fields.find? (fun field => field.number == record.number) =
      schema.fields.head? := by
    rw [embeds.1]
    rfl
  rw [Schema.takeRecord?, found] at taken
  simp only [schema, List.head?_cons, Schema.nested, embeds.2, blank, Option.getD_none] at taken
  cases decoded : TransactionMessage.schema.decodeInto? depth TransactionMessage.schema.empty
      embedded with
  | none =>
      rw [decoded] at taken
      cases taken
  | some body =>
      rw [decoded] at taken
      cases taken
      exact ⟨body, rfl, rfl⟩

/-- An envelope that embeds a body once holds the body that the embedded bytes denote. -/
theorem exists_transaction_of_reads
    {bytes : Bytes}
    (reads : schema.Reads bytes m)
    (once : EmbedsOnce bytes embedded) :
    ∃ body, TransactionMessage.schema.decodeInto? (Schema.depthLimit - 1)
      TransactionMessage.schema.empty embedded = some body ∧ m.transaction = some body := by
  obtain ⟨records, split, areRecords, folded⟩ := reads
  obtain ⟨before, record, after, form, areOthers, embeds, others⟩ := once
  have found := readRecords?_eq_some_iff_isRecord.mpr ⟨split, areRecords⟩
  have again := readRecords?_eq_some_iff_isRecord.mpr ⟨form, areOthers⟩
  obtain rfl := Option.some.inj (found.symm.trans again)
  obtain ⟨inFront, behind⟩ := List.forall_mem_append.mp others
  rw [List.foldlM_append] at folded
  obtain ⟨between, first, rest⟩ := Option.bind_eq_some_iff.mp folded
  rw [List.foldlM_cons] at rest
  obtain ⟨holding, taken, last⟩ := Option.bind_eq_some_iff.mp rest
  have blank : between.transaction = none := transaction_of_foldlM inFront first
  obtain ⟨body, decoded, holds⟩ := exists_transaction_of_take embeds blank taken
  exact ⟨body, decoded, (transaction_of_foldlM behind last).trans holds⟩

end EnvelopeMessage
end Wire

namespace Envelope

open Wire (TransactionMessage EnvelopeMessage Schema)
open Wire.EnvelopeMessage (EmbedsOnce)

/-- What is read from an envelope that embeds a body once are the bytes that are written for this
body. These are the embedded bytes exactly if they have the form that writing gives, and then a
signer's signature over the embedded bytes covers what was read. -/
theorem raw_eq_embedded_iff
    {given : Datum}
    {bytes embedded : Bytes}
    {content : Envelope}
    (isGiven : IsGiven given bytes)
    (once : EmbedsOnce bytes embedded)
    (read : deserialize given = .ok content) :
    (∃ body, TransactionMessage.decode? embedded = some body ∧ content.raw = body.encode) ∧
      (content.raw = embedded ↔ TransactionMessage.IsNormal (Schema.depthLimit - 1) embedded) ∧
      (content.raw = embedded ↔ ∃ text, wrap (.bytes embedded) content.signature = .ok text) ∧
      (TransactionMessage.IsNormal (Schema.depthLimit - 1) embedded →
        ∀ signer : Signer, signer.KeepsLaws (signer.scheme.digest embedded) →
          Signing.verify content.raw (signer.sign embedded) (some signer.publicKey) =
            .ok true) := by
  rw [deserialize, mapError_eq_ok_iff, ofDatum, bytesOf_eq_ok_iff.mpr isGiven] at read
  obtain ⟨m, reads, carried⟩ := ofBytes_eq_ok_iff.mp read
  obtain ⟨body, _, signature, _, present, -, -, -, rfl⟩ := ofMessage_eq_ok_iff.mp carried
  obtain ⟨other, shallow, holds⟩ := EnvelopeMessage.exists_transaction_of_reads reads once
  obtain rfl := Option.some.inj (present.symm.trans holds)
  have decoded : TransactionMessage.decode? embedded = some body :=
    TransactionMessage.decodeInto?_mono shallow (Nat.sub_le _ _)
  have same := TransactionMessage.encode_eq_iff_isNormal shallow
  refine ⟨⟨body, decoded, rfl⟩, same, ?_, ?_⟩
  · constructor
    · intro equal
      exact ⟨_, wrap_eq_ok_iff.mpr ⟨body, decoded, equal, rfl⟩⟩
    · rintro ⟨text, wrapped⟩
      obtain ⟨other, again, equal, -⟩ := wrap_eq_ok_iff.mp wrapped
      obtain rfl := Option.some.inj (decoded.symm.trans again)
      exact equal
  · intro normal signer lawful
    dsimp only
    rw [same.mpr normal]
    exact Signer.verify_sign lawful

/-- The bytes of an envelope whose body stands behind a blank signature and its scheme. -/
def bodyLast (embedded : Bytes) : Bytes :=
  [0x18, 0x01] ++ ([0x12, 0x60] ++ List.replicate 96 0) ++
    ([0x0A, UInt8.ofNat embedded.length] ++ embedded)

/-- The records of that envelope. -/
def bodyLastRecords (embedded : Bytes) : List Wire.Record :=
  [⟨3, .varint 1, [0x18, 0x01]⟩,
    ⟨2, .bytes (List.replicate 96 0), [0x12, 0x60] ++ List.replicate 96 0⟩,
    ⟨1, .bytes embedded, [0x0A, UInt8.ofNat embedded.length] ++ embedded⟩]

/-- The last of these records embeds the body, and no other does. -/
theorem embedsOnce_bodyLast
    {embedded : Bytes}
    (found : Wire.readRecords? Schema.depthLimit (bodyLast embedded) =
      some (bodyLastRecords embedded)) :
    EmbedsOnce (bodyLast embedded) embedded := by
  obtain ⟨split, areRecords⟩ := Wire.readRecords?_eq_some_iff_isRecord.mp found
  refine ⟨(bodyLastRecords embedded).take 2, _, [], split, areRecords, ⟨rfl, rfl⟩, ?_⟩
  simp [bodyLastRecords, EnvelopeMessage.Embeds]

theorem deserialize_bodyLast
    {embedded : Bytes}
    {body : TransactionMessage}
    {tx : Transaction}
    (opened : EnvelopeMessage.decode? (bodyLast embedded) = some (messageOf body blankSignature))
    (made : Transaction.ofMessage body = .ok tx) :
    deserialize (.bytes (bodyLast embedded)) = .ok ⟨tx, body.encode, blankSignature⟩ := by
  have given : bytesOf (.bytes (bodyLast embedded)) = .ok (bodyLast embedded) := rfl
  apply deserialize_eq_ok given
  simp only [ofBytes, opened]
  exact ofMessage_messageOf made blankSignature

/-- The fields of the envelope stand in another order than they are written in, but those of the
body do not. -/
theorem raw_eq_embedded_creation :
    deserialize (.bytes (bodyLast Transaction.creation.message.encode)) =
        .ok ⟨Transaction.creation, Transaction.creation.message.encode, blankSignature⟩ ∧
      TransactionMessage.IsNormal (Schema.depthLimit - 1) Transaction.creation.message.encode ∧
      Signing.verify Transaction.creation.message.encode
        (Transaction.unitKey.sign Transaction.creation.message.encode)
        (some Transaction.unitKey.publicKey) = .ok true := by
  let embedded := Transaction.creation.message.encode
  have found : Wire.readRecords? Schema.depthLimit (bodyLast embedded) =
      some (bodyLastRecords embedded) := by
    decide +kernel
  have opened : EnvelopeMessage.decode? (bodyLast embedded) =
      some (messageOf Transaction.creation.message blankSignature) := by
    decide +kernel
  have read := deserialize_bodyLast opened (Transaction.ofMessage_message _)
  obtain ⟨-, normal, -, covers⟩ :=
    raw_eq_embedded_iff (.bytes _) (embedsOnce_bodyLast found) read
  have isNormal := normal.mp rfl
  exact ⟨read, isNormal, covers isNormal _ Transaction.keepsLaws_unitKey⟩

/-- A body with the nonce one, and a quota of zero that is written all the same. -/
def explicitBody : Bytes :=
  [0x12, 0x01, 0x31, 0x18, 0x00]

/-- Not every envelope that embeds a body once is read with the bytes that it embeds. -/
theorem not_raw_eq_embedded :
    ¬ ∀ (given : Datum) (bytes embedded : Bytes) (content : Envelope), IsGiven given bytes →
      EmbedsOnce bytes embedded → deserialize given = .ok content → content.raw = embedded := by
  intro closed
  let body : TransactionMessage := { nonce := [0x31] }
  have found : Wire.readRecords? Schema.depthLimit (bodyLast explicitBody) =
      some (bodyLastRecords explicitBody) := by
    decide +kernel
  have opened : EnvelopeMessage.decode? (bodyLast explicitBody) =
      some (messageOf body blankSignature) := by
    decide +kernel
  obtain ⟨tx, made⟩ : ∃ tx, Transaction.ofMessage body = .ok tx := ⟨_, rfl⟩
  have read := deserialize_bodyLast opened made
  have same := closed _ _ _ _ (.bytes _) (embedsOnce_bodyLast found) read
  have differs : body.encode ≠ explicitBody := by
    decide +kernel
  exact differs same

end Envelope

end ChainClient
