import ChainClient.Wire.Message
import ChainClient.Proofs.Wire.Fields

/-!
# Reading messages back

The body of a transaction and the envelope around it are read back from their bytes.
A body is read alike at every depth at which it can be read, so an envelope holds
the body that its bytes denote on their own.
-/

namespace ChainClient
namespace Wire

/-- A record stays whole under a higher limit. -/
theorem Record.IsWhole.mono
    {record : Record}
    {depth higher : Nat}
    (whole : record.IsWhole depth)
    (above : depth ≤ higher) :
    record.IsWhole higher :=
  (isWhole_of_readRecord (whole [])).2 higher above

/-- Records that can be read are the same under a higher limit. -/
theorem readRecords?_mono
    {depth higher : Nat}
    {input : Bytes}
    {records : List Record}
    (found : readRecords? depth input = some records)
    (above : depth ≤ higher) :
    readRecords? higher input = some records := by
  rw [readRecords?_eq_some_iff] at found ⊢
  exact ⟨found.1, fun record present => (found.2 record present).mono above⟩

/-- The groups of a message leave room for one more message around it. -/
def LeavesRoom (input : Bytes) : Prop :=
  ∃ records, readRecords? (Schema.depthLimit - 1) input = some records

namespace TransactionMessage

/-- No field of a body looks at the depth. -/
theorem takeRecord?_depth (depth other : Nat) :
    schema.takeRecord? depth = schema.takeRecord? other := by
  have blind : ∀ field ∈ schema.fields, field.read depth = field.read other := by
    intro field present
    simp only [schema, List.mem_cons, List.not_mem_nil, or_false] at present
    rcases present with rfl | rfl | rfl | rfl | rfl | rfl | rfl | rfl <;> rfl
  funext m record
  simp only [Schema.takeRecord?]
  split
  · rfl
  · next field found => rw [blind field (List.mem_of_find?_eq_some found)]

/-- A body that leaves room is read alike within an envelope and on its own. -/
theorem decodeInto?_of_leavesRoom
    {raw : Bytes}
    {m : TransactionMessage}
    (room : LeavesRoom raw)
    (decoded : decode? raw = some m) :
    schema.decodeInto? (Schema.depthLimit - 1) schema.empty raw = some m := by
  obtain ⟨records, shallow⟩ := room
  obtain ⟨same, found, taken⟩ := Schema.decodeInto?_eq_some_iff.mp decoded
  have deeper := readRecords?_mono shallow (Nat.sub_le Schema.depthLimit 1)
  obtain rfl : same = records := by
    rw [deeper, Option.some.injEq] at found
    exact found.symm
  rw [Schema.decodeInto?_eq_some_iff]
  exact ⟨same, shallow, by rw [takeRecord?_depth _ Schema.depthLimit, taken]⟩

/-- The fields that UTF-8 has to write hold no lone surrogate. -/
structure IsScalar (m : TransactionMessage) : Prop where
  recipient : m.recipient.IsScalar
  nonce : m.nonce.IsScalar

/-- The fields of a body can be written: UTF-8 has the texts, and a count has the lengths. -/
structure IsWritable (m : TransactionMessage) : Prop where
  scalar : m.IsScalar
  recipientFits : IsAddressable (m.recipient.flatMap Utf8.encodePoint)
  nonceFits : IsAddressable (m.nonce.flatMap Utf8.encodePoint)
  dataFits : IsAddressable m.data
  valueFits : IsAddressable m.value

/-- The fields of a body whose bytes are addressable can be written. -/
theorem IsScalar.isWritable
    {m : TransactionMessage}
    (scalar : m.IsScalar)
    (addressable : IsAddressable m.encode) :
    m.IsWritable where
  scalar := scalar
  recipientFits :=
    (Schema.isAddressable_write addressable (.head _)).of_length_le
      (Field.length_le_length_write_string m)
  nonceFits :=
    (Schema.isAddressable_write addressable (.tail _ (.head _))).of_length_le
      (Field.length_le_length_write_string m)
  dataFits :=
    (Schema.isAddressable_write addressable
      (.tail _ (.tail _ (.tail _ (.tail _ (.head _)))))).of_length_le
      (Field.length_le_length_write_bytes m)
  valueFits :=
    (Schema.isAddressable_write addressable
      (.tail _ (.tail _ (.tail _ (.tail _ (.tail _ (.head _))))))).of_length_le
      (Field.length_le_length_write_bytes m)

/-- A body is read back if its unknown records are, behind its fields. -/
theorem decodeInto?_encode_of_isWritable
    {m : TransactionMessage}
    {depth : Nat}
    (writable : m.IsWritable)
    (unknownRead : schema.decodeInto? depth { m with unknown := [] } m.unknown = some m) :
    schema.decodeInto? depth schema.empty m.encode = some m := by
  obtain ⟨scalar, recipientFits, nonceFits, dataFits, valueFits⟩ := writable
  obtain ⟨recipient, nonce, quota, validUntilBlock, data, value, chainId, version, unknown⟩ := m
  simp only [encode, Schema.encode, schema, List.flatMap_cons, List.flatMap_nil,
    List.append_nil, List.append_assoc]
  refine Schema.decodeInto?_append (Schema.decodeInto?_write_string rfl (by decide) rfl
    scalar.recipient recipientFits) ?_
  refine Schema.decodeInto?_append (Schema.decodeInto?_write_string rfl (by decide) rfl
    scalar.nonce nonceFits) ?_
  refine Schema.decodeInto?_append (Schema.decodeInto?_write_uint64 rfl (by decide) rfl) ?_
  refine Schema.decodeInto?_append (Schema.decodeInto?_write_uint64 rfl (by decide) rfl) ?_
  refine Schema.decodeInto?_append (Schema.decodeInto?_write_bytes rfl (by decide) rfl
    dataFits) ?_
  refine Schema.decodeInto?_append (Schema.decodeInto?_write_bytes rfl (by decide) rfl
    valueFits) ?_
  refine Schema.decodeInto?_append (Schema.decodeInto?_write_signed rfl (by decide) rfl) ?_
  refine Schema.decodeInto?_append (Schema.decodeInto?_write_signed rfl (by decide) rfl) ?_
  exact unknownRead

/-- A body without unknown records is read back, at every depth. -/
theorem decodeInto?_encode
    {m : TransactionMessage}
    (scalar : m.IsScalar)
    (known : m.unknown = [])
    (addressable : IsAddressable m.encode)
    (depth : Nat) :
    schema.decodeInto? depth schema.empty m.encode = some m := by
  refine decodeInto?_encode_of_isWritable (scalar.isWritable addressable) ?_
  rw [known, Schema.decodeInto?_nil, ← known]

/-- A body without unknown records leaves room around it. -/
theorem leavesRoom_encode
    {m : TransactionMessage}
    (scalar : m.IsScalar)
    (known : m.unknown = [])
    (addressable : IsAddressable m.encode) :
    LeavesRoom m.encode := by
  have decoded := decodeInto?_encode scalar known addressable (Schema.depthLimit - 1)
  obtain ⟨records, found, _⟩ := Schema.decodeInto?_eq_some_iff.mp decoded
  exact ⟨records, found⟩

end TransactionMessage

namespace EnvelopeMessage

/-- An envelope is read back if its body is, one level further in. -/
theorem decode?_encode
    {body : TransactionMessage}
    {signature : Bytes}
    (crypto : Int32)
    (addressable : IsAddressable body.encode)
    (signatureAddressable : IsAddressable signature)
    (read : TransactionMessage.schema.decodeInto? (Schema.depthLimit - 1)
      TransactionMessage.schema.empty body.encode = some body) :
    decode? (encode ⟨some body, signature, crypto, []⟩) =
      some ⟨some body, signature, crypto, []⟩ := by
  simp only [decode?, Schema.decode?, encode, Schema.encode, schema, List.flatMap_cons,
    List.flatMap_nil, List.append_nil]
  refine Schema.decodeInto?_append (Schema.decodeInto?_write_nested rfl (by decide) rfl rfl
    addressable read) ?_
  refine Schema.decodeInto?_append (Schema.decodeInto?_write_bytes rfl (by decide) rfl
    signatureAddressable) ?_
  exact Schema.decodeInto?_write_signed rfl (by decide) rfl

end EnvelopeMessage

end Wire
end ChainClient
