import ChainClient.Proofs.Wire.Messages
import ChainClient.Proofs.Wire.Grammar

/-!
# Writing what was read

A reader accepts more than a writer writes: fields in any order, several times, and records that
no field takes. Whatever it accepts, it keeps in a message that can be written, and the written
bytes are read as that message again.
-/

namespace ChainClient
namespace Wire

/-- What a record holds behind a count is as long as the count says. -/
theorem Record.IsWhole.isAddressable
    {depth : Nat}
    {record : Record}
    {value : Bytes}
    (whole : record.IsWhole depth)
    (held : record.payload = .bytes value) :
    IsAddressable value := by
  have isRecord := isWhole_iff_isRecord.mp whole
  cases isRecord with
  | group isTag isBody => cases held
  | plain isTag isPlain =>
      generalize Tag.shape _ = shape at isPlain
      cases isPlain with
      | bytes isVarint sized =>
          cases held
          rw [IsAddressable, sized]
          exact UInt64.toNat_lt_size _
      | varint | fixed64 | fixed32 => cases held

namespace Field

variable {M : Type} {name : Text} {number depth : Nat} {payload : Payload} {m : M}

/-! ## Shapes of payloads -/

theorem read_string_eq_otherShape_iff
    {get : M → Text}
    {set : Text → M → M} :
    (Field.string name number get set).read depth payload m = .otherShape ↔
      ∀ value, payload ≠ .bytes value := by
  cases payload with
  | bytes value =>
      cases read : Utf8.decode? value <;> simp [Field.string, read]
  | varint | fixed64 | group | fixed32 => simp [Field.string]

theorem read_bytes_eq_otherShape_iff
    {get : M → Bytes}
    {set : Bytes → M → M} :
    (Field.bytes name number get set).read depth payload m = .otherShape ↔
      ∀ value, payload ≠ .bytes value := by
  cases payload <;> simp [Field.bytes]

theorem read_uint64_eq_otherShape_iff
    {get : M → UInt64}
    {set : UInt64 → M → M} :
    (Field.uint64 name number get set).read depth payload m = .otherShape ↔
      ∀ value, payload ≠ .varint value := by
  cases payload <;> simp [Field.uint64]

theorem read_signed_eq_otherShape_iff
    {type : FieldType}
    {get : M → Int32}
    {set : Int32 → M → M} :
    (Field.signed type name number get set).read depth payload m = .otherShape ↔
      ∀ value, payload ≠ .varint value := by
  cases payload <;> simp [Field.signed]

theorem read_string_eq_value_iff
    {get : M → Text}
    {set : Text → M → M}
    {result : M} :
    (Field.string name number get set).read depth payload m = .value result ↔
      ∃ value t, payload = .bytes value ∧ Utf8.decode? value = some t ∧ set t m = result := by
  cases payload with
  | bytes value =>
      cases read : Utf8.decode? value <;> simp [Field.string, read]
  | varint | fixed64 | group | fixed32 => simp [Field.string]

theorem read_bytes_eq_value_iff
    {get : M → Bytes}
    {set : Bytes → M → M}
    {result : M} :
    (Field.bytes name number get set).read depth payload m = .value result ↔
      ∃ value, payload = .bytes value ∧ set value m = result := by
  cases payload <;> simp [Field.bytes]

theorem read_uint64_eq_value_iff
    {get : M → UInt64}
    {set : UInt64 → M → M}
    {result : M} :
    (Field.uint64 name number get set).read depth payload m = .value result ↔
      ∃ value, payload = .varint value ∧ set value m = result := by
  cases payload <;> simp [Field.uint64]

theorem read_signed_eq_value_iff
    {type : FieldType}
    {get : M → Int32}
    {set : Int32 → M → M}
    {result : M} :
    (Field.signed type name number get set).read depth payload m = .value result ↔
      ∃ value, payload = .varint value ∧ set (lowSigned value) m = result := by
  cases payload <;> simp [Field.signed]

end Field

namespace Schema

variable {M : Type} {schema : Schema M} {depth : Nat}

/-- A record is taken in by its field, or kept as it is. -/
theorem takeRecord?_eq_some
    {m result : M}
    {record : Record}
    (taken : schema.takeRecord? depth m record = some result) :
    ((∀ field, schema.fields.find? (fun field => field.number == record.number) = some field →
        field.read depth record.payload m = .otherShape) ∧
      result = schema.keepUnknown record.raw m) ∨
    ∃ field ∈ schema.fields, field.read depth record.payload m = .value result := by
  unfold takeRecord? at taken
  split at taken
  · next missing =>
      cases taken
      refine .inl ⟨?_, rfl⟩
      intro field found
      cases missing.symm.trans found
  · next field found =>
      split at taken
      · next otherShape =>
          cases taken
          refine .inl ⟨?_, rfl⟩
          intro other same
          cases found.symm.trans same
          exact otherShape
      · cases taken
      · next value read =>
          cases taken
          exact .inr ⟨field, List.mem_of_find?_eq_some found, read⟩

theorem takeRecord?_of_otherShape
    {m : M}
    {record : Record}
    (kept : ∀ field,
      schema.fields.find? (fun field => field.number == record.number) = some field →
        field.read depth record.payload m = .otherShape) :
    schema.takeRecord? depth m record = some (schema.keepUnknown record.raw m) := by
  unfold takeRecord?
  split
  · rfl
  · next field found => rw [kept field found]

/-- What every record of an input keeps, the whole input keeps. -/
theorem invariant_of_decodeInto?
    {P : M → Prop}
    {base result : M}
    {input : Bytes}
    (kept : ∀ m record between, P m → record.IsWhole depth →
      schema.takeRecord? depth m record = some between → P between)
    (initial : P base)
    (decoded : schema.decodeInto? depth base input = some result) :
    P result := by
  obtain ⟨records, found, taken⟩ := decodeInto?_eq_some_iff.mp decoded
  obtain ⟨-, whole⟩ := readRecords?_eq_some_iff.mp found
  clear decoded found
  induction records generalizing base with
  | nil =>
      cases taken
      exact initial
  | cons record records inductionHypothesis =>
      rw [List.foldlM_cons] at taken
      obtain ⟨between, first, rest⟩ := Option.bind_eq_some_iff.mp taken
      have firstWhole := whole record List.mem_cons_self
      exact inductionHypothesis (kept base record between initial firstWhole first) rest
        fun other present => whole other (List.mem_cons_of_mem record present)

/-- A nested message is read by taking its bytes into what is there, one level further in. -/
theorem read_nested_eq_value_iff
    {N : Type}
    {typeName name : Text}
    {number : Nat}
    {get : N → Option M}
    {set : M → N → N}
    {payload : Payload}
    {n result : N} :
    (schema.nested typeName name number get set).read (depth + 1) payload n = .value result ↔
      ∃ input m, payload = .bytes input ∧
        schema.decodeInto? depth ((get n).getD schema.empty) input = some m ∧
        set m n = result := by
  cases payload with
  | bytes input =>
      cases read : schema.decodeInto? depth ((get n).getD schema.empty) input <;>
        simp [nested, read]
  | varint | fixed64 | group | fixed32 => simp [nested]

end Schema

namespace TransactionMessage

variable {depth : Nat} {m : TransactionMessage}

/-! ## Records that are kept as they are -/

/-- A record that every message keeps as it is. -/
def IsUnknown (record : Record) : Prop :=
  ∀ depth m, schema.takeRecord? depth m record =
    some { m with unknown := m.unknown ++ record.raw }

/-- Whether a field passes a record over depends on the record alone. -/
theorem read_eq_otherShape_congr
    {field : Field TransactionMessage}
    (listed : field ∈ schema.fields)
    {payload : Payload}
    (passed : field.read depth payload m = .otherShape)
    (otherDepth : Nat)
    (other : TransactionMessage) :
    field.read otherDepth payload other = .otherShape := by
  simp only [schema, List.mem_cons, List.not_mem_nil, or_false] at listed
  rcases listed with rfl | rfl | rfl | rfl | rfl | rfl | rfl | rfl
  · exact Field.read_string_eq_otherShape_iff.mpr (Field.read_string_eq_otherShape_iff.mp passed)
  · exact Field.read_string_eq_otherShape_iff.mpr (Field.read_string_eq_otherShape_iff.mp passed)
  · exact Field.read_uint64_eq_otherShape_iff.mpr (Field.read_uint64_eq_otherShape_iff.mp passed)
  · exact Field.read_uint64_eq_otherShape_iff.mpr (Field.read_uint64_eq_otherShape_iff.mp passed)
  · exact Field.read_bytes_eq_otherShape_iff.mpr (Field.read_bytes_eq_otherShape_iff.mp passed)
  · exact Field.read_bytes_eq_otherShape_iff.mpr (Field.read_bytes_eq_otherShape_iff.mp passed)
  · exact Field.read_signed_eq_otherShape_iff.mpr (Field.read_signed_eq_otherShape_iff.mp passed)
  · exact Field.read_signed_eq_otherShape_iff.mpr (Field.read_signed_eq_otherShape_iff.mp passed)

/-- A record that one message keeps as it is, all messages do. -/
theorem isUnknown_of_otherShape
    {record : Record}
    (passed : ∀ field,
      schema.fields.find? (fun field => field.number == record.number) = some field →
        field.read depth record.payload m = .otherShape) :
    IsUnknown record := by
  intro otherDepth other
  apply Schema.takeRecord?_of_otherShape
  intro field found
  exact read_eq_otherShape_congr (List.mem_of_find?_eq_some found) (passed field found)
    otherDepth other

/-- Bytes that hold nothing but records that every message keeps as they are. -/
def AreUnknown (depth : Nat) (bytes : Bytes) : Prop :=
  ∃ records : List Record,
    bytes = records.flatMap Record.raw ∧
      ∀ record ∈ records, record.IsWhole depth ∧ IsUnknown record

theorem areUnknown_nil (depth : Nat) :
    AreUnknown depth [] :=
  ⟨[], rfl, by simp⟩

theorem AreUnknown.append
    {bytes : Bytes}
    {record : Record}
    (kept : AreUnknown depth bytes)
    (whole : record.IsWhole depth)
    (isUnknown : IsUnknown record) :
    AreUnknown depth (bytes ++ record.raw) := by
  obtain ⟨records, rfl, known⟩ := kept
  refine ⟨records ++ [record], by simp, ?_⟩
  intro other present
  rw [List.mem_append, List.mem_singleton] at present
  rcases present with before | rfl
  · exact known other before
  · exact ⟨whole, isUnknown⟩

theorem AreUnknown.mono
    {bytes : Bytes}
    {higher : Nat}
    (kept : AreUnknown depth bytes)
    (above : depth ≤ higher) :
    AreUnknown higher bytes := by
  obtain ⟨records, written, known⟩ := kept
  refine ⟨records, written, ?_⟩
  intro record present
  exact ⟨(known record present).1.mono above, (known record present).2⟩

/-- Records that every message keeps are added to what a message keeps already. -/
theorem foldlM_takeRecord_of_isUnknown
    {records : List Record}
    (known : ∀ record ∈ records, IsUnknown record)
    (depth : Nat)
    (m : TransactionMessage) :
    records.foldlM (schema.takeRecord? depth) m =
      some { m with unknown := m.unknown ++ records.flatMap Record.raw } := by
  induction records generalizing m with
  | nil => simp
  | cons record records inductionHypothesis =>
      have rest := inductionHypothesis
        (fun other present => known other (List.mem_cons_of_mem record present))
      rw [List.foldlM_cons, known record List.mem_cons_self depth m]
      simp only [Option.bind_eq_bind, Option.bind_some, rest, List.flatMap_cons,
        List.append_assoc]

theorem AreUnknown.decodeInto?
    {bytes : Bytes}
    (kept : AreUnknown depth bytes)
    (m : TransactionMessage) :
    schema.decodeInto? depth m bytes = some { m with unknown := m.unknown ++ bytes } := by
  obtain ⟨records, rfl, known⟩ := kept
  rw [Schema.decodeInto?_eq_some_iff]
  refine ⟨records, ?_, ?_⟩
  · rw [readRecords?_eq_some_iff]
    exact ⟨rfl, fun record present => (known record present).1⟩
  · exact foldlM_takeRecord_of_isUnknown (fun record present => (known record present).2) depth m

/-! ## What is read can be written -/

/-- A body that can be written, with nothing but unknown records behind its fields. -/
structure IsEncodable (depth : Nat) (m : TransactionMessage) : Prop where
  writable : m.IsWritable
  unknown : AreUnknown depth m.unknown

theorem isEncodable_empty (depth : Nat) :
    IsEncodable depth schema.empty where
  writable :=
    { scalar := ⟨by simp [schema, Text.IsScalar], by simp [schema, Text.IsScalar]⟩
      recipientFits := by decide
      nonceFits := by decide
      dataFits := by decide
      valueFits := by decide }
  unknown := areUnknown_nil depth

theorem IsEncodable.mono
    {higher : Nat}
    (encodable : IsEncodable depth m)
    (above : depth ≤ higher) :
    IsEncodable higher m where
  writable := encodable.writable
  unknown := encodable.unknown.mono above

/-- A text that a record was read as can be written, and no longer than it was. -/
theorem scalar_and_fits_of_decode
    {record : Record}
    {value : Bytes}
    {t : Text}
    (whole : record.IsWhole depth)
    (held : record.payload = .bytes value)
    (read : Utf8.decode? value = some t) :
    t.IsScalar ∧ IsAddressable (t.flatMap Utf8.encodePoint) := by
  obtain ⟨scalar, written⟩ := Utf8.decode?_eq_some_iff.mp read
  rw [written]
  exact ⟨scalar, whole.isAddressable held⟩

/-- A body that can be written takes in a record and can still be written. -/
theorem IsEncodable.takeRecord
    {record : Record}
    {result : TransactionMessage}
    (encodable : IsEncodable depth m)
    (whole : record.IsWhole depth)
    (taken : schema.takeRecord? depth m record = some result) :
    IsEncodable depth result := by
  obtain ⟨⟨⟨recipient, nonce⟩, recipientFits, nonceFits, dataFits, valueFits⟩, unknown⟩ :=
    encodable
  rcases Schema.takeRecord?_eq_some taken with ⟨passed, rfl⟩ | ⟨field, listed, read⟩
  · exact ⟨⟨⟨recipient, nonce⟩, recipientFits, nonceFits, dataFits, valueFits⟩,
      unknown.append whole (isUnknown_of_otherShape passed)⟩
  · -- only the fields of texts and of bytes put something into the body that could not fit
    simp only [schema, List.mem_cons, List.not_mem_nil, or_false] at listed
    rcases listed with rfl | rfl | rfl | rfl | rfl | rfl | rfl | rfl
    · obtain ⟨value, t, held, decoded, rfl⟩ := Field.read_string_eq_value_iff.mp read
      obtain ⟨scalar, fits⟩ := scalar_and_fits_of_decode whole held decoded
      exact ⟨⟨⟨scalar, nonce⟩, fits, nonceFits, dataFits, valueFits⟩, unknown⟩
    · obtain ⟨value, t, held, decoded, rfl⟩ := Field.read_string_eq_value_iff.mp read
      obtain ⟨scalar, fits⟩ := scalar_and_fits_of_decode whole held decoded
      exact ⟨⟨⟨recipient, scalar⟩, recipientFits, fits, dataFits, valueFits⟩, unknown⟩
    · obtain ⟨value, held, rfl⟩ := Field.read_uint64_eq_value_iff.mp read
      exact ⟨⟨⟨recipient, nonce⟩, recipientFits, nonceFits, dataFits, valueFits⟩, unknown⟩
    · obtain ⟨value, held, rfl⟩ := Field.read_uint64_eq_value_iff.mp read
      exact ⟨⟨⟨recipient, nonce⟩, recipientFits, nonceFits, dataFits, valueFits⟩, unknown⟩
    · obtain ⟨value, held, rfl⟩ := Field.read_bytes_eq_value_iff.mp read
      exact ⟨⟨⟨recipient, nonce⟩, recipientFits, nonceFits, whole.isAddressable held, valueFits⟩,
        unknown⟩
    · obtain ⟨value, held, rfl⟩ := Field.read_bytes_eq_value_iff.mp read
      exact ⟨⟨⟨recipient, nonce⟩, recipientFits, nonceFits, dataFits, whole.isAddressable held⟩,
        unknown⟩
    · obtain ⟨value, held, rfl⟩ := Field.read_signed_eq_value_iff.mp read
      exact ⟨⟨⟨recipient, nonce⟩, recipientFits, nonceFits, dataFits, valueFits⟩, unknown⟩
    · obtain ⟨value, held, rfl⟩ := Field.read_signed_eq_value_iff.mp read
      exact ⟨⟨⟨recipient, nonce⟩, recipientFits, nonceFits, dataFits, valueFits⟩, unknown⟩

/-- Whatever bytes a body takes in, it can be written. -/
theorem IsEncodable.decodeInto
    {base result : TransactionMessage}
    {input : Bytes}
    (encodable : IsEncodable depth base)
    (decoded : schema.decodeInto? depth base input = some result) :
    IsEncodable depth result :=
  Schema.invariant_of_decodeInto?
    (fun _ _ _ encodable whole taken => encodable.takeRecord whole taken) encodable decoded

/-- A body that was read can be written. -/
theorem isEncodable_of_decode
    {raw : Bytes}
    (decoded : decode? raw = some m) :
    IsEncodable Schema.depthLimit m :=
  (isEncodable_empty _).decodeInto decoded

/-- A body that can be written is read back, with its unknown records. -/
theorem IsEncodable.decodeInto?_encode (encodable : IsEncodable depth m) :
    schema.decodeInto? depth schema.empty m.encode = some m := by
  apply decodeInto?_encode_of_isWritable encodable.writable
  rw [encodable.unknown.decodeInto?, List.nil_append]

end TransactionMessage

namespace EnvelopeMessage

/-- The body in an envelope can be written, one level further in. -/
def HoldsEncodable (depth : Nat) (m : EnvelopeMessage) : Prop :=
  ∀ body ∈ m.transaction, body.IsEncodable depth

/-- An envelope takes in a record, and its body can still be written. -/
theorem HoldsEncodable.takeRecord
    {depth : Nat}
    {m result : EnvelopeMessage}
    {record : Record}
    (holds : m.HoldsEncodable depth)
    (taken : schema.takeRecord? (depth + 1) m record = some result) :
    result.HoldsEncodable depth := by
  rcases Schema.takeRecord?_eq_some taken with ⟨_, rfl⟩ | ⟨field, listed, read⟩
  · exact holds
  · simp only [schema, List.mem_cons, List.not_mem_nil, or_false] at listed
    rcases listed with rfl | rfl | rfl
    · obtain ⟨input, body, held, decoded, rfl⟩ := Schema.read_nested_eq_value_iff.mp read
      intro same present
      cases present
      refine TransactionMessage.IsEncodable.decodeInto ?_ decoded
      cases found : m.transaction with
      | none => exact TransactionMessage.isEncodable_empty depth
      | some before => exact holds before found
    · obtain ⟨value, held, rfl⟩ := Field.read_bytes_eq_value_iff.mp read
      exact holds
    · obtain ⟨value, held, rfl⟩ := Field.read_signed_eq_value_iff.mp read
      exact holds

/-- The body in an envelope that was read can be written. -/
theorem holdsEncodable_of_decode
    {bytes : Bytes}
    {m : EnvelopeMessage}
    (decoded : decode? bytes = some m) :
    m.HoldsEncodable (Schema.depthLimit - 1) := by
  refine Schema.invariant_of_decodeInto? ?_ ?_ decoded
  · intro before record result holds _ taken
    exact holds.takeRecord taken
  · intro body present
    cases present

end EnvelopeMessage

end Wire
end ChainClient
