import ChainClient.Proofs.Wire.Reencoding

/-!
# The form that writing gives

A body is written with its fields in the order of their numbers, each at most once, none of them at
its default and all in as few bytes as possible. Behind them stand the records that no field takes.
Bytes of this form, and no others, are what is written for the body that they denote.
-/

namespace ChainClient
namespace Wire

namespace Schema

variable {M : Type}

/-- What is put into one field alone, with nothing in it or behind it before, is written behind
what was written before. -/
theorem flatMap_write_of_put
    {fields : List (Field M)}
    {m result : M}
    {number : Nat}
    {raw : Bytes}
    (ascending : fields.Pairwise fun field other => field.number < other.number)
    (listed : ∃ field ∈ fields, field.number = number)
    (put : ∀ field ∈ fields,
      field.write result = if field.number = number then raw else field.write m)
    (blank : ∀ field ∈ fields, number ≤ field.number → field.write m = []) :
    fields.flatMap (fun field => field.write result) =
      fields.flatMap (fun field => field.write m) ++ raw := by
  induction fields with
  | nil =>
      obtain ⟨_, present, _⟩ := listed
      cases present
  | cons field fields inductionHypothesis =>
      obtain ⟨below, ascending⟩ := List.pairwise_cons.mp ascending
      obtain ⟨putHere, putBehind⟩ := List.forall_mem_cons.mp put
      obtain ⟨blankHere, blankBehind⟩ := List.forall_mem_cons.mp blank
      rw [List.flatMap_cons, List.flatMap_cons]
      by_cases same : field.number = number
      · -- the field itself, and everything behind it was empty and stays so
        have nothing : ∀ other ∈ fields, other.write m = [] := by
          intro other present
          exact blankBehind other present (same ▸ Nat.le_of_lt (below other present))
        have stays : ∀ other ∈ fields, other.write result = [] := by
          intro other present
          have apart : other.number ≠ number := by
            have above := below other present
            omega
          rw [putBehind other present, if_neg apart, nothing other present]
        rw [putHere, if_pos same, blankHere (Nat.le_of_eq same.symm),
          List.flatMap_eq_nil_iff.mpr nothing, List.flatMap_eq_nil_iff.mpr stays]
        simp
      · have listedBehind : ∃ other ∈ fields, other.number = number := by
          obtain ⟨other, present, isNumber⟩ := listed
          rcases List.mem_cons.mp present with rfl | present
          · exact absurd isNumber same
          · exact ⟨other, present, isNumber⟩
        rw [putHere, if_neg same, inductionHypothesis ascending listedBehind putBehind blankBehind,
          List.append_assoc]

/-- A record is kept as it is, or taken in by a field of its number. -/
theorem exists_field_of_takeRecord
    {schema : Schema M}
    {depth : Nat}
    {record : Record}
    {m result : M}
    (taken : schema.takeRecord? depth m record = some result) :
    result = schema.keepUnknown record.raw m ∨
      ∃ field ∈ schema.fields, field.number = record.number ∧
        field.read depth record.payload m = .value result := by
  unfold takeRecord? at taken
  split at taken
  · cases taken
    exact .inl rfl
  · next field found =>
      have number : field.number = record.number := by
        simpa using List.find?_some found
      split at taken
      · cases taken
        exact .inl rfl
      · cases taken
      · next value read =>
          cases taken
          exact .inr ⟨field, List.mem_of_find?_eq_some found, number, read⟩

/-- A record is taken in as its field reads it. -/
theorem takeRecord?_of_read
    {schema : Schema M}
    {depth : Nat}
    {record : Record}
    {field : Field M}
    {m result : M}
    (found : schema.fields.find? (fun field => field.number == record.number) = some field)
    (read : field.read depth record.payload m = .value result) :
    schema.takeRecord? depth m record = some result := by
  rw [takeRecord?, found]
  dsimp only
  rw [read]

end Schema

namespace TransactionMessage

variable {depth : Nat} {m : TransactionMessage}

/-- A record as a body is written with it: it is for a field, does not hold the default, and its
tag, its count and its number are in as few bytes as possible. A signed number has all 64 bits. -/
inductive IsWritten : Record → Prop
  | text
      {number : Nat}
      {t : Text} :
      number = 1 ∨ number = 2 →
      t.IsScalar →
      t.flatMap Utf8.encodePoint ≠ [] →
      IsAddressable (t.flatMap Utf8.encodePoint) →
      IsWritten ⟨number, .bytes (t.flatMap Utf8.encodePoint),
        writeBytes number (t.flatMap Utf8.encodePoint)⟩
  | unsigned
      {number : Nat}
      {value : UInt64} :
      number = 3 ∨ number = 4 →
      value ≠ 0 →
      IsWritten ⟨number, .varint value, writeVarint number value⟩
  | bytes
      {number : Nat}
      {value : Bytes} :
      number = 5 ∨ number = 6 →
      value ≠ [] →
      IsAddressable value →
      IsWritten ⟨number, .bytes value, writeBytes number value⟩
  | signed
      {number : Nat}
      {value : Int32} :
      number = 7 ∨ number = 8 →
      value ≠ 0 →
      IsWritten ⟨number, .varint (Field.extendSign value),
        writeVarint number (Field.extendSign value)⟩

/-- The bytes of a body in the form that writing gives: records in ascending order of their
numbers, each as it is written, and behind them records that no field takes. -/
def IsNormal
    (depth : Nat)
    (bytes : Bytes) : Prop :=
  ∃ (known : List Record) (behind : Bytes), bytes = known.flatMap Record.raw ++ behind ∧
    (known.Pairwise fun record other => record.number < other.number) ∧
    (∀ record ∈ known, IsWritten record) ∧ AreUnknown depth behind

/-! ## Reading records of this form -/

/-- A record as it is written can be read. -/
theorem IsWritten.isWhole
    {record : Record}
    (written : IsWritten record)
    (depth : Nat) :
    record.IsWhole depth := by
  cases written with
  | text listed scalar nonempty addressable =>
      exact isWhole_writeBytes (by rcases listed with rfl | rfl <;> decide) depth addressable
  | unsigned listed nonzero =>
      exact isWhole_writeVarint (by rcases listed with rfl | rfl <;> decide) depth _
  | bytes listed nonempty addressable =>
      exact isWhole_writeBytes (by rcases listed with rfl | rfl <;> decide) depth addressable
  | signed listed nonzero =>
      exact isWhole_writeVarint (by rcases listed with rfl | rfl <;> decide) depth _

/-- The bytes of the fields of a body. -/
def writeFields (m : TransactionMessage) : Bytes :=
  schema.fields.flatMap fun field => field.write m

theorem encode_eq (m : TransactionMessage) :
    m.encode = m.writeFields ++ m.unknown := rfl

theorem ascending_fields :
    schema.fields.Pairwise fun field other => field.number < other.number := by
  decide

/-- A record as it is written is taken into the field of its number, and no other field changes. -/
theorem IsWritten.exists_take
    {record : Record}
    (written : IsWritten record)
    (depth : Nat)
    (m : TransactionMessage) :
    ∃ result, schema.takeRecord? depth m record = some result ∧ result.unknown = m.unknown ∧
      ∀ field ∈ schema.fields, field.write result =
        if field.number = record.number then record.raw else field.write m := by
  cases written with
  | @text number t listed scalar nonempty addressable =>
      have decoded := Utf8.decode?_flatMap_encodePoint scalar
      rcases listed with rfl | rfl
      · refine ⟨{ m with recipient := t }, Schema.takeRecord?_of_read rfl
          (Field.read_string_eq_value_iff.mpr ⟨_, t, rfl, decoded, rfl⟩), rfl, ?_⟩
        simp only [schema, List.forall_mem_cons]
        exact ⟨if_neg nonempty, rfl, rfl, rfl, rfl, rfl, rfl, rfl, List.forall_mem_nil _⟩
      · refine ⟨{ m with nonce := t }, Schema.takeRecord?_of_read rfl
          (Field.read_string_eq_value_iff.mpr ⟨_, t, rfl, decoded, rfl⟩), rfl, ?_⟩
        simp only [schema, List.forall_mem_cons]
        exact ⟨rfl, if_neg nonempty, rfl, rfl, rfl, rfl, rfl, rfl, List.forall_mem_nil _⟩
  | @unsigned number value listed nonzero =>
      rcases listed with rfl | rfl
      · refine ⟨{ m with quota := value }, Schema.takeRecord?_of_read rfl
          (Field.read_uint64_eq_value_iff.mpr ⟨_, rfl, rfl⟩), rfl, ?_⟩
        simp only [schema, List.forall_mem_cons]
        exact ⟨rfl, rfl, if_neg nonzero, rfl, rfl, rfl, rfl, rfl, List.forall_mem_nil _⟩
      · refine ⟨{ m with validUntilBlock := value }, Schema.takeRecord?_of_read rfl
          (Field.read_uint64_eq_value_iff.mpr ⟨_, rfl, rfl⟩), rfl, ?_⟩
        simp only [schema, List.forall_mem_cons]
        exact ⟨rfl, rfl, rfl, if_neg nonzero, rfl, rfl, rfl, rfl, List.forall_mem_nil _⟩
  | @bytes number value listed nonempty addressable =>
      rcases listed with rfl | rfl
      · refine ⟨{ m with data := value }, Schema.takeRecord?_of_read rfl
          (Field.read_bytes_eq_value_iff.mpr ⟨_, rfl, rfl⟩), rfl, ?_⟩
        simp only [schema, List.forall_mem_cons]
        exact ⟨rfl, rfl, rfl, rfl, if_neg nonempty, rfl, rfl, rfl, List.forall_mem_nil _⟩
      · refine ⟨{ m with value := value }, Schema.takeRecord?_of_read rfl
          (Field.read_bytes_eq_value_iff.mpr ⟨_, rfl, rfl⟩), rfl, ?_⟩
        simp only [schema, List.forall_mem_cons]
        exact ⟨rfl, rfl, rfl, rfl, rfl, if_neg nonempty, rfl, rfl, List.forall_mem_nil _⟩
  | @signed number value listed nonzero =>
      have signed := Schema.lowSigned_extendSign value
      rcases listed with rfl | rfl
      · refine ⟨{ m with chainId := value }, Schema.takeRecord?_of_read rfl
          (Field.read_signed_eq_value_iff.mpr ⟨_, rfl, by rw [signed]⟩), rfl, ?_⟩
        simp only [schema, List.forall_mem_cons]
        exact ⟨rfl, rfl, rfl, rfl, rfl, rfl, if_neg nonzero, rfl, List.forall_mem_nil _⟩
      · refine ⟨{ m with version := value }, Schema.takeRecord?_of_read rfl
          (Field.read_signed_eq_value_iff.mpr ⟨_, rfl, by rw [signed]⟩), rfl, ?_⟩
        simp only [schema, List.forall_mem_cons]
        exact ⟨rfl, rfl, rfl, rfl, rfl, rfl, rfl, if_neg nonzero, List.forall_mem_nil _⟩

/-- The number of a written record is that of a field. -/
theorem IsWritten.listed
    {record : Record}
    (written : IsWritten record) :
    ∃ field ∈ schema.fields, field.number = record.number := by
  have numbers : schema.fields.map Field.number = [1, 2, 3, 4, 5, 6, 7, 8] := rfl
  suffices listed : record.number ∈ schema.fields.map Field.number from List.mem_map.mp listed
  rw [numbers]
  cases written with
  | text listed | unsigned listed | bytes listed | signed listed =>
      dsimp only
      rcases listed with rfl | rfl <;> decide

/-- Records in ascending order, each as it is written, put their bytes behind those of a body with
nothing in their fields or behind them. -/
theorem foldlM_takeRecord_of_isWritten
    {known : List Record}
    (ascending : known.Pairwise fun record other => record.number < other.number)
    (written : ∀ record ∈ known, IsWritten record)
    (blank : ∀ record ∈ known, ∀ field ∈ schema.fields, record.number ≤ field.number →
      field.write m = [])
    (depth : Nat) :
    ∃ result, known.foldlM (schema.takeRecord? depth) m = some result ∧
      result.unknown = m.unknown ∧
      result.writeFields = m.writeFields ++ known.flatMap Record.raw := by
  induction known generalizing m with
  | nil => exact ⟨m, rfl, rfl, by simp⟩
  | cons record known inductionHypothesis =>
      obtain ⟨below, ascending⟩ := List.pairwise_cons.mp ascending
      obtain ⟨writtenHere, written⟩ := List.forall_mem_cons.mp written
      obtain ⟨blankHere, -⟩ := List.forall_mem_cons.mp blank
      obtain ⟨between, taken, unknown, put⟩ := writtenHere.exists_take depth m
      have grown : between.writeFields = m.writeFields ++ record.raw :=
        Schema.flatMap_write_of_put ascending_fields writtenHere.listed put blankHere
      have stays : ∀ other ∈ known, ∀ field ∈ schema.fields, other.number ≤ field.number →
          field.write between = [] := by
        intro other present field listed above
        have behind := below other present
        rw [put field listed, if_neg (by omega), blankHere field listed (by omega)]
      obtain ⟨result, folded, sameUnknown, fields⟩ := inductionHypothesis ascending written stays
      refine ⟨result, ?_, sameUnknown.trans unknown, ?_⟩
      · rw [List.foldlM_cons, taken]
        exact folded
      · rw [fields, grown, List.append_assoc, List.flatMap_cons]

/-- Bytes in the form that writing gives are read as a body that is written so. -/
theorem IsNormal.exists_decodeInto
    {bytes : Bytes}
    (normal : IsNormal depth bytes) :
    ∃ m, schema.decodeInto? depth schema.empty bytes = some m ∧ m.encode = bytes := by
  obtain ⟨known, behind, rfl, ascending, written, unknown⟩ := normal
  have blank : ∀ record ∈ known, ∀ field ∈ schema.fields, record.number ≤ field.number →
      field.write schema.empty = [] := by
    intro _ _ field listed _
    simp only [schema, List.mem_cons, List.not_mem_nil, or_false] at listed
    rcases listed with rfl | rfl | rfl | rfl | rfl | rfl | rfl | rfl <;> rfl
  obtain ⟨m, folded, sameUnknown, fields⟩ :=
    foldlM_takeRecord_of_isWritten ascending written blank depth
  have front : schema.decodeInto? depth schema.empty (known.flatMap Record.raw) = some m := by
    rw [Schema.decodeInto?_eq_some_iff]
    refine ⟨known, ?_, folded⟩
    rw [readRecords?_eq_some_iff]
    exact ⟨rfl, fun record present => (written record present).isWhole depth⟩
  refine ⟨_, Schema.decodeInto?_append front (unknown.decodeInto? m), ?_⟩
  have empty : schema.empty.writeFields = [] := rfl
  rw [empty, List.nil_append] at fields
  rw [encode_eq, sameUnknown]
  exact congrArg (· ++ _) fields

/-! ## Writing records of this form -/

/-- What a field writes is nothing, or a record as it is written. -/
def WritesRecord
    (field : Field TransactionMessage)
    (m : TransactionMessage) : Prop :=
  field.write m = [] ∨
    ∃ record, IsWritten record ∧ record.number = field.number ∧ record.raw = field.write m

section

variable {name : Text} {number : Nat}

theorem writesRecord_string
    {get : TransactionMessage → Text}
    {set : Text → TransactionMessage → TransactionMessage}
    (listed : number = 1 ∨ number = 2)
    (scalar : (get m).IsScalar)
    (addressable : IsAddressable ((get m).flatMap Utf8.encodePoint)) :
    WritesRecord (Field.string name number get set) m := by
  by_cases empty : (get m).flatMap Utf8.encodePoint = []
  · exact .inl (if_pos empty)
  · exact .inr ⟨_, .text listed scalar empty addressable, rfl, (if_neg empty).symm⟩

theorem writesRecord_uint64
    {get : TransactionMessage → UInt64}
    {set : UInt64 → TransactionMessage → TransactionMessage}
    (listed : number = 3 ∨ number = 4) :
    WritesRecord (Field.uint64 name number get set) m := by
  by_cases zero : get m = 0
  · exact .inl (if_pos zero)
  · exact .inr ⟨_, .unsigned listed zero, rfl, (if_neg zero).symm⟩

theorem writesRecord_bytes
    {get : TransactionMessage → Bytes}
    {set : Bytes → TransactionMessage → TransactionMessage}
    (listed : number = 5 ∨ number = 6)
    (addressable : IsAddressable (get m)) :
    WritesRecord (Field.bytes name number get set) m := by
  by_cases empty : get m = []
  · exact .inl (if_pos empty)
  · exact .inr ⟨_, .bytes listed empty addressable, rfl, (if_neg empty).symm⟩

theorem writesRecord_signed
    {type : FieldType}
    {get : TransactionMessage → Int32}
    {set : Int32 → TransactionMessage → TransactionMessage}
    (listed : number = 7 ∨ number = 8) :
    WritesRecord (Field.signed type name number get set) m := by
  by_cases zero : get m = 0
  · exact .inl (if_pos zero)
  · exact .inr ⟨_, .signed listed zero, rfl, (if_neg zero).symm⟩

end

/-- Every field of a body that can be written does so. -/
theorem IsWritable.writesRecord
    {field : Field TransactionMessage}
    (writable : m.IsWritable)
    (listed : field ∈ schema.fields) :
    WritesRecord field m := by
  obtain ⟨scalar, recipientFits, nonceFits, dataFits, valueFits⟩ := writable
  simp only [schema, List.mem_cons, List.not_mem_nil, or_false] at listed
  rcases listed with rfl | rfl | rfl | rfl | rfl | rfl | rfl | rfl
  · exact writesRecord_string (.inl rfl) scalar.recipient recipientFits
  · exact writesRecord_string (.inr rfl) scalar.nonce nonceFits
  · exact writesRecord_uint64 (.inl rfl)
  · exact writesRecord_uint64 (.inr rfl)
  · exact writesRecord_bytes (.inl rfl) dataFits
  · exact writesRecord_bytes (.inr rfl) valueFits
  · exact writesRecord_signed (.inl rfl)
  · exact writesRecord_signed (.inr rfl)

/-- Fields write records in the order of the fields. -/
theorem exists_known
    {fields : List (Field TransactionMessage)}
    (each : ∀ field ∈ fields, WritesRecord field m) :
    ∃ known : List Record, fields.flatMap (fun field => field.write m) = known.flatMap Record.raw ∧
      (known.map Record.number).Sublist (fields.map Field.number) ∧
      ∀ record ∈ known, IsWritten record := by
  induction fields with
  | nil => exact ⟨[], rfl, .slnil, List.forall_mem_nil _⟩
  | cons field fields inductionHypothesis =>
      obtain ⟨here, each⟩ := List.forall_mem_cons.mp each
      obtain ⟨known, written, order, areWritten⟩ := inductionHypothesis each
      rcases here with nothing | ⟨record, isWritten, number, raw⟩
      · refine ⟨known, ?_, order.cons _, areWritten⟩
        rw [List.flatMap_cons, nothing, List.nil_append, written]
      · refine ⟨record :: known, ?_, ?_, List.forall_mem_cons.mpr ⟨isWritten, areWritten⟩⟩
        · rw [List.flatMap_cons, List.flatMap_cons, raw, written]
        · rw [List.map_cons, List.map_cons, number]
          exact order.cons_cons _

/-- A body that can be written is written in this form. -/
theorem IsEncodable.isNormal_encode (encodable : IsEncodable depth m) :
    IsNormal depth m.encode := by
  obtain ⟨known, written, order, isWritten⟩ :=
    exists_known fun _ listed => encodable.writable.writesRecord listed
  have ascending := (List.pairwise_map.mpr ascending_fields).sublist order
  exact ⟨known, m.unknown, congrArg (· ++ m.unknown) written, List.pairwise_map.mp ascending,
    isWritten, encodable.unknown⟩

/-- The bytes that a body was read from are those that are written for it exactly if they have the
form that writing gives. -/
theorem encode_eq_iff_isNormal
    {bytes : Bytes}
    (decoded : schema.decodeInto? depth schema.empty bytes = some m) :
    m.encode = bytes ↔ IsNormal depth bytes := by
  constructor
  · rintro rfl
    exact ((isEncodable_empty depth).decodeInto decoded).isNormal_encode
  · intro normal
    obtain ⟨other, again, same⟩ := normal.exists_decodeInto
    obtain rfl := Option.some.inj (decoded.symm.trans again)
    exact same

end TransactionMessage

end Wire
end ChainClient
