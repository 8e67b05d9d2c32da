import ChainClient.Wire.Schema
import ChainClient.Proofs.Encoding.Utf8
import ChainClient.Proofs.Wire.Records
import Mathlib.Algebra.Group.Nat.Defs

/-!
# Reading fields

A message is read by taking its records one after the other. So what stands in the
front of an input is taken first, and a written field, taken into a message that
has the default in its place, puts the written value there.
-/

namespace ChainClient
namespace Wire

/-- A byte string whose length a 64-bit count can hold. Every byte string in the memory
of a machine is of this kind. -/
def IsAddressable (bytes : Bytes) : Prop :=
  bytes.length < UInt64.size

instance : DecidablePred IsAddressable := fun _ => inferInstanceAs (Decidable (_ < _))

/-- The numbers that a field may have, so that its tag fits into 32 bits. -/
def IsFieldNumber (number : Nat) : Prop :=
  0 < number ∧ number < 2 ^ 29

instance : DecidablePred IsFieldNumber := fun _ => inferInstanceAs (Decidable (_ ∧ _))

theorem IsAddressable.of_length_le
    {part whole : Bytes}
    (addressable : IsAddressable whole)
    (shorter : part.length ≤ whole.length) :
    IsAddressable part :=
  Nat.lt_of_le_of_lt shorter addressable

/-! ## Written records -/

theorem usesFront_writeTag
    {number shape : Nat}
    (valid : IsFieldNumber number)
    (small : shape < 8) :
    UsesFront Tag.read? (Tag.write ⟨number, shape⟩) ⟨number, shape⟩ := by
  intro rest
  obtain ⟨positive, bounded⟩ := valid
  have fits : 8 * number + shape < Nat.pow 128 Tag.maxBytes :=
    Nat.lt_of_lt_of_le (by omega : 8 * number + shape < 2 ^ 32) (by decide)
  rw [Tag.read?, Tag.write, Varint.read?_write _ _ _ fits (by decide)]
  have inRange : ¬ (8 * number + shape < 8 ∨ UInt32.size ≤ 8 * number + shape) := by
    rw [show UInt32.size = 2 ^ 32 from rfl]
    omega
  have high : (8 * number + shape) / 8 = number := by omega
  have low : (8 * number + shape) % 8 = shape := by omega
  simp only [if_neg inRange, high, low]

/-- A written varint is read as a record. -/
theorem isWhole_writeVarint
    {number : Nat}
    (valid : IsFieldNumber number)
    (depth : Nat)
    (value : UInt64) :
    Record.IsWhole depth ⟨number, .varint value, writeVarint number value⟩ := by
  refine isWhole_of_usesFront (usesFront_writeTag valid (by decide)) ?_
  intro rest
  rw [readPayload?, if_neg (by simp [Tag.groupStart]), readPlain?, Varint.read64?_write64]
  rfl

/-- Written bytes are read as a record. -/
theorem isWhole_writeBytes
    {number : Nat}
    (valid : IsFieldNumber number)
    (depth : Nat)
    {value : Bytes}
    (addressable : IsAddressable value) :
    Record.IsWhole depth ⟨number, .bytes value, writeBytes number value⟩ := by
  have form : writeBytes number value = Tag.write ⟨number, Tag.counted⟩ ++
      (Varint.write64 (UInt64.ofNat value.length) ++ value) := by
    rw [writeBytes, List.append_assoc]
  rw [form]
  refine isWhole_of_usesFront (usesFront_writeTag valid (by decide)) ?_
  intro rest
  have count : (UInt64.ofNat value.length).toNat = value.length :=
    UInt64.toNat_ofNat_of_lt' addressable
  rw [readPayload?, if_neg (by simp [Tag.counted, Tag.groupStart]), List.append_assoc]
  simp only [readPlain?, Tag.counted, readCounted?, Varint.read64?_write64, count,
    takeBytes?, List.length_append, Nat.le_add_right, if_true, List.take_left,
    List.drop_left, Option.map_some]

theorem length_le_length_writeBytes
    (number : Nat)
    (value : Bytes) :
    value.length ≤ (writeBytes number value).length := by
  simp only [writeBytes, List.length_append]
  omega

namespace Field

variable {M : Type} {name : Text} {number : Nat}

/-- A written text field holds the bytes of its text. -/
theorem length_le_length_write_string
    {get : M → Text}
    {set : Text → M → M}
    (m : M) :
    ((get m).flatMap Utf8.encodePoint).length ≤
      ((Field.string name number get set).write m).length := by
  simp only [Field.string]
  split
  · next empty => simp [empty]
  · exact length_le_length_writeBytes _ _

/-- A written field of bytes holds its bytes. -/
theorem length_le_length_write_bytes
    {get : M → Bytes}
    {set : Bytes → M → M}
    (m : M) :
    (get m).length ≤ ((Field.bytes name number get set).write m).length := by
  simp only [Field.bytes]
  split
  · next empty => simp [empty]
  · exact length_le_length_writeBytes _ _

end Field

/-! ## Taking records -/

namespace Schema

variable {M : Type} {schema : Schema M} {depth : Nat}

theorem decodeInto?_eq_some_iff
    {m result : M}
    {input : Bytes} :
    schema.decodeInto? depth m input = some result ↔
      ∃ records, readRecords? depth input = some records ∧
        records.foldlM (schema.takeRecord? depth) m = some result := by
  rw [decodeInto?, Option.bind_eq_some_iff]

@[simp] theorem decodeInto?_nil (m : M) :
    schema.decodeInto? depth m [] = some m := rfl

/-- What stands in front is taken first. -/
theorem decodeInto?_append
    {m between result : M}
    {front behind : Bytes}
    (first : schema.decodeInto? depth m front = some between)
    (second : schema.decodeInto? depth between behind = some result) :
    schema.decodeInto? depth m (front ++ behind) = some result := by
  obtain ⟨frontRecords, frontRead, frontTaken⟩ := decodeInto?_eq_some_iff.mp first
  obtain ⟨behindRecords, behindRead, behindTaken⟩ := decodeInto?_eq_some_iff.mp second
  obtain ⟨rfl, frontWhole⟩ := readRecords?_eq_some_iff.mp frontRead
  obtain ⟨rfl, behindWhole⟩ := readRecords?_eq_some_iff.mp behindRead
  rw [decodeInto?_eq_some_iff]
  refine ⟨frontRecords ++ behindRecords, ?_, ?_⟩
  · rw [readRecords?_eq_some_iff]
    refine ⟨List.flatMap_append.symm, ?_⟩
    intro record present
    rw [List.mem_append] at present
    rcases present with inFront | inBehind
    · exact frontWhole record inFront
    · exact behindWhole record inBehind
  · rw [List.foldlM_append, frontTaken]
    exact behindTaken

/-- A record that a field reads as a value. -/
theorem decodeInto?_record
    {record : Record}
    {field : Field M}
    {m result : M}
    (whole : record.IsWhole depth)
    (found : schema.fields.find? (fun field => field.number == record.number) = some field)
    (read : field.read depth record.payload m = .value result) :
    schema.decodeInto? depth m record.raw = some result := by
  rw [decodeInto?_eq_some_iff]
  refine ⟨[record], ?_, ?_⟩
  · rw [readRecords?_eq_some_iff]
    exact ⟨by simp, by simpa using whole⟩
  · simp only [List.foldlM_cons, List.foldlM_nil, takeRecord?, found, read]
    rfl

/-! ## Written fields -/

/-- What a field writes is a part of the message, so it is as addressable. -/
theorem isAddressable_write
    {m : M}
    {field : Field M}
    (addressable : IsAddressable (schema.encode m))
    (listed : field ∈ schema.fields) :
    IsAddressable (field.write m) := by
  refine addressable.of_length_le ?_
  obtain ⟨before, after, split⟩ := List.append_of_mem listed
  simp only [encode, split, List.flatMap_append, List.flatMap_cons, List.length_append]
  omega

variable {name : Text} {number : Nat} {m base : M}

/-- A written text field puts its text into a message that has none. -/
theorem decodeInto?_write_string
    {get : M → Text}
    {set : Text → M → M}
    (found : schema.fields.find? (fun field => field.number == number) =
      some (Field.string name number get set))
    (valid : IsFieldNumber number)
    (untouched : set [] base = base)
    (scalar : (get m).IsScalar)
    (addressable : IsAddressable ((get m).flatMap Utf8.encodePoint)) :
    schema.decodeInto? depth base ((Field.string name number get set).write m) =
      some (set (get m) base) := by
  by_cases empty : (get m).flatMap Utf8.encodePoint = []
  · have nothing : get m = [] := by
      have shorter := Utf8.length_le_length_flatMap_encodePoint (get m)
      rw [empty] at shorter
      exact List.eq_nil_of_length_eq_zero (by simpa using shorter)
    simp only [Field.string, nothing, List.flatMap_nil, if_true, decodeInto?_nil, untouched]
  · simp only [Field.string, if_neg empty]
    refine decodeInto?_record (isWhole_writeBytes valid depth addressable) found ?_
    simp only [Field.string, Utf8.decode?_flatMap_encodePoint scalar]

/-- A written field of bytes puts its bytes into a message that has none. -/
theorem decodeInto?_write_bytes
    {get : M → Bytes}
    {set : Bytes → M → M}
    (found : schema.fields.find? (fun field => field.number == number) =
      some (Field.bytes name number get set))
    (valid : IsFieldNumber number)
    (untouched : set [] base = base)
    (addressable : IsAddressable (get m)) :
    schema.decodeInto? depth base ((Field.bytes name number get set).write m) =
      some (set (get m) base) := by
  by_cases empty : get m = []
  · simp only [Field.bytes, empty, if_true, decodeInto?_nil, untouched]
  · simp only [Field.bytes, if_neg empty]
    exact decodeInto?_record (isWhole_writeBytes valid depth addressable) found rfl

/-- A written unsigned field puts its number into a message that has zero. -/
theorem decodeInto?_write_uint64
    {get : M → UInt64}
    {set : UInt64 → M → M}
    (found : schema.fields.find? (fun field => field.number == number) =
      some (Field.uint64 name number get set))
    (valid : IsFieldNumber number)
    (untouched : set 0 base = base) :
    schema.decodeInto? depth base ((Field.uint64 name number get set).write m) =
      some (set (get m) base) := by
  by_cases zero : get m = 0
  · simp only [Field.uint64, zero, if_true, decodeInto?_nil, untouched]
  · simp only [Field.uint64, if_neg zero]
    exact decodeInto?_record (isWhole_writeVarint valid depth _) found rfl

/-- The sign that a varint of 64 bits holds is found in its low 32 bits. -/
@[simp] theorem lowSigned_extendSign (value : Int32) :
    Field.lowSigned (Field.extendSign value) = value := by
  simp [Field.lowSigned, Field.extendSign]

/-- A written signed field puts its number into a message that has zero. -/
theorem decodeInto?_write_signed
    {type : FieldType}
    {get : M → Int32}
    {set : Int32 → M → M}
    (found : schema.fields.find? (fun field => field.number == number) =
      some (Field.signed type name number get set))
    (valid : IsFieldNumber number)
    (untouched : set 0 base = base) :
    schema.decodeInto? depth base ((Field.signed type name number get set).write m) =
      some (set (get m) base) := by
  by_cases zero : get m = 0
  · simp only [Field.signed, zero, if_true, decodeInto?_nil, untouched]
  · simp only [Field.signed, if_neg zero]
    refine decodeInto?_record (isWhole_writeVarint valid depth _) found ?_
    simp only [Field.signed, lowSigned_extendSign]

/-- A written nested message puts into a message that has none what its own bytes are
read as, one level further in. -/
theorem decodeInto?_write_nested
    {N : Type}
    {inner : Schema N}
    {typeName : Text}
    {get : M → Option N}
    {set : N → M → M}
    {n result : N}
    (found : schema.fields.find? (fun field => field.number == number) =
      some (inner.nested typeName name number get set))
    (valid : IsFieldNumber number)
    (untouched : get base = none)
    (present : get m = some n)
    (addressable : IsAddressable (inner.encode n))
    (read : inner.decodeInto? depth inner.empty (inner.encode n) = some result) :
    schema.decodeInto? (depth + 1) base ((inner.nested typeName name number get set).write m) =
      some (set result base) := by
  simp only [nested, present]
  refine decodeInto?_record (isWhole_writeBytes valid (depth + 1) addressable) found ?_
  simp only [nested, untouched, Option.getD_none, read]

end Schema

end Wire
end ChainClient
