import ChainClient.Text.Utf8
import ChainClient.Wire.Record

/-!
# Message schemas

A schema lists the fields of a message, in the order of their numbers. A field that has its default
is not written. Of several records for one field the last counts, except that a nested message takes
in all of them. Records that no field takes are kept as they are and written behind the fields.
-/

namespace ChainClient

namespace Wire

/-- The type of a field. -/
inductive FieldType where
  | string
  | uint64
  | bytes
  | int32
  | message (name : Text)
  | enumeration (name : Text)
deriving DecidableEq

namespace FieldType

/-- The number of a type in descriptors. -/
def code : FieldType → Nat
  | uint64 => 4
  | int32 => 5
  | string => 9
  | message _ => 11
  | bytes => 12
  | enumeration _ => 14

/-- The type that a field refers to by name, empty for the scalar types. -/
def reference : FieldType → Text
  | message name | enumeration name => name
  | _ => []

end FieldType

/-- What a field makes of a payload. -/
inductive Reading (M : Type) where
  /-- The payload is not of the field's shape. -/
  | otherShape
  /-- The payload is of the field's shape and breaks the rules of its type. -/
  | invalid
  | value (message : M)

/-- A field of messages of type `M`. -/
structure Field (M : Type) where
  name : Text
  number : Nat
  type : FieldType
  /-- The record of the field, empty if the field has its default. -/
  write : M → Bytes
  /-- Takes a payload into the message; nested messages may be `depth` deep. -/
  read : (depth : Nat) → Payload → M → Reading M

/-- The schema of messages of type `M`. -/
structure Schema (M : Type) where
  name : Text
  fields : List (Field M)
  empty : M
  unknown : M → Bytes
  keepUnknown : Bytes → M → M

namespace Field

variable {M : Type}

/-- A text field. -/
def string (name : Text) (number : Nat) (get : M → Text) (set : Text → M → M) : Field M where
  name := name
  number := number
  type := .string
  write m :=
    let bytes := (get m).flatMap Utf8.encodePoint
    if bytes = [] then [] else writeBytes number bytes
  read _ payload m := match payload with
    | .bytes bytes => match Utf8.decode? bytes with
      | some t => .value (set t m)
      | none => .invalid
    | _ => .otherShape

/-- A field of bytes. -/
def bytes (name : Text) (number : Nat) (get : M → Bytes) (set : Bytes → M → M) : Field M where
  name := name
  number := number
  type := .bytes
  write m := if get m = [] then [] else writeBytes number (get m)
  read _ payload m := match payload with
    | .bytes value => .value (set value m)
    | _ => .otherShape

/-- A field of an unsigned 64-bit number. -/
def uint64 (name : Text) (number : Nat) (get : M → UInt64) (set : UInt64 → M → M) : Field M where
  name := name
  number := number
  type := .uint64
  write m := if get m = 0 then [] else writeVarint number (get m)
  read _ payload m := match payload with
    | .varint value => .value (set value m)
    | _ => .otherShape

/-- The varint of a signed 32-bit number: its sign reaches to the 64th bit. -/
def extendSign (value : Int32) : UInt64 :=
  value.toInt64.toUInt64

/-- The signed number in the low 32 bits of a varint. -/
def lowSigned (value : UInt64) : Int32 :=
  value.toInt64.toInt32

/-- A field of a signed 32-bit number, or of an enumeration. -/
def signed (type : FieldType) (name : Text) (number : Nat) (get : M → Int32)
    (set : Int32 → M → M) : Field M where
  name := name
  number := number
  type := type
  write m := if get m = 0 then [] else writeVarint number (extendSign (get m))
  read _ payload m := match payload with
    | .varint value => .value (set (lowSigned value) m)
    | _ => .otherShape

end Field

namespace Schema

variable {M : Type} (schema : Schema M)

/-- The bytes of a message. -/
def encode (m : M) : Bytes :=
  schema.fields.flatMap (fun field => field.write m) ++ schema.unknown m

/-- Takes a record into a message. -/
def takeRecord? (depth : Nat) (m : M) (record : Record) : Option M :=
  match schema.fields.find? fun field => field.number == record.number with
  | none => some (schema.keepUnknown record.raw m)
  | some field => match field.read depth record.payload m with
    | .otherShape => some (schema.keepUnknown record.raw m)
    | .invalid => none
    | .value m => some m

/-- Takes all records of the input into a message. -/
def decodeInto? (depth : Nat) (m : M) (input : Bytes) : Option M :=
  (readRecords? depth input).bind fun records => records.foldlM (schema.takeRecord? depth) m

/-- How deeply groups and messages may nest. -/
def depthLimit : Nat := 100

/-- The message that bytes denote. -/
def decode? (input : Bytes) : Option M :=
  schema.decodeInto? depthLimit schema.empty input

/-- A field of a nested message, which is there once a record for it was read. -/
def nested {N : Type} (schema : Schema M) (typeName name : Text) (number : Nat)
    (get : N → Option M) (set : M → N → N) : Field N where
  name := name
  number := number
  type := .message typeName
  write n := match get n with
    | none => []
    | some m => writeBytes number (schema.encode m)
  read depth payload n := match payload with
    | .bytes input => match depth with
      | 0 => .invalid
      | depth + 1 => match schema.decodeInto? depth ((get n).getD schema.empty) input with
        | some m => .value (set m n)
        | none => .invalid
    | _ => .otherShape

end Schema

end Wire

end ChainClient
