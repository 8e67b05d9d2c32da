import ChainClient.Wire.Varint

/-!
# Wire records

A message on the wire is a row of records, each a tag and a payload. The tag holds the number of a
field and the shape of the payload. A group is a row of records between two tags with one number.
-/

namespace ChainClient

namespace Wire

/-- What a record holds. -/
inductive Payload where
  | varint (value : UInt64)
  | fixed64 (value : Bytes)
  | bytes (value : Bytes)
  | group
  | fixed32 (value : Bytes)
deriving DecidableEq

/-- A record, with all its bytes. -/
structure Record where
  number : Nat
  payload : Payload
  raw : Bytes
deriving DecidableEq

/-- A tag: the number of a field and the shape of its payload. -/
structure Tag where
  number : Nat
  shape : Nat
deriving DecidableEq

namespace Tag

/-- The most bytes of a tag. -/
def maxBytes : Nat := 5

/-- The shapes that end a group, start one, and hold bytes behind their count. -/
def groupEnd : Nat := 4
def groupStart : Nat := 3
def counted : Nat := 2

/-- Reads a tag. Field numbers start at one. -/
def read? (input : Bytes) : Option (Tag × Bytes) :=
  match Varint.read? maxBytes input with
  | none => none
  | some (n, rest) => if n < 8 ∨ UInt32.size ≤ n then none else some (⟨n / 8, n % 8⟩, rest)

/-- Writes a tag. -/
def write (tag : Tag) : Bytes :=
  Varint.write maxBytes (8 * tag.number + tag.shape)

end Tag

/-- Splits off `count` bytes, if there are so many. -/
def takeBytes? (count : Nat) (input : Bytes) : Option (Bytes × Bytes) :=
  if count ≤ input.length then some (input.take count, input.drop count) else none

/-- Reads bytes behind their count. -/
def readCounted? (input : Bytes) : Option (Bytes × Bytes) :=
  match Varint.read64? input with
  | none => none
  | some (count, rest) => takeBytes? count.toNat rest

/-- Reads the payload of a shape other than a group's. -/
def readPlain? (shape : Nat) (input : Bytes) : Option (Payload × Bytes) :=
  match shape with
  | 0 => (Varint.read64? input).map fun (value, rest) => (.varint value, rest)
  | 1 => (takeBytes? 8 input).map fun (value, rest) => (.fixed64 value, rest)
  | 2 => (readCounted? input).map fun (value, rest) => (.bytes value, rest)
  | 5 => (takeBytes? 4 input).map fun (value, rest) => (.fixed32 value, rest)
  | _ => none

/-- Reads on until all open groups are closed; at most `depth` may be open at a time. `fuel` bounds
the number of records. -/
def closeGroups? (depth : Nat) : (fuel : Nat) → (openGroups : List Nat) → Bytes → Option Bytes
  | _, [], rest => some rest
  | 0, _ :: _, _ => none
  | fuel + 1, current :: outer, input =>
    if depth ≤ outer.length then none
    else match Tag.read? input with
    | none => none
    | some (tag, rest) =>
      if tag.shape = Tag.groupEnd then
        if tag.number = current then closeGroups? depth fuel outer rest else none
      else if tag.shape = Tag.groupStart then
        closeGroups? depth fuel (tag.number :: current :: outer) rest
      else match readPlain? tag.shape rest with
        | none => none
        | some (_, rest) => closeGroups? depth fuel (current :: outer) rest

/-- Reads the payload of a record. -/
def readPayload? (depth : Nat) (tag : Tag) (input : Bytes) : Option (Payload × Bytes) :=
  if tag.shape = Tag.groupStart then
    (closeGroups? depth (input.length + 1) [tag.number] input).map fun rest => (.group, rest)
  else readPlain? tag.shape input

/-- Reads a record. -/
def readRecord? (depth : Nat) (input : Bytes) : Option (Record × Bytes) :=
  match Tag.read? input with
  | none => none
  | some (tag, body) => match readPayload? depth tag body with
    | none => none
    | some (payload, rest) =>
      some (⟨tag.number, payload, input.take (input.length - rest.length)⟩, rest)

/-- Reads records to the end of the input; `fuel` bounds their number. -/
def readRecordsWith? (depth : Nat) : (fuel : Nat) → Bytes → Option (List Record)
  | _, [] => some []
  | 0, _ :: _ => none
  | fuel + 1, byte :: rest =>
    match readRecord? depth (byte :: rest) with
    | none => none
    | some (record, rest) => (readRecordsWith? depth fuel rest).map (record :: ·)

/-- The records of a message. -/
def readRecords? (depth : Nat) (input : Bytes) : Option (List Record) :=
  readRecordsWith? depth input.length input

/-- Writes a record of a varint. -/
def writeVarint (number : Nat) (value : UInt64) : Bytes :=
  Tag.write ⟨number, 0⟩ ++ Varint.write64 value

/-- Writes a record of bytes. -/
def writeBytes (number : Nat) (value : Bytes) : Bytes :=
  Tag.write ⟨number, Tag.counted⟩ ++ Varint.write64 (UInt64.ofNat value.length) ++ value

end Wire

end ChainClient
