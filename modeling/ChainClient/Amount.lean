import ChainClient.Failure
import ChainClient.Hex
import ChainClient.Numeral.Integer
import ChainClient.Text.Blank

/-!
# Amounts

An amount is a natural number below 2^256. Callers give it as an integer, as a decimal literal or as
a hexadecimal literal with a mark; blanks around a literal do not count, and neither do leading
zeros. Its canonical form is its hexadecimal digits without mark and leading zeros, its wire form
the shortest big-endian byte string, which for zero is a single zero byte.
-/

namespace ChainClient

/-- An amount of money. -/
abbrev Amount := Fin (Bytes.capacity 32)

namespace Amount

/-- The most bytes that an amount takes on the wire. -/
def maxBytes : Nat := 32

/-- Why a value is no amount. -/
inductive Fault where
  /-- The value is a truth value. -/
  | truthValue (value : Bool)
  /-- The value is neither text nor an integer; holds the name of its kind. -/
  | wrongKind (kind : Text)
  | empty
  /-- There is a mark, and what follows are not hexadecimal digits. -/
  | notHex (literal : Text)
  | notNumeral (literal : Text)
  /-- The digits are too many to be converted. -/
  | unconvertible
  | negative (value : Int)
  | tooWide
  /-- The wire form has too many bytes; holds how many. -/
  | tooLong (bytes : Nat)

/-- The text of a fault. -/
def Fault.message? : Fault → Option Text
  | truthValue value => some (Text.join ["value must be a string or int, got ",
      if value then "True" else "False"])
  | wrongKind kind => some (Text.join ["value must be a string or int, got ", kind])
  | empty => some "value must not be empty"
  | notHex literal => some (Text.join ["invalid hex value: ", literal.quoted])
  | notNumeral literal => some (Text.join ["value is neither hex nor decimal: ", literal.quoted])
  | negative value => (Decimal.ofInt? value).map fun t =>
      Text.join ["value must be non-negative, got ", t]
  | unconvertible => none
  | tooWide => some "value exceeds 256 bits"
  | tooLong bytes => some (Text.join ["value field is ", Decimal.ofNat bytes, " bytes, max ",
      Decimal.ofNat maxBytes])

/-- A fault as a failure. -/
def Fault.toFailure (fault : Fault) : Failure :=
  .ofMessage? .malformedValue fault.message?

/-- The amount that an integer is. -/
def ofInt (n : Int) : Except Fault Amount :=
  if n < 0 then .error (.negative n)
  else if h : n.toNat < Bytes.capacity 32 then .ok ⟨n.toNat, h⟩ else .error .tooWide

/-- ASCII decimal digits, at least one. -/
def isDecimal (t : Text) : Bool :=
  !t.isEmpty && t.all Numeral.isDigit

/-- The most decimal digits of an amount. -/
def maxDigits : Nat :=
  (Decimal.ofNat (Bytes.capacity 32 - 1)).length

/-- The amount of a run of decimal digits. Zeros in front do not count, and what has more digits
than any amount is not converted. -/
def ofDecimal (digits : Text) : Except Fault Amount :=
  let digits := Numeral.unpad 0x30 digits
  if maxDigits < digits.length then .error .tooWide
  else match Numeral.parseInt? .ten digits with
    | some n => ofInt n
    | none => .error .unconvertible

/-- The amount that a literal denotes. -/
def ofLiteral (literal : Text) : Except Fault Amount :=
  let t := literal.trim
  if t.isEmpty then .error .empty
  else if Hex.hasMark t then
    match t.drop 2, Hex.toNat? (t.drop 2) with
    | _ :: _, some n => ofInt n
    | _, _ => .error (.notHex literal)
  else if isDecimal t then ofDecimal t
  else .error (.notNumeral literal)

/-- The amount that a value denotes. -/
def ofDatum : Datum → Except Fault Amount
  | .bool value => .error (.truthValue value)
  | .int n => ofInt n
  | .text literal => ofLiteral literal
  | other => .error (.wrongKind other.kindName)

/-- Reads an amount. -/
def parse (value : Datum) : Outcome Amount :=
  (ofDatum value).mapError Fault.toFailure

/-- The canonical form of an amount. -/
def canonical (amount : Amount) : Text :=
  Hex.ofNat amount.val

/-- The canonical form of what a value denotes. -/
def normalize (value : Datum) : Outcome Text :=
  canonical <$> parse value

/-- The wire form of an amount. -/
def toBytes (amount : Amount) : Bytes :=
  if amount = 0 then [0] else Bytes.ofNat amount.val

/-- The amount of a wire form, with any number of leading zero bytes. -/
def ofBytes (bytes : Bytes) : Except Fault Amount :=
  if bytes.length ≤ maxBytes then .ok (Bytes.truncate 32 bytes.toNat)
  else .error (.tooLong bytes.length)

/-- The wire form of the amount whose canonical form is given. -/
def wireOfCanonical : Datum → Outcome Bytes
  | .text digits => toBytes <$> parse (.text (Hex.mark ++ digits))
  | _ => .error (.misuse (.wrongKind none))

/-- The canonical form of the amount whose wire form is given. -/
def canonicalOfWire (value : Datum) : Outcome Text := do
  let count ← Failure.liftMisuse value.byteCount
  if maxBytes < count then throw (Fault.tooLong count).toFailure
  let bytes ← Failure.liftMisuse value.toBytes
  let amount ← (ofBytes bytes).mapError Fault.toFailure
  return amount.canonical

end Amount

end ChainClient
