import ChainClient.Datum.Basic
import ChainClient.Datum.Misuse
import ChainClient.Numeral.Fraction
import ChainClient.Numeral.Integer

/-!
# Conversions of data

Data as integers, as binary64 numbers, as byte strings and as sequences, with the misuse that each
conversion reports.
-/

namespace ChainClient

namespace Datum

/-- Bytes of ASCII as text. -/
def asciiText? (bytes : Bytes) : Option Text :=
  if bytes.all fun byte => byte.toNat < 0x80 then
    some (bytes.map CodePoint.ofByte)
  else none

/-- A result, or the misuse of a value of the right kind. -/
def orBadValue : Option α → Except Misuse α
  | some a => .ok a
  | none => .error (.badValue none)

/-- The integer a datum converts to: numbers lose their fraction, text is read in base ten. -/
def toInt : Datum → Except Misuse Int
  | bool value => .ok (if value then 1 else 0)
  | int value => .ok value
  | float (.infinite _) => .error .tooLarge
  | float value => orBadValue value.truncate?
  | text value => orBadValue (Numeral.parseInt? .ten value)
  | bytes value => orBadValue ((asciiText? value).bind (Numeral.parseInt? .ten))
  | _ => .error (.wrongKind none)

/-- The binary64 number of an integer. -/
def binary64OfInt (n : Int) : Except Misuse Binary64 :=
  match Binary64.ofInt? n with
  | some x => .ok x
  | none => .error .tooLarge

/-- The binary64 number a datum converts to. -/
def toBinary64 : Datum → Except Misuse Binary64
  | bool value => binary64OfInt (if value then 1 else 0)
  | int value => binary64OfInt value
  | float value => .ok value
  | text value => orBadValue (Numeral.parseBinary64? value)
  | bytes value => orBadValue ((asciiText? value).bind Numeral.parseBinary64?)
  | _ => .error (.wrongKind none)

/-- The items of a sequence: the items of a list, the code points of text, the bytes of a byte
string, the keys of a record. -/
def toItems : Datum → Except Misuse (List Datum)
  | list items => .ok items
  | text value => .ok (value.map fun c => text [c])
  | bytes value => .ok (value.map fun byte => int byte.toNat)
  | record entries => .ok (entries.map fun entry => text entry.1)
  | _ => .error (.wrongKind none)

/-- The first count of bytes that cannot be held. -/
def memoryBound : Nat := UInt32.size

/-- How many bytes an integer converts to: the integer itself is their count. -/
def zeroCount (count : Int) : Except Misuse Nat :=
  if count < Int64.minValue.toInt ∨ Int64.maxValue.toInt < count then .error .tooLarge
  else if count < 0 then .error (.badValue none)
  else if memoryBound ≤ count then .error .outOfMemory
  else .ok count.toNat

/-- The zeros that an integer converts to. -/
def zeroBytes (count : Int) : Except Misuse Bytes :=
  (List.replicate · 0) <$> zeroCount count

/-- The byte of a list item. -/
def toByte (item : Datum) : Except Misuse UInt8 :=
  match item.integer? with
  | none => .error (.wrongKind none)
  | some n => if 0 ≤ n ∧ n < 256 then .ok (UInt8.ofNat n.toNat) else .error (.badValue none)

/-- The byte string a datum converts to: an integer gives so many zeros, a list its items. -/
def toBytes : Datum → Except Misuse Bytes
  | bytes value => .ok value
  | bool value => zeroBytes (if value then 1 else 0)
  | int value => zeroBytes value
  | list items => items.mapM toByte
  | record entries => if entries.isEmpty then .ok [] else .error (.wrongKind none)
  | _ => .error (.wrongKind none)

/-- How many bytes a datum converts to. -/
def byteCount (d : Datum) : Except Misuse Nat :=
  match d.integer? with
  | some count => zeroCount count
  | none => List.length <$> d.toBytes

end Datum

end ChainClient
