import ChainClient.Json.Reader
import ChainClient.Text.Utf8

/-!
# JSON in bytes

A JSON document that arrives as bytes is UTF-8, UTF-16 or UTF-32: a byte-order mark tells which, and
without one the places of the zero bytes among the first four. Surrogates that do not pair up are
read as they are.
-/

namespace ChainClient

namespace Json

/-- The order of the bytes of a unit. -/
inductive ByteOrder where
  | big
  | little
deriving DecidableEq

/-- How a document is encoded. -/
inductive Encoding where
  | utf8
  | utf16 (order : ByteOrder)
  | utf32 (order : ByteOrder)
deriving DecidableEq

/-- The encoding that the zero bytes at the start of a document without a mark show. -/
def encodingOfZeros : Bytes → Encoding
  | a :: b :: c :: d :: _ =>
    if a = 0 then if b = 0 then .utf32 .big else .utf16 .big
    else if b = 0 then if c = 0 ∧ d = 0 then .utf32 .little else .utf16 .little
    else .utf8
  | [a, b] => if a = 0 then .utf16 .big else if b = 0 then .utf16 .little else .utf8
  | _ => .utf8

/-- The encoding of a document, and its bytes without a mark. -/
def detect (bytes : Bytes) : Encoding × Bytes :=
  if [0x00, 0x00, 0xFE, 0xFF].isPrefixOf bytes then (.utf32 .big, bytes.drop 4)
  else if [0xFF, 0xFE, 0x00, 0x00].isPrefixOf bytes then (.utf32 .little, bytes.drop 4)
  else if [0xFE, 0xFF].isPrefixOf bytes then (.utf16 .big, bytes.drop 2)
  else if [0xFF, 0xFE].isPrefixOf bytes then (.utf16 .little, bytes.drop 2)
  else if [0xEF, 0xBB, 0xBF].isPrefixOf bytes then (.utf8, bytes.drop 3)
  else (encodingOfZeros bytes, bytes)

/-- The number of a unit. -/
def unitValue (order : ByteOrder) (unit : Bytes) : Nat :=
  match order with
  | .big => unit.toNat
  | .little => Bytes.toNatLittle unit

/-- The two-byte units of a byte string of even length. -/
def units16? (order : ByteOrder) : Bytes → Option (List Nat)
  | [] => some []
  | a :: b :: rest => (units16? order rest).map (unitValue order [a, b] :: ·)
  | [_] => none

/-- The four-byte units of a byte string. -/
def units32? (order : ByteOrder) : Bytes → Option (List Nat)
  | [] => some []
  | a :: b :: c :: d :: rest => (units32? order rest).map (unitValue order [a, b, c, d] :: ·)
  | _ => none

/-- The code points of UTF-16 units; surrogates that do not pair up stay. -/
def pairUp : List Nat → Text
  | high :: low :: rest =>
    if 0xD800 ≤ high ∧ high < 0xDC00 ∧ 0xDC00 ≤ low ∧ low < 0xE000 then
      Fin.ofNat 0x110000 (joinSurrogates high low) :: pairUp rest
    else Fin.ofNat 0x110000 high :: pairUp (low :: rest)
  | [unit] => [Fin.ofNat 0x110000 unit]
  | [] => []

/-- The code points of UTF-32 units. -/
def points? : List Nat → Option Text
  | [] => some []
  | unit :: rest =>
    if h : unit < 0x110000 then (points? rest).map (⟨unit, h⟩ :: ·) else none

/-- The text of a document. -/
def decode? (bytes : Bytes) : Option Text :=
  match detect bytes with
  | (.utf8, body) => Utf8.decodeSurrogates? body
  | (.utf16 order, body) => (units16? order body).map pairUp
  | (.utf32 order, body) => (units32? order body).bind points?

/-- The datum of a document in bytes. -/
def parseBytes? (bytes : Bytes) : Option Datum :=
  (decode? bytes).bind parse?

end Json

end ChainClient
