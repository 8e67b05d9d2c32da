import ChainClient.Bytes
import ChainClient.Text.Basic

/-!
# UTF-8

Text as bytes and bytes as text. Writing refuses lone surrogates. Reading comes in three
strengths: strict, tolerant of encoded surrogates, and lossy, which puts U+FFFD for each maximal
run of bytes that starts a form and does not finish it.
-/

namespace ChainClient

namespace Utf8

/-- A continuation byte with the six low bits of `n`. -/
def continuation (n : Nat) : UInt8 :=
  UInt8.ofNat (0x80 + n % 64)

/-- The bytes of one code point, by the general scheme that has a form for surrogates too. -/
def encodePoint (c : CodePoint) : Bytes :=
  let n := c.val
  if n < 0x80 then [UInt8.ofNat n]
  else if n < 0x800 then [UInt8.ofNat (0xC0 + n / 64), continuation n]
  else if n < 0x10000 then [UInt8.ofNat (0xE0 + n / 4096), continuation (n / 64), continuation n]
  else [UInt8.ofNat (0xF0 + n / 262144), continuation (n / 4096), continuation (n / 64),
    continuation n]

/-- The bytes of text, unless it holds a lone surrogate. -/
def encode? (t : Text) : Option Bytes :=
  if t.IsScalar then some (t.flatMap encodePoint) else none

/-- Which surrogates the reader takes. -/
inductive Surrogates where
  | refused
  | taken
deriving DecidableEq

/-- What a lead byte promises: how many continuation bytes follow, the range of the first of them,
and the bits the lead byte itself brings. -/
structure Lead where
  count : Nat
  low : Nat
  high : Nat
  bits : Nat

/-- The promise of a lead byte. The ranges shut out overlong forms, code points above the last one
and, when they are refused, surrogates. -/
def lead? (surrogates : Surrogates) (byte : UInt8) : Option Lead :=
  let n := byte.toNat
  if n < 0x80 then some ⟨0, 0x80, 0xBF, n⟩
  else if n < 0xC2 then none
  else if n < 0xE0 then some ⟨1, 0x80, 0xBF, n - 0xC0⟩
  else if n < 0xF0 then
    let low := if n = 0xE0 then 0xA0 else 0x80
    let high := if n = 0xED ∧ surrogates = .refused then 0x9F else 0xBF
    some ⟨2, low, high, n - 0xE0⟩
  else if n < 0xF5 then
    let low := if n = 0xF0 then 0x90 else 0x80
    let high := if n = 0xF4 then 0x8F else 0xBF
    some ⟨3, low, high, n - 0xF0⟩
  else none

/-- The outcome of reading continuation bytes: the finished value, or how many bytes fitted. -/
inductive Tail where
  | complete (value : Nat) (rest : Bytes)
  | broken (fitted : Nat)

/-- Reads `count` continuation bytes, the first of them in the given range. -/
def readTail (low high : Nat) (value : Nat) : (count : Nat) → Bytes → (fitted : Nat) → Tail
  | 0, rest, _ => .complete value rest
  | count + 1, byte :: rest, fitted =>
    if low ≤ byte.toNat ∧ byte.toNat ≤ high then
      readTail 0x80 0xBF (value * 64 + (byte.toNat - 0x80)) count rest (fitted + 1)
    else .broken fitted
  | _ + 1, [], fitted => .broken fitted

/-- The first code point of a byte string and the bytes behind it, or the count of bytes that a
replacement character stands for. -/
def step (surrogates : Surrogates) (byte : UInt8) (rest : Bytes) :
    Except Nat (CodePoint × Bytes) :=
  match lead? surrogates byte with
  | none => .error 1
  | some lead =>
    match readTail lead.low lead.high lead.bits lead.count rest 0 with
    | .complete value rest =>
      if h : value < 0x110000 then .ok (⟨value, h⟩, rest) else .error 1
    | .broken fitted => .error (fitted + 1)

/-- Reads at most `fuel` code points, all of them well formed. -/
def decodeWith (surrogates : Surrogates) : (fuel : Nat) → Bytes → Option Text
  | _, [] => some []
  | 0, _ :: _ => none
  | fuel + 1, byte :: rest =>
    match step surrogates byte rest with
    | .ok (c, rest) => (decodeWith surrogates fuel rest).map (c :: ·)
    | .error _ => none

/-- The text of well-formed UTF-8. -/
def decode? (bytes : Bytes) : Option Text :=
  decodeWith .refused bytes.length bytes

/-- The text of UTF-8 in which surrogates may stand in their three-byte form. -/
def decodeSurrogates? (bytes : Bytes) : Option Text :=
  decodeWith .taken bytes.length bytes

/-- The replacement character. -/
def replacement : CodePoint := 0xFFFD

/-- Reads at most `fuel` code points, with a replacement for each ill-formed part. -/
def decodeLossyWith : (fuel : Nat) → Bytes → Text
  | _, [] => []
  | 0, _ :: _ => []
  | fuel + 1, byte :: rest =>
    match step .refused byte rest with
    | .ok (c, rest) => c :: decodeLossyWith fuel rest
    | .error skipped => replacement :: decodeLossyWith fuel (rest.drop (skipped - 1))

/-- The text of any bytes. -/
def decodeLossy (bytes : Bytes) : Text :=
  decodeLossyWith bytes.length bytes

end Utf8

end ChainClient
