import ChainClient.Bytes
import ChainClient.Text.Basic

/-!
# Hexadecimal text

Byte strings as pairs of hexadecimal digits, with an optional `0x` mark in front. Reading takes
digits of either case and exactly one mark; writing uses small digits.
-/

namespace ChainClient

namespace Hex

/-- The small hexadecimal digit of a value below sixteen. -/
def digit (value : Fin 16) : CodePoint :=
  if value.val < 10 then ⟨0x30 + value.val, by omega⟩ else ⟨0x57 + value.val, by omega⟩

/-- The value of an ASCII hexadecimal digit of either case. -/
def digit? (c : CodePoint) : Option (Fin 16) :=
  if h : 0x30 ≤ c.val ∧ c.val ≤ 0x39 then some ⟨c.val - 0x30, by omega⟩
  else if h : 0x61 ≤ c.val ∧ c.val ≤ 0x66 then some ⟨c.val - 0x57, by omega⟩
  else if h : 0x41 ≤ c.val ∧ c.val ≤ 0x46 then some ⟨c.val - 0x37, by omega⟩
  else none

/-- The letter of the mark, in either case. -/
def isMarkLetter (c : CodePoint) : Bool :=
  c.val == 0x78 || c.val == 0x58

/-- Text that starts with the mark `0x` or `0X`. -/
def hasMark : Text → Bool
  | zero :: letter :: _ => zero.val == 0x30 && isMarkLetter letter
  | _ => false

/-- Text without one leading mark. -/
def stripMark (t : Text) : Text :=
  if hasMark t then t.drop 2 else t

/-- The mark that writing puts in front. -/
def mark : Text := [0x30, 0x78]

/-- Text with exactly one mark in front, in its small spelling. -/
def addMark (t : Text) : Text :=
  mark ++ stripMark t

/-- A possibly empty run of hexadecimal digits, without a mark. -/
def isDigits (t : Text) : Bool :=
  t.all fun c => (digit? c).isSome

/-- The two digits of a byte. -/
def ofByte (byte : UInt8) : Text :=
  [digit ⟨byte.toNat / 16, by have := byte.toNat_lt; omega⟩,
    digit ⟨byte.toNat % 16, Nat.mod_lt _ (by decide)⟩]

/-- The digits of a byte string, two for each byte. -/
def encode (bytes : Bytes) : Text :=
  bytes.flatMap ofByte

/-- The digits of a byte string behind the mark. -/
def encodeMarked (bytes : Bytes) : Text :=
  mark ++ encode bytes

/-- Reads pairs of digits. -/
def decode? : Text → Option Bytes
  | [] => some []
  | high :: low :: rest =>
    match digit? high, digit? low, decode? rest with
    | some h, some l, some bytes => some (UInt8.ofNat (16 * h.val + l.val) :: bytes)
    | _, _, _ => none
  | [_] => none

/-- Why text is not the hexadecimal form of a byte string. -/
inductive Fault where
  /-- The digits do not pair up; holds how many there are. -/
  | oddLength (count : Nat)
  /-- Some code point is no digit; holds the text without its mark. -/
  | notDigits (digits : Text)
deriving DecidableEq

/-- Reads a byte string, with or without the mark. -/
def parse (t : Text) : Except Fault Bytes :=
  let digits := stripMark t
  if digits.length % 2 ≠ 0 then .error (.oddLength digits.length)
  else match decode? digits with
    | some bytes => .ok bytes
    | none => .error (.notDigits digits)

/-- The number that a run of hexadecimal digits denotes, if it is such a run. -/
def toNat? (t : Text) : Option Nat :=
  t.foldl (fun n c => match n, digit? c with
    | some n, some d => some (16 * n + d.val)
    | _, _ => none) (some 0)

/-- The digits of a number, least significant first; `fuel` bounds their count. -/
def digitsLittle : (fuel : Nat) → Nat → Text
  | 0, _ => []
  | fuel + 1, n =>
    if n = 0 then []
    else digit ⟨n % 16, Nat.mod_lt _ (by decide)⟩ :: digitsLittle fuel (n / 16)

/-- The hexadecimal digits of a number, without leading zeros; zero is one digit. -/
def ofNat (n : Nat) : Text :=
  if n = 0 then [0x30] else (digitsLittle (n.log2 / 4 + 1) n).reverse

/-- The hexadecimal digits of an integer, behind a minus sign when it is negative. -/
def ofInt : Int → Text
  | .ofNat n => ofNat n
  | .negSucc n => 0x2D :: ofNat (n + 1)

@[simp] theorem digit?_digit (value : Fin 16) : digit? (digit value) = some value := by
  revert value
  decide

/-- Reading the digits of a byte string gives it back. -/
@[simp] theorem decode?_encode (bytes : Bytes) : decode? (encode bytes) = some bytes := by
  induction bytes with
  | nil => rfl
  | cons byte bytes ih =>
    have split : 16 * (byte.toNat / 16) + byte.toNat % 16 = byte.toNat := by omega
    simp only [encode, List.flatMap_cons, ofByte, List.cons_append, List.nil_append, decode?,
      digit?_digit]
    rw [show List.flatMap ofByte bytes = encode bytes from rfl, ih]
    simp [split]

end Hex

end ChainClient
