import ChainClient.Hex
import ChainClient.Text.Printable

/-!
# Quoted text

The form in which messages show a piece of text or a byte string: between quotes, with everything
that has no printed form escaped.
-/

namespace ChainClient

namespace Text

/-- The quote that encloses text: single, unless the text holds a single quote and no double one. -/
def quoteFor (t : List Nat) : CodePoint :=
  if t.contains 0x27 && !t.contains 0x22 then 0x22 else 0x27

/-- The `width` low hexadecimal digits of a number. -/
def hexWidth : (width : Nat) → Nat → Text
  | 0, _ => []
  | width + 1, n => hexWidth width (n / 16) ++ [Hex.digit ⟨n % 16, Nat.mod_lt _ (by decide)⟩]

/-- The escape of a code point that is not printed: the shortest of the three numeric forms. -/
def numericEscape (n : Nat) : Text :=
  if n < 0x100 then [0x5C, 0x78] ++ hexWidth 2 n
  else if n < 0x10000 then [0x5C, 0x75] ++ hexWidth 4 n
  else [0x5C, 0x55] ++ hexWidth 8 n

/-- The escape by a letter of its own that a backslash, the enclosing quote, a tabulator, a line
feed and a carriage return have. -/
def letterEscape? (quote : CodePoint) (n : Nat) : Option Text :=
  if n == 0x5C then some [0x5C, 0x5C]
  else if n == quote.val then some [0x5C, quote]
  else if n == 0x09 then some [0x5C, 0x74]
  else if n == 0x0A then some [0x5C, 0x6E]
  else if n == 0x0D then some [0x5C, 0x72]
  else none

/-- One code point between quotes. -/
def quotePoint (quote c : CodePoint) : Text :=
  match letterEscape? quote c.val with
  | some escape => escape
  | none => if c.isPrintable then [c] else numericEscape c.val

/-- Text between quotes. -/
def quoted (t : Text) : Text :=
  let quote := quoteFor (t.map Fin.val)
  [quote] ++ t.flatMap (quotePoint quote) ++ [quote]

end Text

namespace Bytes

/-- One byte between quotes: printable ASCII as itself. -/
def quoteByte (quote : CodePoint) (byte : UInt8) : Text :=
  match Text.letterEscape? quote byte.toNat with
  | some escape => escape
  | none =>
    if 0x20 ≤ byte.toNat && byte.toNat ≤ 0x7E then [CodePoint.ofByte byte]
    else Text.numericEscape byte.toNat

/-- A byte string between quotes, behind the letter `b`. -/
def quoted (bytes : Bytes) : Text :=
  let quote := Text.quoteFor (bytes.map UInt8.toNat)
  [0x62, quote] ++ bytes.flatMap (quoteByte quote) ++ [quote]

end Bytes

end ChainClient
