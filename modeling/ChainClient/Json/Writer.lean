import ChainClient.Datum.Basic
import ChainClient.Datum.Misuse
import ChainClient.Numeral.Shortest
import ChainClient.Text.Quoted

/-!
# Writing JSON

Data as JSON documents, in the style that the document asks for. Byte strings have no JSON form, and
neither have integers past the digit limit.
-/

namespace ChainClient

namespace Json

/-- The free choices of a written document. -/
structure Style where
  /-- What stands between two items or entries. -/
  betweenItems : Text
  /-- What stands between a key and its value. -/
  betweenKeyAndValue : Text
  /-- Everything outside printable ASCII is escaped. -/
  asciiOnly : Bool

/-- The style of requests: no spaces, and text as it is. -/
def compact : Style := ⟨",", ":", false⟩

/-- A style that is easy on the eye, in ASCII. -/
def spaced : Style := ⟨", ", ": ", true⟩

/-- A numeric escape. -/
def unitEscape (n : Nat) : Text :=
  [0x5C, 0x75] ++ Text.hexWidth 4 n

/-- The numeric escapes of a code point; those past U+FFFF take a surrogate pair. -/
def escape (n : Nat) : Text :=
  if n < 0x10000 then unitEscape n
  else unitEscape (0xD800 + (n - 0x10000) / 0x400) ++ unitEscape (0xDC00 + (n - 0x10000) % 0x400)

/-- The escape by a letter that a code point has. -/
def letterOf? (n : Nat) : Option CodePoint :=
  match n with
  | 0x22 => some 0x22
  | 0x5C => some 0x5C
  | 0x08 => some 0x62
  | 0x0C => some 0x66
  | 0x0A => some 0x6E
  | 0x0D => some 0x72
  | 0x09 => some 0x74
  | _ => none

/-- One code point of a string. -/
def writePoint (asciiOnly : Bool) (c : CodePoint) : Text :=
  match letterOf? c.val with
  | some letter => [0x5C, letter]
  | none =>
    if c.val < 0x20 ∨ (asciiOnly ∧ 0x7E < c.val) then escape c.val else [c]

/-- A string with its quotes. -/
def writeString (asciiOnly : Bool) (t : Text) : Text :=
  [0x22] ++ t.flatMap (writePoint asciiOnly) ++ [0x22]

/-- A binary64 number. -/
def writeBinary64 : Binary64 → Text
  | .nan => "NaN"
  | .infinite false => "Infinity"
  | .infinite true => "-Infinity"
  | x => x.toText

mutual

/-- The document of a datum. -/
def write (style : Style) : Datum → Except Misuse Text
  | .null => .ok "null"
  | .bool true => .ok "true"
  | .bool false => .ok "false"
  | .int n => match Decimal.ofInt? n with
    | some t => .ok t
    | none => .error (.badValue none)
  | .float x => .ok (writeBinary64 x)
  | .text t => .ok (writeString style.asciiOnly t)
  | .bytes _ => .error (.wrongKind none)
  | .list items => match writeItems style items with
    | .ok parts => .ok ([0x5B] ++ style.betweenItems.intercalate parts ++ [0x5D])
    | .error misuse => .error misuse
  | .record entries => match writeEntries style entries with
    | .ok parts => .ok ([0x7B] ++ style.betweenItems.intercalate parts ++ [0x7D])
    | .error misuse => .error misuse

/-- The documents of the items, up to the first that has none. -/
def writeItems (style : Style) : List Datum → Except Misuse (List Text)
  | [] => .ok []
  | item :: items => match write style item with
    | .error misuse => .error misuse
    | .ok t => match writeItems style items with
      | .error misuse => .error misuse
      | .ok rest => .ok (t :: rest)

/-- The entries, each with its key, up to the first whose value has no document. -/
def writeEntries (style : Style) : List (Text × Datum) → Except Misuse (List Text)
  | [] => .ok []
  | (key, value) :: entries => match write style value with
    | .error misuse => .error misuse
    | .ok t => match writeEntries style entries with
      | .error misuse => .error misuse
      | .ok rest =>
        .ok ((writeString style.asciiOnly key ++ style.betweenKeyAndValue ++ t) :: rest)

end

end Json

end ChainClient
