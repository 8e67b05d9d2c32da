import ChainClient.Datum.Basic
import ChainClient.Numeral.Fraction

/-!
# Reading JSON

JSON documents as data. Numbers with a point or an exponent are binary64, all others integers.
Beyond the standard, `NaN`, `Infinity` and `-Infinity` are numbers, escapes may leave lone
surrogates, and of two entries with one key the later value counts. Control characters in strings
and integers past the digit limit are refused.
-/

namespace ChainClient

namespace Json

/-- White space between tokens. -/
def isSpace (c : CodePoint) : Bool :=
  c.val == 0x20 || c.val == 0x09 || c.val == 0x0A || c.val == 0x0D

/-- Text without the white space in front. -/
def skipSpace (t : Text) : Text :=
  t.dropWhile isSpace

/-- Text behind the given word, if it starts with it. -/
def afterWord? (word t : Text) : Option Text :=
  if word.isPrefixOf t then some (t.drop word.length) else none

/-- The number of four hexadecimal digits and the text behind them. -/
def hexQuad? : Text → Option (Nat × Text)
  | a :: b :: c :: d :: rest => (Hex.toNat? [a, b, c, d]).map fun n => (n, rest)
  | _ => none

/-- The code point of a high and a low surrogate. -/
def joinSurrogates (high low : Nat) : Nat :=
  0x10000 + (high - 0xD800) * 0x400 + (low - 0xDC00)

/-- The code point of a numeric escape, with its letter already read, and the text behind it. Two
escapes that form a surrogate pair are one code point. -/
def numericEscape? (t : Text) : Option (CodePoint × Text) :=
  match hexQuad? t with
  | none => none
  | some (first, rest) =>
    let alone := some (Fin.ofNat 0x110000 first, rest)
    if 0xD800 ≤ first ∧ first < 0xDC00 then
      match rest with
      | slash :: letter :: pair =>
        if slash.val = 0x5C ∧ letter.val = 0x75 then
          match hexQuad? pair with
          | some (second, behind) =>
            if 0xDC00 ≤ second ∧ second < 0xE000 then
              some (Fin.ofNat 0x110000 (joinSurrogates first second), behind)
            else alone
          | none => alone
        else alone
      | _ => alone
    else alone

/-- The code point of an escape by a letter. -/
def letterEscape? (letter : CodePoint) : Option CodePoint :=
  match letter.val with
  | 0x22 => some 0x22
  | 0x5C => some 0x5C
  | 0x2F => some 0x2F
  | 0x62 => some 0x08
  | 0x66 => some 0x0C
  | 0x6E => some 0x0A
  | 0x72 => some 0x0D
  | 0x74 => some 0x09
  | _ => none

/-- The rest of a string, with its opening quote already read, and the text behind it. What was
read so far is held in reverse; `fuel` bounds the number of code points. -/
def string? : (fuel : Nat) → (reversed : Text) → Text → Option (Text × Text)
  | 0, _, _ => none
  | _ + 1, _, [] => none
  | fuel + 1, reversed, c :: rest =>
    if c.val = 0x22 then some (reversed.reverse, rest)
    else if c.val = 0x5C then
      match rest with
      | [] => none
      | letter :: rest =>
        if letter.val = 0x75 then
          match numericEscape? rest with
          | some (point, rest) => string? fuel (point :: reversed) rest
          | none => none
        else match letterEscape? letter with
          | some point => string? fuel (point :: reversed) rest
          | none => none
    else if c.val < 0x20 then none
    else string? fuel (c :: reversed) rest

/-- The fraction part of a number and the text behind it; both are empty without a fraction. -/
def fractionPart (t : Text) : Text × Text :=
  match t with
  | point :: rest =>
    let digits := rest.takeWhile Numeral.isDigit
    if point.val = 0x2E ∧ digits ≠ [] then (point :: digits, rest.dropWhile Numeral.isDigit)
    else ([], t)
  | [] => ([], [])

/-- The exponent part of a number and the text behind it. -/
def exponentPart (t : Text) : Text × Text :=
  match t with
  | letter :: rest =>
    let (sign, body) := match rest with
      | c :: body => if c.val = 0x2B ∨ c.val = 0x2D then ([c], body) else ([], c :: body)
      | [] => ([], [])
    let digits := body.takeWhile Numeral.isDigit
    if (letter.val = 0x65 ∨ letter.val = 0x45) ∧ digits ≠ [] then
      (letter :: sign ++ digits, body.dropWhile Numeral.isDigit)
    else ([], t)
  | [] => ([], [])

/-- The whole part of a number: a single zero, or digits that start with another one. -/
def wholePart? (t : Text) : Option (Text × Text) :=
  match t with
  | c :: rest =>
    if c.val = 0x30 then some ([c], rest)
    else if Numeral.isDigit c then some (t.takeWhile Numeral.isDigit, t.dropWhile Numeral.isDigit)
    else none
  | [] => none

/-- A number without its sign, and the text behind it. -/
def unsignedNumber? (negative : Bool) (t : Text) : Option (Datum × Text) :=
  match wholePart? t with
  | none => none
  | some (whole, rest) =>
    let (fraction, rest) := fractionPart rest
    let (exponent, rest) := exponentPart rest
    if fraction = [] ∧ exponent = [] then
      if whole.length ≤ Decimal.digitLimit then
        let n : Int := Numeral.ofAsciiDigits whole
        some (.int (if negative then -n else n), rest)
      else none
    else (Numeral.unsignedFraction? negative (whole ++ fraction ++ exponent)).map fun x =>
      (.float x, rest)

/-- The words that stand for a value, with their values. -/
def words : List (Text × Datum) :=
  [("null", .null), ("true", .bool true), ("false", .bool false), ("NaN", .float .nan),
    ("Infinity", .float (.infinite false)), ("-Infinity", .float (.infinite true))]

/-- A value that is a word or a number, and the text behind it. -/
def atom? (t : Text) : Option (Datum × Text) :=
  match words.findSome? fun (word, value) => (afterWord? word t).map (value, ·) with
  | some found => some found
  | none => match t with
    | c :: rest => if c.val = 0x2D then unsignedNumber? true rest else unsignedNumber? false t
    | [] => none

mutual

/-- A value and the text behind it; `fuel` bounds the number of parts. -/
def value? : (fuel : Nat) → Text → Option (Datum × Text)
  | 0, _ => none
  | _ + 1, [] => none
  | fuel + 1, c :: rest =>
    match c.val with
    | 0x22 => (string? (rest.length + 1) [] rest).map fun (t, rest) => (.text t, rest)
    | 0x5B => match skipSpace rest with
      | [] => none
      | d :: behind =>
        if d.val = 0x5D then some (.list [], behind) else items? fuel [] (d :: behind)
    | 0x7B => match skipSpace rest with
      | [] => none
      | d :: behind =>
        if d.val = 0x7D then some (.record [], behind) else entries? fuel [] (d :: behind)
    | _ => atom? (c :: rest)

/-- The items of a list from the first or next one on, with the bracket that closes it. -/
def items? : (fuel : Nat) → (reversed : List Datum) → Text → Option (Datum × Text)
  | 0, _, _ => none
  | fuel + 1, reversed, t =>
    match value? fuel t with
    | none => none
    | some (item, rest) => match skipSpace rest with
      | [] => none
      | c :: rest =>
        if c.val = 0x5D then some (.list (item :: reversed).reverse, rest)
        else if c.val = 0x2C then items? fuel (item :: reversed) (skipSpace rest)
        else none

/-- The entries of a record from the first or next one on, with the brace that closes it. -/
def entries? : (fuel : Nat) → Entries → Text → Option (Datum × Text)
  | 0, _, _ => none
  | _ + 1, _, [] => none
  | fuel + 1, entries, quote :: t =>
    if quote.val ≠ 0x22 then none
    else match string? (t.length + 1) [] t with
    | none => none
    | some (key, rest) => match skipSpace rest with
      | [] => none
      | colon :: rest =>
        if colon.val ≠ 0x3A then none
        else match value? fuel (skipSpace rest) with
        | none => none
        | some (value, rest) => match skipSpace rest with
          | [] => none
          | c :: rest =>
            let entries := entries.insert key value
            if c.val = 0x7D then some (.record entries, rest)
            else if c.val = 0x2C then entries? fuel entries (skipSpace rest)
            else none

end

/-- The datum of a JSON document. -/
def parse? (t : Text) : Option Datum :=
  match value? (t.length + 1) (skipSpace t) with
  | some (value, rest) => if skipSpace rest = [] then some value else none
  | none => none

end Json

end ChainClient
