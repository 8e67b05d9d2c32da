import ChainClient.Numeral.Binary64
import ChainClient.Numeral.Integer

/-!
# Literals of binary64 numbers

A literal is a sign, digits with a point among them, and an exponent, each part optional as long as
one digit is there; or `inf`, `infinity` or `nan` in any case. Blanks, separators and digits of
every script are treated as in integer literals.
-/

namespace ChainClient

namespace Numeral

/-- Digits of every script in their ASCII form. -/
def asciiDigits (t : Text) : Text :=
  t.map fun c => match c.decimalDigit? with
    | some d => if h : d < 10 then Decimal.digit ⟨d, h⟩ else c
    | none => c

/-- Removes separators, each of which has to stand between two digits. -/
def removeSeparators? (afterDigit : Bool) : Text → Option Text
  | [] => some []
  | c :: rest =>
    if c = separator then
      match rest with
      | d :: rest =>
        if afterDigit && isDigit d then (removeSeparators? true rest).map (d :: ·) else none
      | [] => none
    else (removeSeparators? (isDigit c) rest).map (c :: ·)

/-- The value of an exponent part, with the letter already read. -/
def exponent? (t : Text) : Option Int :=
  let (negative, digits) := splitSign t
  if digits ≠ [] ∧ digits.all isDigit then
    let n := ofAsciiDigits digits
    some (if negative then -(n : Int) else n)
  else none

/-- The number of an unsigned literal with ASCII digits only. -/
def unsignedFraction? (negative : Bool) (t : Text) : Option Binary64 :=
  let whole := t.takeWhile isDigit
  let rest := t.dropWhile isDigit
  let (places, rest) := match rest with
    | c :: rest =>
      if c.val = 0x2E then (rest.takeWhile isDigit, rest.dropWhile isDigit) else ([], c :: rest)
    | [] => ([], [])
  let exponent := match rest with
    | [] => some 0
    | c :: rest => if c.val = 0x65 ∨ c.val = 0x45 then exponent? rest else none
  match whole ++ places, exponent with
  | [], _ => none
  | _, none => none
  | digits, some e => some (.ofDecimal negative (ofAsciiDigits digits) (e - places.length))

/-- The number that a literal denotes. -/
def parseBinary64? (t : Text) : Option Binary64 := do
  let body ← removeSeparators? false (asciiDigits (t.trimBy CodePoint.isNumeralBlank))
  let (negative, body) := splitSign body
  let word := body.toLower
  if word = Text.ofString "inf" ∨ word = Text.ofString "infinity" then some (.infinite negative)
  else if word = Text.ofString "nan" then some .nan
  else unsignedFraction? negative body

end Numeral

end ChainClient
