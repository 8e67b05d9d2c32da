import ChainClient.Hex
import ChainClient.Numeral.Decimal
import ChainClient.Text.Blank
import ChainClient.Text.DecimalDigit

/-!
# Integer literals

An integer literal is a run of digits in base ten or sixteen. Blanks may stand around it and a sign
in front; single underscores may stand between digits; decimal digits of every script count. In
base sixteen one `0x` mark may follow the sign, and an underscore the mark. A decimal literal has
at most `Decimal.digitLimit` digits, leading zeros included.
-/

namespace ChainClient

/-- The base of an integer literal. -/
inductive Radix where
  | ten
  | sixteen
deriving DecidableEq

namespace Radix

/-- The number the base stands for. -/
def value : Radix → Nat
  | ten => 10
  | sixteen => 16

/-- The value of a digit in this base. -/
def digit? (radix : Radix) (c : CodePoint) : Option Nat :=
  match c.decimalDigit? with
  | some d => some d
  | none => match radix with
    | ten => none
    | sixteen => (Hex.digit? c).map Fin.val

end Radix

namespace Numeral

/-- The underscore that may stand between digits. -/
def separator : CodePoint := 0x5F

/-- The values of a run of digits with single separators between them. -/
def digitRun? (digit? : CodePoint → Option Nat) : Text → Option (List Nat)
  | [] => none
  | [c] => (digit? c).map ([·])
  | c :: d :: rest =>
    match digit? c with
    | none => none
    | some value =>
      if d = separator then (digitRun? digit? rest).map (value :: ·)
      else (digitRun? digit? (d :: rest)).map (value :: ·)

/-- The number that digit values, most significant first, denote. -/
def ofDigits (base : Nat) (digits : List Nat) : Nat :=
  digits.foldl (fun n d => base * n + d) 0

/-- An ASCII digit. -/
def isDigit (c : CodePoint) : Bool :=
  0x30 ≤ c.val && c.val ≤ 0x39

/-- The number that ASCII digits denote. -/
def ofAsciiDigits (t : Text) : Nat :=
  ofDigits 10 (t.map fun c => c.val - 0x30)

/-- Digits without the zeros in front; of zeros alone, one stays. -/
def unpad {α : Type} [DecidableEq α] (zero : α) (digits : List α) : List α :=
  match digits.dropWhile (· = zero) with
  | [] => [zero]
  | significant => significant

/-- Splits off a sign; the flag says whether it was a minus. -/
def splitSign : Text → Bool × Text
  | c :: rest =>
    if c.val = 0x2D then (true, rest) else if c.val = 0x2B then (false, rest) else (false, c :: rest)
  | [] => (false, [])

/-- Text without the mark of base sixteen and the separator that may follow it. The zero of the
mark may be of any script. -/
def stripRadixMark : Text → Text
  | zero :: letter :: rest =>
    if zero.decimalDigit? = some 0 ∧ Hex.isMarkLetter letter then
      match rest with
      | c :: rest => if c = separator then rest else c :: rest
      | [] => []
    else zero :: letter :: rest
  | t => t

/-- The digit values of an unsigned literal, within the limit of its base. -/
def unsignedDigits? (radix : Radix) (t : Text) : Option (List Nat) :=
  match radix with
  | .sixteen => digitRun? radix.digit? (stripRadixMark t)
  | .ten => (digitRun? radix.digit? t).filter fun digits => digits.length ≤ Decimal.digitLimit

/-- The integer that a literal denotes. -/
def parseInt? (radix : Radix) (t : Text) : Option Int :=
  let (negative, body) := splitSign (t.trimBy CodePoint.isNumeralBlank)
  (unsignedDigits? radix body).map fun digits =>
    let n := ofDigits radix.value digits
    if negative then -(n : Int) else n

end Numeral

end ChainClient
