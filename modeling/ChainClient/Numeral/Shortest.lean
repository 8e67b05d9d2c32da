import ChainClient.Numeral.Binary64
import ChainClient.Numeral.Decimal

/-!
# Shortest decimal text of binary64 numbers

A finite number is written with the fewest decimal digits that read back as the same number, and of
those the nearest to it. Magnitudes from 10^-4 up to 10^16 are written positionally, with at least
one digit behind the point; all others with an exponent of at least two digits and its sign.
-/

namespace ChainClient

namespace Binary64

/-- A decimal number `digits * 10 ^ exponent`. -/
structure Decimal where
  digits : Nat
  exponent : Int
deriving DecidableEq

/-- The place of the first decimal digit of a magnitude of `units`: zero for the units' digit. -/
def leadingPlace (units : Nat) : Int :=
  let scaled := units * Nat.pow 10 340 / unitsPerOne
  (digitCount (scaled.log2 + 1) scaled : Int) - 341

/-- The decimal reads back as the rank. -/
def readsBack (rank : Nat) (d : Decimal) : Bool :=
  match d.exponent with
  | .ofNat e => nearestRank (d.digits * Nat.pow 10 e) 1 == rank
  | .negSucc e => nearestRank d.digits (Nat.pow 10 (e + 1)) == rank

/-- The two decimals with the given last place that enclose a magnitude, the nearer one first. -/
def neighbours (units : Nat) (exponent : Int) : Decimal × Decimal :=
  let (num, den) := match exponent with
    | .ofNat e => (units, unitsPerOne * Nat.pow 10 e)
    | .negSucc e => (units * Nat.pow 10 (e + 1), unitsPerOne)
  let below : Decimal := ⟨num / den, exponent⟩
  let above : Decimal := ⟨num / den + 1, exponent⟩
  if roundDiv num den = num / den then (below, above) else (above, below)

/-- Looks for a decimal that reads back on the grids with ever more digits. -/
def searchGrids (rank : Nat) (place : Int) : (more : Nat) → (count : Nat) → Decimal
  | 0, count => (neighbours (rankUnits rank) (place - count)).1
  | more + 1, count =>
    let (nearer, farther) := neighbours (rankUnits rank) (place - count)
    if readsBack rank nearer then nearer
    else if readsBack rank farther then farther
    else searchGrids rank place more (count + 1)

/-- Seventeen digits always suffice. -/
def shortest (rank : Nat) : Decimal :=
  searchGrids rank (leadingPlace (rankUnits rank)) 16 0

/-- How decimal digits are laid out as text. -/
structure Layout where
  /-- The least exponent of the first digit that is written positionally. -/
  positionalFrom : Int
  /-- The least exponent above those that are written positionally. -/
  positionalBelow : Int
  /-- The least count of digits of a written exponent. -/
  exponentDigits : Nat

/-- The layout of every number in messages and documents. -/
def layout : Layout := ⟨-4, 16, 2⟩

/-- Text without the zeros at its end. -/
def dropTrailingZeros (t : Text) : Text :=
  (t.reverse.dropWhile fun c => c.val = 0x30).reverse

/-- `count` digits zero. -/
def zeros (count : Nat) : Text :=
  List.replicate count 0x30

/-- The digits with the point behind the first `point` of them. -/
def positional (digits : Text) (point : Int) : Text :=
  if point ≤ 0 then [0x30, 0x2E] ++ zeros (-point).toNat ++ digits
  else if digits.length ≤ point.toNat then
    digits ++ zeros (point.toNat - digits.length) ++ [0x2E, 0x30]
  else digits.take point.toNat ++ [0x2E] ++ digits.drop point.toNat

/-- The digits with the point behind the first one, and an exponent. -/
def scientific (minDigits : Nat) (digits : Text) (exponent : Int) : Text :=
  let fraction := match digits.drop 1 with
    | [] => []
    | rest => 0x2E :: rest
  let magnitude := Decimal.ofNat exponent.natAbs
  digits.take 1 ++ fraction ++ [0x65, if exponent < 0 then 0x2D else 0x2B] ++
    zeros (minDigits - magnitude.length) ++ magnitude

/-- The text of a positive magnitude. -/
def Layout.magnitude (l : Layout) (d : Decimal) : Text :=
  let all := ChainClient.Decimal.ofNat d.digits
  let digits := dropTrailingZeros all
  let exponent := (all.length : Int) + d.exponent - 1
  if l.positionalFrom ≤ exponent ∧ exponent < l.positionalBelow then
    positional digits (exponent + 1)
  else scientific l.exponentDigits digits exponent

/-- The text of a number. -/
def toText : Binary64 → Text
  | .finite negative rank =>
    (if negative then [0x2D] else []) ++
      if rank.val = 0 then [0x30, 0x2E, 0x30] else layout.magnitude (shortest rank.val)
  | .infinite negative => (if negative then [0x2D] else []) ++ [0x69, 0x6E, 0x66]
  | .nan => [0x6E, 0x61, 0x6E]

end Binary64

end ChainClient
