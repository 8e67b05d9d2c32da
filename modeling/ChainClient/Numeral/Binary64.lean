/-!
# Binary64 numbers

The numbers of the IEEE 754 format with 53 significant bits, in exact integer arithmetic. A finite
number is a sign and a *rank*: its place in the order of the magnitudes, zero first. All
magnitudes are whole multiples of the smallest positive one, 2^-1074, so a finite number is an
integer count of that unit.
-/

namespace ChainClient

/-- How many magnitudes have the same exponent. -/
abbrev Binary64.binade : Nat := 1 <<< 52

/-- How many finite magnitudes there are. -/
abbrev Binary64.rankCount : Nat := 2047 * binade

/-- A binary64 number. All numbers that are not a number are one. -/
inductive Binary64 where
  | finite (negative : Bool) (rank : Fin Binary64.rankCount)
  | infinite (negative : Bool)
  | nan
deriving DecidableEq

namespace Binary64

/-- The power of two that divides the unit count of a rank, above the subnormal range. -/
def rankScale (rank : Nat) : Nat :=
  rank / binade - 1

/-- How many units of 2^-1074 the magnitude of a rank is. -/
def rankUnits (rank : Nat) : Nat :=
  (rank - rankScale rank * binade) <<< rankScale rank

/-- The unit count of a finite number. -/
def units? : Binary64 → Option Int
  | .finite negative rank =>
    let units : Int := rankUnits rank.val
    some (if negative then -units else units)
  | _ => none

/-- How many units the number one is. -/
def unitsPerOne : Nat := 1 <<< 1074

/-- The quotient rounded to the nearest integer, halves to the even neighbour. -/
def roundDiv (num den : Nat) : Nat :=
  let quotient := num / den
  let remainder := num % den
  if 2 * remainder < den then quotient
  else if den < 2 * remainder then quotient + 1
  else if quotient % 2 = 0 then quotient else quotient + 1

/-- The rank of the magnitude nearest to the ratio, halves to the even rank. It may be past the
last finite one. -/
def nearestRank (num den : Nat) : Nat :=
  let scaled := num * unitsPerOne
  let scale := (scaled / den).log2 - 52
  scale * binade + roundDiv scaled (den <<< scale)

/-- The number of a sign and a rank; ranks past the last finite one are infinite. -/
def ofRank (negative : Bool) (rank : Nat) : Binary64 :=
  if h : rank < rankCount then .finite negative ⟨rank, h⟩ else .infinite negative

/-- The number nearest to a ratio of naturals. -/
def ofRatio (negative : Bool) (num den : Nat) : Binary64 :=
  ofRank negative (nearestRank num den)

/-- The number of decimal digits of a natural number; zero has none. `fuel` bounds the count. -/
def digitCount : (fuel : Nat) → Nat → Nat
  | 0, _ => 0
  | fuel + 1, n => if n = 0 then 0 else digitCount fuel (n / 10) + 1

/-- The number nearest to `digits * 10 ^ exponent`. Exponents far outside the format's range are
decided by the place of the first digit alone. -/
def ofDecimal (negative : Bool) (digits : Nat) (exponent : Int) : Binary64 :=
  let place := digitCount (digits.log2 + 1) digits + exponent
  if digits = 0 then .finite negative 0
  else if 310 < place then .infinite negative
  else if place < -330 then .finite negative 0
  else match exponent with
    | .ofNat e => ofRatio negative (digits * Nat.pow 10 e) 1
    | .negSucc e => ofRatio negative digits (Nat.pow 10 (e + 1))

/-- The number nearest to an integer, unless the integer is beyond the finite range. -/
def ofInt? (n : Int) : Option Binary64 :=
  match ofRatio (n < 0) n.natAbs 1 with
  | .finite negative rank => some (.finite negative rank)
  | _ => none

/-- Every number but the two zeros is true. -/
def isTruthy : Binary64 → Bool
  | .finite _ rank => rank.val ≠ 0
  | _ => true

/-- The integer part of a finite number. -/
def truncate? (x : Binary64) : Option Int :=
  x.units?.map fun units => Int.tdiv units unitsPerOne

/-- Numeric equality: the two zeros are equal, and what is not a number equals nothing. -/
def equals : Binary64 → Binary64 → Bool
  | .infinite a, .infinite b => a == b
  | x, y => match x.units?, y.units? with
    | some a, some b => a == b
    | _, _ => false

/-- Numeric equality with an integer. -/
def equalsInt (x : Binary64) (n : Int) : Bool :=
  x.units? == some (n * unitsPerOne)

/-- Less than an integer. What is not a number is not. -/
def isBelow (x : Binary64) (n : Int) : Bool :=
  match x with
  | .infinite negative => negative
  | x => match x.units? with
    | some units => units < n * unitsPerOne
    | none => false

end Binary64

end ChainClient
