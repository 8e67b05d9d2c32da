import ChainClient.Text.Basic

/-!
# Decimal digits of integers

Integers as decimal text. Text of a message never holds an integer of more than `digitLimit`
digits; such an integer has no written form.
-/

namespace ChainClient

namespace Decimal

/-- The ASCII digit of a value below ten. -/
def digit (value : Fin 10) : CodePoint :=
  ⟨0x30 + value.val, by omega⟩

/-- The digits of a number, least significant first; `fuel` bounds their count. -/
def digitsLittle : (fuel : Nat) → Nat → Text
  | 0, _ => []
  | fuel + 1, n =>
    if n = 0 then []
    else digit ⟨n % 10, Nat.mod_lt _ (by decide)⟩ :: digitsLittle fuel (n / 10)

/-- The decimal digits of a number, without leading zeros; zero is one digit. -/
def ofNat (n : Nat) : Text :=
  if n = 0 then [0x30] else (digitsLittle (n.log2 + 1) n).reverse

/-- The decimal digits of an integer, behind a minus sign when it is negative. -/
def ofInt : Int → Text
  | .ofNat n => ofNat n
  | .negSucc n => 0x2D :: ofNat (n + 1)

/-- The most decimal digits that an integer in a message, or a decimal literal, may have. -/
def digitLimit : Nat := 4300

/-- An integer that has at most `digitLimit` digits. -/
def IsWritable (n : Int) : Prop :=
  n.natAbs < Nat.pow 10 digitLimit

instance : DecidablePred IsWritable := fun _ => inferInstanceAs (Decidable (_ < _))

/-- The decimal text of an integer, if it is within the limit. -/
def ofInt? (n : Int) : Option Text :=
  if IsWritable n then some (ofInt n) else none

end Decimal

end ChainClient
