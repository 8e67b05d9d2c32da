/-!
# Modular arithmetic and repeated doubling

Powers and inverses in a prime field, and multiples of a group element, by repeated doubling over
the bits of the count.
-/

namespace ChainClient

namespace Curve

/-- The bits of a number, most significant first. -/
def bitsOf (n : Nat) : List Bool :=
  ((List.range (n.log2 + 1)).map n.testBit).reverse

/-- The sum of `count` times the element, by doubling and adding. -/
def multiple {P : Type} (zero : P) (double : P → P) (add : P → P → P) (count : Nat) (element : P) :
    P :=
  (bitsOf count).foldl (fun sum bit => if bit then add (double sum) element else double sum) zero

/-- A power of a residue. -/
def power {p : Nat} (x : Fin p) (exponent : Nat) : Fin p :=
  multiple ⟨1 % p, Nat.mod_lt _ x.pos⟩ (fun y => y * y) (· * ·) exponent x

/-- The inverse of a residue of a prime modulus; zero is its own. -/
def inverse {p : Nat} (x : Fin p) : Fin p :=
  power x (p - 2)

end Curve

end ChainClient
