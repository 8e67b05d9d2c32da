import ChainClient.Curve.Modular
import Mathlib.Algebra.Group.TypeTags.Basic
import Mathlib.Data.Nat.Bitwise
import Mathlib.Data.ZMod.Defs
import Mathlib.Tactic.Ring

/-!
# Repeated doubling

The bits of a number, taken from the highest one on, make up the number again. So doubling and
adding along the bits gives the multiple, in every representation that follows the doubling and
the adding. A power is a multiple of this kind.
-/

namespace ChainClient
namespace Curve

/-! ## Bits -/

/-- Bits behind a number, the highest one first, make it so much larger. -/
theorem foldl_bits
    (n width start : Nat) :
    ((List.range width).map n.testBit).reverse.foldl (fun sum bit => 2 * sum + bit.toNat) start =
      start * 2 ^ width + n % 2 ^ width := by
  induction width generalizing start with
  | zero => simp [Nat.mod_one]
  | succ width inductionHypothesis =>
      rw [List.range_succ, List.map_append, List.reverse_append, List.foldl_append]
      simp only [List.map_cons, List.map_nil, List.reverse_singleton, List.foldl_cons,
        List.foldl_nil, inductionHypothesis]
      rw [Nat.mod_pow_succ, Nat.toNat_testBit]
      ring

/-- The bits of a number make up the number. -/
theorem foldl_bitsOf (n : Nat) :
    (bitsOf n).foldl (fun sum bit => 2 * sum + bit.toNat) 0 = n := by
  rw [bitsOf, foldl_bits, Nat.zero_mul, Nat.zero_add]
  exact Nat.mod_eq_of_lt Nat.lt_log2_self

/-! ## Multiples -/

/-- What stands for the sums of a group element as doubling and adding require stands for its
multiples. -/
theorem stands_multiple
    {P A : Type}
    [AddMonoid A]
    (stands : P → A → Prop)
    {zero element : P}
    {double : P → P}
    {add : P → P → P}
    {a : A}
    (none : stands zero 0)
    (doubled : ∀ sum total, stands sum total → stands (double sum) (total + total))
    (added : ∀ sum total, stands sum total → stands (add sum element) (total + a))
    (count : Nat) :
    stands (multiple zero double add count element) (count • a) := by
  have along : ∀ (bits : List Bool) (sum : P) (start : Nat), stands sum (start • a) →
      stands (bits.foldl (fun sum bit => if bit then add (double sum) element else double sum) sum)
        (bits.foldl (fun sum bit => 2 * sum + bit.toNat) start • a) := by
    intro bits
    induction bits with
    | nil => exact fun _ _ stood => stood
    | cons bit bits inductionHypothesis =>
        intro sum start stood
        have twice := doubled sum _ stood
        rw [← add_nsmul, ← Nat.two_mul] at twice
        apply inductionHypothesis
        cases bit with
        | false => exact twice
        | true =>
            have once := added _ _ twice
            rwa [← succ_nsmul] at once
  have all := along (bitsOf count) zero 0 (by rwa [zero_nsmul])
  rwa [foldl_bitsOf] at all

open Fin.CommRing in
/-- Powers by repeated squaring are powers. -/
theorem power_eq_pow
    {p : Nat}
    [NeZero p]
    (x : Fin p)
    (exponent : Nat) :
    power x exponent = x ^ exponent := by
  have stood : power x exponent =
      Additive.toMul (exponent • Additive.ofMul x) := by
    refine stands_multiple (fun y a => y = Additive.toMul a) ?_ ?_ ?_ exponent
    · exact Fin.ext rfl
    · rintro _ total rfl
      rfl
    · rintro _ total rfl
      rfl
  exact stood

end Curve
end ChainClient
