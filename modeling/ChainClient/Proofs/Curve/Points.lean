import ChainClient.Proofs.Curve.Primality
import Mathlib.AlgebraicGeometry.EllipticCurve.Affine.Point
import Mathlib.Tactic.FieldSimp
import Mathlib.Tactic.LinearCombination

/-!
# The group of secp256k1

Points in Jacobian coordinates stand for points of the Weierstrass curve `y² = x³ + 7`. Doubling and
adding them follows the group law, so multiples by doubling and adding are multiples. The generator
has prime order, and so no private key has the neutral point for its public key.
-/

namespace ChainClient
namespace Curve

open Fin.CommRing

/-- By Fermat's little theorem a power is the inverse of a residue of a prime. -/
theorem mul_inverse
    {p : Nat}
    [NeZero p]
    (prime : p.Prime)
    {x : Fin p}
    (nonzero : x ≠ 0) :
    x * inverse x = 1 := by
  have : Fact p.Prime := ⟨prime⟩
  have moved : ZMod.finEquiv p x ≠ 0 := by
    rwa [Ne, EmbeddingLike.map_eq_zero_iff]
  have exponent : p - 1 = p - 2 + 1 := by
    have := prime.two_le
    omega
  apply (ZMod.finEquiv p).injective
  rw [inverse, power_eq_pow, ← pow_succ', ← exponent, map_pow, map_one]
  exact ZMod.pow_card_sub_one_eq_one moved

namespace Secp256k1

scoped instance : NeZero fieldModulus := ⟨prime_fieldModulus.ne_zero⟩

theorem isUnit_or_eq_zero (x : Element) :
    IsUnit x ∨ x = 0 := by
  by_cases zero : x = 0
  · exact .inr zero
  · exact .inl (.of_mul_eq_one _ (mul_inverse prime_fieldModulus zero))

/-- The field over which the curve is. -/
noncomputable scoped instance : Field Element :=
  Field.ofIsUnitOrEqZero isUnit_or_eq_zero

/-- The curve `y² = x³ + 7`. -/
def curve : WeierstrassCurve.Affine Element where
  a₁ := 0
  a₂ := 0
  a₃ := 0
  a₄ := 0
  a₆ := 7

theorem equation_iff
    {x y : Element} :
    curve.Equation x y ↔ y * y = curveSquare x := by
  rw [WeierstrassCurve.Affine.equation_iff, curveSquare]
  simp only [curve]
  constructor
  · intro equal
    linear_combination equal
  · intro equal
    linear_combination equal

theorem discriminant_ne_zero :
    curve.Δ ≠ 0 := by
  decide +kernel

/-- All points of the curve are smooth. -/
theorem nonsingular_iff
    {x y : Element} :
    curve.Nonsingular x y ↔ y * y = curveSquare x := by
  rw [← WeierstrassCurve.Affine.equation_iff_nonsingular_of_Δ_ne_zero discriminant_ne_zero,
    equation_iff]

/-- Jacobian coordinates stand for a point of the curve. -/
inductive StandsFor : Point → curve.Point → Prop
  | neutral
      {q : Point} :
      q.z = 0 →
      StandsFor q 0
  | affine
      {q : Point}
      {x y : Element}
      (onCurve : curve.Nonsingular x y) :
      q.z ≠ 0 →
      q.x = x * q.z ^ 2 →
      q.y = y * q.z ^ 3 →
      StandsFor q (.some x y onCurve)

theorem negY_eq
    (x y : Element) :
    curve.negY x y = -y := by
  simp [WeierstrassCurve.Affine.negY, curve]

theorem addX_eq
    (x₁ x₂ slope : Element) :
    curve.addX x₁ x₂ slope = slope ^ 2 - x₁ - x₂ := by
  simp [WeierstrassCurve.Affine.addX, curve]

theorem addY_eq
    (x₁ x₂ y₁ slope : Element) :
    curve.addY x₁ x₂ y₁ slope = slope * (x₁ - curve.addX x₁ x₂ slope) - y₁ := by
  rw [WeierstrassCurve.Affine.addY, negY_eq, WeierstrassCurve.Affine.negAddY]
  ring

/-- Only a zero is its own opposite. -/
theorem ne_negY
    {x y : Element}
    (steep : y ≠ 0) :
    y ≠ curve.negY x y := by
  rw [negY_eq]
  intro same
  have twice : 2 * y = 0 := by linear_combination same
  have two : (2 : Element) ≠ 0 := by decide
  exact (mul_ne_zero two steep) twice

/-- The slope of the tangent at a point that is not its own opposite. -/
theorem slope_tangent
    {x y : Element}
    (steep : y ≠ 0) :
    curve.slope x x y y * (2 * y) = 3 * x ^ 2 := by
  have two : (2 : Element) ≠ 0 := by decide
  have nonzero : 2 * y ≠ 0 := mul_ne_zero two steep
  rw [WeierstrassCurve.Affine.slope_of_Y_ne rfl (ne_negY steep), negY_eq]
  have twice : y - -y = 2 * y := by ring
  rw [twice, div_mul_cancel₀ _ nonzero]
  simp only [curve]
  ring

/-- The slope of the line through points with different abscissas. -/
theorem slope_chord
    {x₁ x₂ y₁ y₂ : Element}
    (apart : x₁ ≠ x₂) :
    curve.slope x₁ x₂ y₁ y₂ * (x₁ - x₂) = y₁ - y₂ := by
  rw [WeierstrassCurve.Affine.slope_of_X_ne apart]
  exact div_mul_cancel₀ _ (sub_ne_zero.mpr apart)

/-- Doubling stands for doubling. -/
theorem StandsFor.double
    {q : Point}
    {a : curve.Point}
    (stands : StandsFor q a) :
    StandsFor q.double (a + a) := by
  cases stands with
  | neutral zero =>
      rw [add_zero]
      exact .neutral (by simp [Point.double, zero])
  | @affine x y onCurve nonzero xEq yEq =>
      by_cases flat : y = 0
      · have same : y = curve.negY x y := by rw [negY_eq, flat, neg_zero]
        rw [WeierstrassCurve.Affine.Point.add_self_of_Y_eq same]
        refine .neutral ?_
        simp [Point.double, yEq, flat]
      · have slope := @slope_tangent x y flat
        rw [WeierstrassCurve.Affine.Point.add_self_of_Y_ne (ne_negY flat)]
        refine .affine _ ?_ ?_ ?_
        · have two : (2 : Element) ≠ 0 := by decide
          simp only [Point.double, yEq]
          exact mul_ne_zero (mul_ne_zero two (mul_ne_zero flat (pow_ne_zero 3 nonzero))) nonzero
        · rw [addX_eq]
          simp only [Point.double, xEq, yEq]
          generalize curve.slope x x y y = ℓ at slope
          linear_combination (-q.z ^ 8 * (ℓ * (2 * y) + 3 * x ^ 2)) * slope
        · rw [addY_eq, addX_eq]
          simp only [Point.double, xEq, yEq]
          generalize curve.slope x x y y = ℓ at slope
          linear_combination (-q.z ^ 12 * (12 * x * y ^ 2 - (9 * x ^ 4 + 3 * x ^ 2 * (ℓ * (2 * y)) +
            (ℓ * (2 * y)) ^ 2))) * slope

section

variable {a b : Point} {x₁ y₁ x₂ y₂ : Element}

/-- The difference of two abscissas, as adding works it out. -/
theorem sub_abscissas
    (xEq : a.x = x₁ * a.z ^ 2)
    (otherXEq : b.x = x₂ * b.z ^ 2) :
    b.x * (a.z * a.z) - a.x * (b.z * b.z) = (x₂ - x₁) * (a.z * b.z) ^ 2 := by
  rw [xEq, otherXEq]
  ring

/-- The difference of two ordinates, as adding works it out. -/
theorem sub_ordinates
    (yEq : a.y = y₁ * a.z ^ 3)
    (otherYEq : b.y = y₂ * b.z ^ 3) :
    b.y * (a.z * a.z) * a.z - a.y * (b.z * b.z) * b.z = (y₂ - y₁) * (a.z * b.z) ^ 3 := by
  rw [yEq, otherYEq]
  ring

end

/-- The sum of two points with different abscissas stands for their sum. -/
theorem StandsFor.add_of_ne
    {q r : Point}
    {x₁ y₁ x₂ y₂ : Element}
    {onCurve : curve.Nonsingular x₁ y₁}
    {otherOnCurve : curve.Nonsingular x₂ y₂}
    (apart : x₁ ≠ x₂)
    (nonzero : q.z ≠ 0)
    (xEq : q.x = x₁ * q.z ^ 2)
    (yEq : q.y = y₁ * q.z ^ 3)
    (otherNonzero : r.z ≠ 0)
    (otherXEq : r.x = x₂ * r.z ^ 2)
    (otherYEq : r.y = y₂ * r.z ^ 3) :
    StandsFor (q.add r) (.some x₁ y₁ onCurve + .some x₂ y₂ otherOnCurve) := by
  have slope := @slope_chord x₁ x₂ y₁ y₂ apart
  have h := sub_abscissas xEq otherXEq
  have distance : (x₂ - x₁) * (q.z * r.z) ^ 2 ≠ 0 :=
    mul_ne_zero (sub_ne_zero.mpr apart.symm) (pow_ne_zero 2 (mul_ne_zero nonzero otherNonzero))
  rw [WeierstrassCurve.Affine.Point.add_of_X_ne apart]
  have sum : q.add r =
      let h := (x₂ - x₁) * (q.z * r.z) ^ 2
      let k := (y₂ - y₁) * (q.z * r.z) ^ 3
      let v := q.x * (r.z * r.z) * (h * h)
      let x := k * k - h * h * h - 2 * v
      ⟨x, k * (v - x) - q.y * (r.z * r.z) * r.z * (h * h) * h, h * q.z * r.z⟩ := by
    simp only [Point.add, if_neg nonzero, if_neg otherNonzero, h, if_neg distance,
      sub_ordinates yEq otherYEq]
  rw [sum]
  refine .affine _ ?_ ?_ ?_
  · exact mul_ne_zero (mul_ne_zero distance nonzero) otherNonzero
  · rw [addX_eq]
    simp only [xEq]
    generalize curve.slope x₁ x₂ y₁ y₂ = ℓ at slope
    linear_combination ((q.z * r.z) ^ 6 * (ℓ * (x₂ - x₁) + (y₂ - y₁))) * slope
  · rw [addY_eq, addX_eq]
    simp only [xEq, yEq]
    generalize curve.slope x₁ x₂ y₁ y₂ = ℓ at slope
    linear_combination ((q.z * r.z) ^ 9 * ((x₂ - x₁) ^ 2 * (2 * x₁ + x₂) -
      ((y₂ - y₁) ^ 2 + (y₂ - y₁) * (ℓ * (x₂ - x₁)) + (ℓ * (x₂ - x₁)) ^ 2))) * slope

/-- The sum of two points with one abscissa stands for their sum. -/
theorem StandsFor.add_of_eq
    {q r : Point}
    {x y₁ y₂ : Element}
    {onCurve : curve.Nonsingular x y₁}
    {otherOnCurve : curve.Nonsingular x y₂}
    (nonzero : q.z ≠ 0)
    (xEq : q.x = x * q.z ^ 2)
    (yEq : q.y = y₁ * q.z ^ 3)
    (otherNonzero : r.z ≠ 0)
    (otherXEq : r.x = x * r.z ^ 2)
    (otherYEq : r.y = y₂ * r.z ^ 3) :
    StandsFor (q.add r) (.some x y₁ onCurve + .some x y₂ otherOnCurve) := by
  have h := sub_abscissas xEq otherXEq
  have k := sub_ordinates yEq otherYEq
  rw [sub_self, zero_mul] at h
  have sum : q.add r = if (y₂ - y₁) * (q.z * r.z) ^ 3 = 0 then q.double else .neutral := by
    simp only [Point.add, if_neg nonzero, if_neg otherNonzero, h, k, if_true]
  by_cases same : y₁ = y₂
  · subst same
    rw [sum, if_pos (by rw [sub_self, zero_mul])]
    exact StandsFor.double (.affine onCurve nonzero xEq yEq)
  · have distance : (y₂ - y₁) * (q.z * r.z) ^ 3 ≠ 0 :=
      mul_ne_zero (sub_ne_zero.mpr (Ne.symm same))
        (pow_ne_zero 3 (mul_ne_zero nonzero otherNonzero))
    have opposite := (WeierstrassCurve.Affine.Y_eq_of_X_eq onCurve.left otherOnCurve.left
      rfl).resolve_left same
    rw [sum, if_neg distance, WeierstrassCurve.Affine.Point.add_of_Y_eq rfl opposite]
    exact .neutral rfl

/-- Adding stands for adding. -/
theorem StandsFor.add
    {q r : Point}
    {a b : curve.Point}
    (stands : StandsFor q a)
    (others : StandsFor r b) :
    StandsFor (q.add r) (a + b) := by
  cases stands with
  | neutral zero =>
      rw [zero_add, Point.add, if_pos zero]
      exact others
  | @affine x₁ y₁ onCurve nonzero xEq yEq =>
      cases others with
      | neutral zero =>
          rw [add_zero, Point.add, if_neg nonzero, if_pos zero]
          exact .affine onCurve nonzero xEq yEq
      | @affine x₂ y₂ otherOnCurve otherNonzero otherXEq otherYEq =>
          by_cases apart : x₁ = x₂
          · subst apart
            exact .add_of_eq nonzero xEq yEq otherNonzero otherXEq otherYEq
          · exact .add_of_ne apart nonzero xEq yEq otherNonzero otherXEq otherYEq

/-- Multiples by doubling and adding stand for multiples. -/
theorem StandsFor.mul
    {q : Point}
    {a : curve.Point}
    (stands : StandsFor q a)
    (count : Nat) :
    StandsFor (q.mul count) (count • a) :=
  stands_multiple StandsFor (.neutral rfl) (fun _ _ sum => sum.double)
    (fun _ _ sum => sum.add stands) count

/-- Coordinates stand for the neutral point exactly if the last of them is zero. -/
theorem StandsFor.eq_zero_iff
    {q : Point}
    {a : curve.Point}
    (stands : StandsFor q a) :
    a = 0 ↔ q.z = 0 := by
  cases stands with
  | neutral zero => exact iff_of_true rfl zero
  | affine onCurve nonzero _ _ =>
      exact iff_of_false (WeierstrassCurve.Affine.Point.some_ne_zero onCurve) nonzero

/-- The affine coordinates of what stands for a point other than the neutral one lie on the
curve. -/
theorem StandsFor.exists_coordinates
    {q : Point}
    {a : curve.Point}
    (stands : StandsFor q a)
    (nonzero : a ≠ 0) :
    ∃ x y, q.coordinates? = some (x, y) ∧ y * y = curveSquare x := by
  cases stands with
  | neutral zero => exact absurd rfl nonzero
  | @affine x y onCurve finite xEq yEq =>
      have inverted : q.z * inverse q.z = 1 := mul_inverse prime_fieldModulus finite
      refine ⟨x, y, ?_, nonsingular_iff.mp onCurve⟩
      rw [Point.coordinates?, if_neg finite]
      dsimp only
      rw [xEq, yEq]
      generalize inverse q.z = w at inverted
      have first : x * q.z ^ 2 * (w * w) = x := by
        linear_combination (x * (q.z * w + 1)) * inverted
      have second : y * q.z ^ 3 * (w * w) * w = y := by
        linear_combination (y * ((q.z * w) ^ 2 + q.z * w + 1)) * inverted
      rw [first, second]

/-! ## Keys -/

theorem nonsingular_generator :
    curve.Nonsingular generator.x generator.y :=
  nonsingular_iff.mpr (by decide +kernel)

/-- The generator as a point of the curve. -/
def base : curve.Point :=
  .some generator.x generator.y nonsingular_generator

theorem standsFor_generator :
    StandsFor generator base :=
  .affine _ (by decide) (by decide +kernel) (by decide +kernel)

/-- The order of the generator is the order of the group. -/
theorem addOrderOf_base :
    addOrderOf base = order := by
  have : Fact order.Prime := ⟨prime_order⟩
  have last : (generator.mul order).z = 0 := by
    decide +kernel
  apply addOrderOf_eq_prime
  · exact (standsFor_generator.mul order).eq_zero_iff.mpr last
  · exact WeierstrassCurve.Affine.Point.some_ne_zero _

/-- The point of a private key has affine coordinates, and they lie on the curve. -/
theorem PrivateKey.exists_ofPoint (key : PrivateKey) :
    ∃ own : PublicKey, PublicKey.ofPoint? key.point = some own ∧
      own.y * own.y = curveSquare own.x := by
  have nonzero : key.scalar • base ≠ 0 := by
    intro zero
    have divides := addOrderOf_dvd_of_nsmul_eq_zero zero
    rw [addOrderOf_base] at divides
    exact absurd key.lt_order (Nat.not_lt.mpr (Nat.le_of_dvd key.pos divides))
  obtain ⟨x, y, found, onCurve⟩ :=
    (standsFor_generator.mul key.scalar).exists_coordinates nonzero
  refine ⟨⟨x, y⟩, ?_, onCurve⟩
  rw [PublicKey.ofPoint?, PrivateKey.point, found]
  rfl

/-- An element is read from its bytes. -/
theorem element?_bytes32 (x : Element) :
    element? (bytes32 x.val) = some x := by
  have small : x.val < Bytes.capacity 32 := x.isLt.trans (by decide)
  have denoted : Bytes.toNat (bytes32 x.val) = x.val := by
    rw [bytes32, Bytes.toNat_ofNatWidth, Nat.mod_eq_of_lt small]
  simp only [element?, denoted, x.isLt, dif_pos]

/-- A public key on the curve is read from its form of 65 bytes. -/
theorem PublicKey.parse?_uncompressed
    {key : PublicKey}
    (onCurve : key.y * key.y = curveSquare key.x) :
    PublicKey.parse? key.uncompressed = some key := by
  have widths : (bytes32 key.x.val).length = 32 ∧ (bytes32 key.y.val).length = 32 :=
    ⟨Bytes.length_ofNatWidth _ _, Bytes.length_ofNatWidth _ _⟩
  have length : (bytes32 key.x.val ++ bytes32 key.y.val).length = 64 := by
    rw [List.length_append, widths.1, widths.2]
  have front : (bytes32 key.x.val ++ bytes32 key.y.val).take 32 = bytes32 key.x.val := by
    rw [← widths.1, List.take_left]
  have behind : (bytes32 key.x.val ++ bytes32 key.y.val).drop 32 = bytes32 key.y.val := by
    rw [← widths.1, List.drop_left]
  rw [uncompressed, List.cons_append, parse?, length]
  simp [parseFull?, front, behind, element?_bytes32, onCurve]

/-- The public key of a private key is read from its own bytes. -/
theorem PrivateKey.exists_parse (key : PrivateKey) :
    ∃ own : PublicKey, PublicKey.parse? key.publicKey = some own ∧
      own.uncompressed = key.publicKey := by
  obtain ⟨own, found, onCurve⟩ := key.exists_ofPoint
  have written : key.publicKey = own.uncompressed := by
    rw [publicKey, found]
  exact ⟨own, by rw [written, PublicKey.parse?_uncompressed onCurve], written.symm⟩

end Secp256k1

end Curve
end ChainClient
