import ChainClient.Curve.Secp256k1
import ChainClient.Proofs.Curve.Multiples
import Mathlib.Data.Nat.Prime.Factorial
import Mathlib.FieldTheory.Finite.Basic
import Mathlib.Tactic.NormNum.Prime

/-!
# The moduli of secp256k1 are prime

A number is prime if some residue has an order that is divisible by primes whose product is larger
than the square root of the number: every prime factor of the number is larger than the order of
the residue. Powers by repeated squaring give the orders, and the primes that they need are smaller
each time.
-/

namespace ChainClient
namespace Curve

open Fin.CommRing

/-- A prime that divides a number, but not behind a divisor, divides the divisor. -/
theorem dvd_of_not_dvd_div
    {n order f : Nat}
    (prime : f.Prime)
    (divides : f ∣ n)
    (whole : order ∣ n)
    (part : ¬ order ∣ n / f) :
    f ∣ order := by
  obtain ⟨rest, rfl⟩ := whole
  rcases prime.dvd_mul.mp divides with inOrder | inRest
  · exact inOrder
  · obtain ⟨quotient, rfl⟩ := inRest
    refine absurd ?_ part
    rw [Nat.mul_left_comm, Nat.mul_div_cancel_left _ prime.pos]
    exact Nat.dvd_mul_right _ _

/-- The residues of a number as those of a divisor. -/
def reduce
    {n d : Nat}
    [NeZero n]
    (divides : d ∣ n) :
    Fin n →+* ZMod d :=
  (ZMod.castHom divides (ZMod d)).comp (ZMod.finEquiv n).toRingHom

theorem reduce_eq_val
    {n d : Nat}
    [NeZero n]
    (divides : d ∣ n)
    (x : Fin n) :
    reduce divides x = (x.val : ZMod d) := by
  conv_lhs => rw [← Fin.cast_val_eq_self x]
  exact map_natCast _ _

/-- Powers are reduced like the residues themselves. -/
theorem reduce_pow
    {n d : Nat}
    [NeZero n]
    (divides : d ∣ n)
    (x : Fin n)
    (exponent : Nat) :
    reduce divides x ^ exponent = ((power x exponent).val : ZMod d) := by
  rw [← map_pow, ← power_eq_pow, reduce_eq_val]

/-- What proves a number to be prime, if the first numbers are: they divide the number before it,
their product is larger than its square root, and there is a residue whose power is one at the
number before it but, for every prime factor, not at that number divided by one of the primes. -/
structure Certifies
    {n : Nat}
    (primes : List Nat)
    (residue : Fin n) : Prop where
  above : 1 < n
  distinct : primes.Nodup
  divides : ∀ f ∈ primes, f ∣ n - 1
  large : n < primes.prod ^ 2
  closes : (power residue (n - 1)).val = 1
  apart : ∀ f ∈ primes, Nat.gcd ((power residue ((n - 1) / f)).val + (n - 1)) n = 1

instance {n : Nat} (primes : List Nat) (residue : Fin n) : Decidable (Certifies primes residue) :=
  decidable_of_iff
    (1 < n ∧ primes.Nodup ∧ (∀ f ∈ primes, f ∣ n - 1) ∧ n < primes.prod ^ 2 ∧
      (power residue (n - 1)).val = 1 ∧
      ∀ f ∈ primes, Nat.gcd ((power residue ((n - 1) / f)).val + (n - 1)) n = 1)
    ⟨fun ⟨above, distinct, divides, large, closes, apart⟩ =>
        ⟨above, distinct, divides, large, closes, apart⟩,
      fun ⟨above, distinct, divides, large, closes, apart⟩ =>
        ⟨above, distinct, divides, large, closes, apart⟩⟩

namespace Certifies

variable
    {n d : Nat}
    [NeZero n]
    {primes : List Nat}
    {residue : Fin n}

theorem pow_eq_one
    (certifies : Certifies primes residue)
    (inside : d ∣ n) :
    reduce inside residue ^ (n - 1) = 1 := by
  rw [reduce_pow, certifies.closes]
  exact Nat.cast_one

/-- The order of the residue modulo a prime factor is divisible by each of the primes. -/
theorem dvd_orderOf
    (certifies : Certifies primes residue)
    (factor : d.Prime)
    (inside : d ∣ n)
    {f : Nat}
    (prime : f.Prime)
    (listed : f ∈ primes) :
    f ∣ orderOf (reduce inside residue) := by
  apply dvd_of_not_dvd_div prime (certifies.divides f listed)
  · rw [orderOf_dvd_iff_pow_eq_one]
    exact certifies.pow_eq_one inside
  · intro early
    rw [orderOf_dvd_iff_pow_eq_one, reduce_pow] at early
    -- the power and the number before the modulus sum up to a multiple of the factor
    have sum : (((power residue ((n - 1) / f)).val + (n - 1) : Nat) : ZMod d) = 0 := by
      rw [Nat.cast_add, early, ← Nat.cast_one, ← Nat.cast_add,
        Nat.add_sub_cancel' certifies.above.le]
      exact (ZMod.natCast_eq_zero_iff n d).mpr inside
    have divides := Nat.dvd_gcd ((ZMod.natCast_eq_zero_iff _ _).mp sum) inside
    rw [certifies.apart f listed] at divides
    exact factor.one_lt.ne' (Nat.dvd_one.mp divides)

/-- Every prime factor is larger than the product of the primes. -/
theorem prod_lt
    (certifies : Certifies primes residue)
    (prime : ∀ f ∈ primes, f.Prime)
    (factor : d.Prime)
    (inside : d ∣ n) :
    primes.prod < d := by
  have : Fact d.Prime := ⟨factor⟩
  have nonzero : reduce inside residue ≠ 0 := by
    intro zero
    have one := certifies.pow_eq_one inside
    have positive : n - 1 ≠ 0 := Nat.sub_ne_zero_of_lt certifies.above
    rw [zero, zero_pow positive] at one
    exact zero_ne_one one
  have product : primes.prod ∣ orderOf (reduce inside residue) := by
    have listed := List.prod_toFinset id certifies.distinct
    rw [List.map_id] at listed
    rw [← listed]
    apply Finset.prod_primes_dvd
    · exact fun f present => (prime f (List.mem_toFinset.mp present)).prime
    · intro f present
      have present := List.mem_toFinset.mp present
      exact certifies.dvd_orderOf factor inside (prime f present) present
  have order := product.trans (ZMod.orderOf_dvd_card_sub_one nonzero)
  have bounded := Nat.le_of_dvd (Nat.sub_pos_of_lt factor.one_lt) order
  have := factor.one_lt
  omega

end Certifies

/-- A number is prime if there are primes and a residue that certify it. -/
theorem prime_of_certifies
    {n : Nat}
    (primes : List Nat)
    (residue : Fin n)
    (prime : ∀ f ∈ primes, f.Prime)
    (certifies : Certifies primes residue) :
    n.Prime := by
  have above := certifies.above
  have : NeZero n := ⟨Nat.ne_zero_of_lt above⟩
  by_contra composite
  have square := Nat.minFac_sq_le_self (Nat.zero_lt_of_lt above) composite
  have least := certifies.prod_lt prime (Nat.minFac_prime above.ne') (Nat.minFac_dvd n)
  have larger := Nat.pow_lt_pow_left least two_ne_zero
  have large := certifies.large
  omega

/-! ## The moduli -/

namespace Secp256k1

/-- A prime of 128 bits, the largest factor of the number before the next prime. -/
theorem prime_128 :
    Nat.Prime 255515944373312847190720520512484175977 :=
  prime_of_certifies [107590001, 7240687, 96557] 2
    (by simp only [List.forall_mem_cons]; norm_num) (by decide +kernel)

/-- A prime of 237 bits, the largest factor of the number before the modulus of the field. -/
theorem prime_237 :
    Nat.Prime 205115282021455665897114700593932402728804164701536103180137503955397371 :=
  prime_of_certifies [255515944373312847190720520512484175977] 2
    (List.forall_mem_singleton.mpr prime_128) (by decide +kernel)

theorem prime_fieldModulus :
    Nat.Prime fieldModulus :=
  prime_of_certifies
    [205115282021455665897114700593932402728804164701536103180137503955397371] 2
    (List.forall_mem_singleton.mpr prime_237) (by decide +kernel)

/-- Two factors of the number before the order of the group. -/
theorem prime_57 :
    Nat.Prime 107361793816595537 :=
  prime_of_certifies [4681609, 85831] 2
    (by simp only [List.forall_mem_cons]; norm_num) (by decide +kernel)

theorem prime_68 :
    Nat.Prime 174723607534414371449 :=
  prime_of_certifies [44706919, 120233] 2
    (by simp only [List.forall_mem_cons]; norm_num) (by decide +kernel)

theorem prime_order :
    Nat.Prime order :=
  prime_of_certifies [107361793816595537, 174723607534414371449, 631] 2
    (by simp only [List.forall_mem_cons]; exact ⟨prime_57, prime_68, by norm_num⟩)
    (by decide +kernel)

end Secp256k1

end Curve
end ChainClient
