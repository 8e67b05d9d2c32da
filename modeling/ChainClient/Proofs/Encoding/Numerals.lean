import ChainClient.Hex
import Mathlib.Data.List.Induction
import Mathlib.Data.Nat.Log
import Mathlib.Tactic.NormNum

/-!
# Numbers as digits and bytes

A natural number has a shortest hexadecimal form and a shortest big-endian form.
Both read back as the number, and both are as short as the size of the number
allows.
-/

namespace ChainClient

namespace Bytes

/-- The width of a number is wide enough for it. -/
theorem lt_capacity_widthOf (n : Nat) :
    n < capacity (widthOf n) := by
  by_cases zero : n = 0
  · simp [zero, widthOf, capacity]
  · have below : n < 2 ^ (n.log2 + 1) := Nat.lt_log2_self
    have wider : n.log2 + 1 ≤ 8 * (n.log2 / 8 + 1) := by omega
    calc
      n < 2 ^ (n.log2 + 1) := below
      _ ≤ 2 ^ (8 * (n.log2 / 8 + 1)) := Nat.pow_le_pow_right (by decide) wider
      _ = capacity (widthOf n) := by
          simp only [widthOf, zero, if_false, capacity]
          exact Nat.pow_mul 2 8 _

/-- A number that some width can hold has no greater width. -/
theorem widthOf_le_of_lt_capacity
    {n width : Nat}
    (fits : n < capacity width) :
    widthOf n ≤ width := by
  by_cases zero : n = 0
  · simp [zero, widthOf]
  · have bits : n < 2 ^ (8 * width) := by
      rw [Nat.pow_mul]
      exact fits
    have logBound : n.log2 < 8 * width := (Nat.log2_lt zero).mpr bits
    simp only [widthOf, zero, if_false]
    omega

/-- A number that fits loses nothing. -/
@[simp] theorem truncate_val
    {width : Nat}
    (n : Fin (capacity width)) :
    truncate width n.val = n :=
  Fin.ext (Nat.mod_eq_of_lt n.isLt)

/-- The shortest form of a number denotes it. -/
@[simp] theorem toNat_ofNat (n : Nat) :
    toNat (ofNat n) = n := by
  rw [ofNat, toNat_ofNatWidth]
  exact Nat.mod_eq_of_lt (lt_capacity_widthOf n)

@[simp] theorem length_ofNat (n : Nat) :
    (ofNat n).length = widthOf n := by
  simp [ofNat]

end Bytes

namespace Hex

/-- A digit behind a literal is its last place. -/
theorem toNat?_append_singleton
    (t : Text)
    (c : CodePoint) :
    toNat? (t ++ [c]) =
      match toNat? t, digit? c with
      | some n, some d => some (16 * n + d.val)
      | _, _ => none := by
  rw [toNat?, List.foldl_append]
  rfl

/-- A run of digits, and nothing else, denotes a number. -/
theorem exists_toNat?_eq_some_iff {t : Text} :
    (∃ n, toNat? t = some n) ↔ ∀ c ∈ t, (digit? c).isSome = true := by
  induction t using List.reverseRecOn with
  | nil => simp [toNat?]
  | append_singleton t c inductionHypothesis =>
      rw [toNat?_append_singleton, List.forall_mem_append, ← inductionHypothesis]
      cases toNat? t with
      | none => simp
      | some n => cases value : digit? c <;> simp [value]

/-- The digits of a number, put in order, denote it. -/
theorem toNat?_reverse_digitsLittle
    {fuel n : Nat}
    (fits : n < 16 ^ fuel) :
    toNat? (digitsLittle fuel n).reverse = some n := by
  induction fuel generalizing n with
  | zero =>
      have zero : n = 0 := by simpa using fits
      simp [digitsLittle, toNat?, zero]
  | succ fuel inductionHypothesis =>
      by_cases zero : n = 0
      · simp [digitsLittle, toNat?, zero]
      · have high : n / 16 < 16 ^ fuel :=
          Nat.div_lt_of_lt_mul (by rwa [Nat.mul_comm, ← Nat.pow_succ])
        have split : 16 * (n / 16) + n % 16 = n := Nat.div_add_mod n 16
        simp only [digitsLittle, zero, if_false, List.reverse_cons]
        rw [toNat?_append_singleton, inductionHypothesis high, digit?_digit]
        simp [split]

/-- The places that writing allots to a number are enough. -/
theorem lt_pow_log2 (n : Nat) :
    n < 16 ^ (n.log2 / 4 + 1) := by
  have below : n < 2 ^ (n.log2 + 1) := Nat.lt_log2_self
  calc
    n < 2 ^ (n.log2 + 1) := below
    _ ≤ 2 ^ (4 * (n.log2 / 4 + 1)) := Nat.pow_le_pow_right (by decide) (by omega)
    _ = 16 ^ (n.log2 / 4 + 1) := Nat.pow_mul 2 4 _

/-- The hexadecimal form of a number denotes it. -/
@[simp] theorem toNat?_ofNat (n : Nat) :
    toNat? (ofNat n) = some n := by
  by_cases zero : n = 0
  · subst zero
    decide
  · rw [ofNat, if_neg zero]
    exact toNat?_reverse_digitsLittle (lt_pow_log2 n)

theorem mem_digitsLittle
    {fuel n : Nat}
    {c : CodePoint}
    (present : c ∈ digitsLittle fuel n) :
    ∃ value, c = digit value := by
  induction fuel generalizing n with
  | zero => simp [digitsLittle] at present
  | succ fuel inductionHypothesis =>
      by_cases zero : n = 0
      · simp [digitsLittle, zero] at present
      · simp only [digitsLittle, zero, if_false, List.mem_cons] at present
        rcases present with equal | inRest
        · exact ⟨_, equal⟩
        · exact inductionHypothesis inRest

/-- The hexadecimal form of a number holds digits and nothing else. -/
theorem mem_ofNat
    {n : Nat}
    {c : CodePoint}
    (present : c ∈ ofNat n) :
    ∃ value, c = digit value := by
  by_cases zero : n = 0
  · rw [ofNat, if_pos zero, List.mem_singleton] at present
    exact ⟨0, present⟩
  · rw [ofNat, if_neg zero, List.mem_reverse] at present
    exact mem_digitsLittle present

theorem digitsLittle_ne_nil
    {fuel n : Nat}
    (nonzero : n ≠ 0) :
    digitsLittle (fuel + 1) n ≠ [] := by
  simp [digitsLittle, nonzero]

/-- The hexadecimal form of a number has a digit, also for zero. -/
theorem ofNat_ne_nil (n : Nat) :
    ofNat n ≠ [] := by
  by_cases zero : n = 0
  · simp [ofNat, zero]
  · rw [ofNat, if_neg zero]
    simpa using digitsLittle_ne_nil zero

theorem length_digitsLittle_le
    {fuel n width : Nat}
    (fits : n < 16 ^ width) :
    (digitsLittle fuel n).length ≤ width := by
  induction fuel generalizing n width with
  | zero => simp [digitsLittle]
  | succ fuel inductionHypothesis =>
      by_cases zero : n = 0
      · simp [digitsLittle, zero]
      · cases width with
        | zero =>
            have : n = 0 := by simpa using fits
            exact absurd this zero
        | succ width =>
            have high : n / 16 < 16 ^ width :=
              Nat.div_lt_of_lt_mul (by rwa [Nat.mul_comm, ← Nat.pow_succ])
            have shorter := inductionHypothesis high
            simp only [digitsLittle, zero, if_false, List.length_cons]
            omega

/-- A number below a power of sixteen has no more digits than the exponent. -/
theorem length_ofNat_le
    {n width : Nat}
    (fits : n < 16 ^ width)
    (positive : 0 < width) :
    (ofNat n).length ≤ width := by
  by_cases zero : n = 0
  · simpa [ofNat, zero] using Nat.one_le_iff_ne_zero.mpr positive.ne'
  · rw [ofNat, if_neg zero, List.length_reverse]
    exact length_digitsLittle_le fits

end Hex

end ChainClient
