import ChainClient.Proofs.Encoding.IntegerLiterals
import Mathlib.Data.List.Induction

/-!
# Decimal digits

Digits denote less than their count of places allows and, without a zero in front, no less than it
demands. As an integer literal they denote the same number.
-/

namespace ChainClient

theorem CodePoint.decimalDigit?_of_isDigit
    {c : CodePoint}
    (digit : Numeral.isDigit c = true) :
    c.decimalDigit? = some (c.val - 0x30) := by
  simp only [Numeral.isDigit, Bool.and_eq_true, decide_eq_true_iff] at digit
  have listed : digitZeros = 0x30 :: digitZeros.tail := rfl
  have inFirst : (decide (0x30 ≤ c.val) && decide (c.val < 0x30 + 10)) = true := by
    simp only [Bool.and_eq_true, decide_eq_true_iff]
    omega
  rw [decimalDigit?, listed, List.find?_cons]
  simp only [inFirst, Option.map_some]

namespace Numeral

/-- A digit behind others is the last place. -/
theorem ofAsciiDigits_append_singleton
    (t : Text)
    (c : CodePoint) :
    ofAsciiDigits (t ++ [c]) = 10 * ofAsciiDigits t + (c.val - 0x30) := by
  simp only [ofAsciiDigits, ofDigits, List.map_append, List.foldl_append, List.map_singleton,
    List.foldl_cons, List.foldl_nil]

/-- Digits denote a number of no more places. -/
theorem ofAsciiDigits_lt
    {t : Text}
    (digits : ∀ c ∈ t, isDigit c = true) :
    ofAsciiDigits t < 10 ^ t.length := by
  induction t using List.reverseRecOn with
  | nil => decide
  | append_singleton t c inductionHypothesis =>
      rw [List.forall_mem_append, List.forall_mem_singleton] at digits
      have last := digits.2
      have high := inductionHypothesis digits.1
      simp only [isDigit, Bool.and_eq_true, decide_eq_true_iff] at last
      rw [ofAsciiDigits_append_singleton, List.length_append, List.length_singleton, Nat.pow_succ]
      omega

/-- Digits without a zero in front denote a number of no fewer places. -/
theorem pow_le_ofAsciiDigits
    {c : CodePoint}
    {rest : Text}
    (digits : ∀ d ∈ c :: rest, isDigit d = true)
    (leading : c ≠ 0x30) :
    10 ^ rest.length ≤ ofAsciiDigits (c :: rest) := by
  induction rest using List.reverseRecOn with
  | nil =>
      have first := digits c List.mem_cons_self
      simp only [isDigit, Bool.and_eq_true, decide_eq_true_iff] at first
      have nonzero : c.val ≠ 0x30 := fun same => leading (Fin.ext same)
      have value : ofAsciiDigits [c] = c.val - 0x30 := by simp [ofAsciiDigits, ofDigits]
      rw [value, List.length_nil, Nat.pow_zero]
      omega
  | append_singleton rest last inductionHypothesis =>
      rw [← List.cons_append, List.forall_mem_append] at digits
      have high := inductionHypothesis digits.1
      rw [← List.cons_append, ofAsciiDigits_append_singleton, List.length_append,
        List.length_singleton, Nat.pow_succ]
      omega

/-! ## Zeros in front -/

section

variable
    {α β : Type}
    [DecidableEq α]
    {nought : α}

/-- What a zero in front does not change stays the same without all of them. -/
theorem apply_unpad
    {f : List α → β}
    (padding : ∀ digits, f (nought :: digits) = f digits)
    (digits : List α) :
    f (unpad nought digits) = f digits := by
  have dropped : f (digits.dropWhile (· = nought)) = f digits := by
    induction digits with
    | nil => rfl
    | cons digit digits inductionHypothesis =>
        by_cases zero : digit = nought
        · rw [List.dropWhile_cons_of_pos (by simpa using zero), inductionHypothesis, zero, padding]
        · rw [List.dropWhile_cons_of_neg (by simpa using zero)]
  rw [← dropped, unpad]
  split
  · next none => rw [none, padding]
  · rfl

/-- What is left is a zero, or starts with another digit. -/
theorem unpad_eq_zero_or
    (nought : α)
    (digits : List α) :
    unpad nought digits = [nought] ∨
      ∃ digit rest, unpad nought digits = digit :: rest ∧ digit ≠ nought := by
  unfold unpad
  split
  · exact .inl rfl
  · next significant some =>
      obtain ⟨digit, rest, form⟩ := List.exists_cons_of_ne_nil some
      refine .inr ⟨digit, rest, form, ?_⟩
      have first := List.head?_dropWhile_not (· = nought) digits
      rw [form] at first
      simpa using first

theorem unpad_ne_nil
    (nought : α)
    (digits : List α) :
    unpad nought digits ≠ [] := by
  rcases unpad_eq_zero_or nought digits with form | ⟨digit, rest, form, -⟩
  · simp [form]
  · simp [form]

end

/-- Zeros in front do not count. -/
theorem ofAsciiDigits_unpad (t : Text) :
    ofAsciiDigits (unpad 0x30 t) = ofAsciiDigits t :=
  apply_unpad (fun _ => rfl) t

theorem isDigit_of_mem_unpad
    {t : Text}
    (digits : ∀ c ∈ t, isDigit c = true) :
    ∀ c ∈ unpad 0x30 t, isDigit c = true := by
  unfold unpad
  split
  · rw [List.forall_mem_singleton]
    decide
  · intro c present
    exact digits c (List.dropWhile_subset _ present)

/-! ## Integer literals -/

theorem isRun_of_isDigit
    {t : Text}
    (nonempty : t ≠ [])
    (digits : ∀ c ∈ t, isDigit c = true) :
    IsRun .ten t (t.map fun c => c.val - 0x30) := by
  have read : ∀ c ∈ t, Radix.ten.digit? c = some (c.val - 0x30) := by
    intro c present
    rw [Radix.digit?, CodePoint.decimalDigit?_of_isDigit (digits c present)]
  clear digits
  induction t with
  | nil => exact absurd rfl nonempty
  | cons c t inductionHypothesis =>
      obtain ⟨first, others⟩ := List.forall_mem_cons.mp read
      cases t with
      | nil => exact .last first
      | cons d t => exact .next first (inductionHypothesis (List.cons_ne_nil d t) others)

/-- Digits within the limit are an integer literal of their number. -/
theorem parseInt?_of_isDigit
    {t : Text}
    (nonempty : t ≠ [])
    (digits : ∀ c ∈ t, isDigit c = true)
    (short : t.length ≤ Decimal.digitLimit) :
    parseInt? .ten t = some (ofAsciiDigits t : Int) := by
  refine parseInt?_eq_some_iff.mpr ⟨[], t, [], by simp, by simp, by simp, ?_⟩
  refine .intro .absent .absent (isRun_of_isDigit nonempty digits) fun _ => ?_
  rwa [List.length_map]

end Numeral
end ChainClient
