import ChainClient.Proofs.Encoding.Spellings
import Mathlib.Data.List.DropRight

/-!
# Canonical forms

Text without blanks at its ends stays as it is. Digits denote the same number with any count of
zeros in front; without them each number has one form: its hexadecimal form in small digits, and for
an amount its wire form.
-/

namespace ChainClient

/-! ## Trimmed text -/

namespace Text

/-- Where the first of a list stays, it stays also without the last ones. -/
theorem dropWhile_of_prefix
    {p : CodePoint → Bool}
    {front t : Text}
    (starts : front <+: t)
    (kept : t.dropWhile p = t) :
    front.dropWhile p = front := by
  cases front with
  | nil => rfl
  | cons c front =>
      obtain ⟨rest, rfl⟩ := starts
      have first := List.dropWhile_eq_self_iff.mp kept (Nat.succ_pos _)
      exact List.dropWhile_cons_of_neg first

/-- Nothing is left to trim of what was trimmed. -/
@[simp] theorem trim_trim (t : Text) :
    t.trim.trim = t.trim := by
  have trimmed : t.trim = (t.dropWhile CodePoint.isBlank).rdropWhile CodePoint.isBlank := rfl
  change (t.trim.dropWhile CodePoint.isBlank).rdropWhile CodePoint.isBlank = t.trim
  have kept : t.trim.dropWhile CodePoint.isBlank = t.trim :=
    dropWhile_of_prefix (List.rdropWhile_prefix _ _) (List.dropWhile_idempotent _ _)
  rw [kept, trimmed, List.rdropWhile_idempotent]

/-- Trimmed text does not end in blanks. -/
theorem eq_nil_of_trim_eq_append
    {t front after : Text}
    (split : t.trim = front ++ after)
    (blank : ∀ c ∈ after, c.isBlank = true) :
    after = [] := by
  by_contra nonempty
  have nonemptyTrim : (t.dropWhile CodePoint.isBlank).rdropWhile CodePoint.isBlank ≠ [] := by
    change t.trim ≠ []
    rw [split]
    exact List.append_ne_nil_of_right_ne_nil _ nonempty
  apply List.rdropWhile_last_not CodePoint.isBlank _ nonemptyTrim
  have last : t.trim.getLast? = after.getLast? := by
    rw [split, List.getLast?_append_of_ne_nil _ nonempty]
  apply blank
  apply List.mem_of_getLast?
  rw [← last]
  exact List.getLast?_eq_some_getLast nonemptyTrim

end Text

/-! ## Digits without padding -/

/-- There are digits, and no zero in front of others. -/
def IsUnpadded
    {α : Type}
    (zero : α)
    (digits : List α) : Prop :=
  digits ≠ [] ∧ (digits.head? = some zero → digits = [zero])

/-- Nothing is left of the padding. -/
theorem isUnpadded_unpad
    {α : Type}
    [DecidableEq α]
    (nought : α)
    (digits : List α) :
    IsUnpadded nought (Numeral.unpad nought digits) := by
  refine ⟨Numeral.unpad_ne_nil nought digits, fun padded => ?_⟩
  rcases Numeral.unpad_eq_zero_or nought digits with form | ⟨digit, rest, form, leading⟩
  · exact form
  · rw [form, List.head?_cons, Option.some.injEq] at padded
    exact absurd padded leading

/-- Digits of a base, each with a value of its own. -/
structure IsPlaceValue
    {α : Type}
    (base : Nat)
    (zero : α)
    (value : α → Nat) : Prop where
  large : 1 < base
  below : ∀ digit, value digit < base
  injective : Function.Injective value
  value_zero : value zero = 0

section

variable
    {α : Type}
    {base : Nat}
    {zero : α}
    {value : α → Nat}
    {digits others : List α}

/-- Digits without padding are the digits of their number, but for zero, which has none. -/
theorem IsUnpadded.digits_ofDigits
    (unpadded : IsUnpadded zero digits)
    (places : IsPlaceValue base zero value)
    (nonzero : digits ≠ [zero]) :
    Nat.digits base (Nat.ofDigits base (digits.reverse.map value)) = digits.reverse.map value := by
  apply Nat.digits_ofDigits base places.large
  · intro place present
    obtain ⟨digit, -, rfl⟩ := List.mem_map.mp present
    exact places.below digit
  · obtain ⟨first, rest, rfl⟩ := List.exists_cons_of_ne_nil unpadded.1
    intro nonempty
    have leading : first ≠ zero := fun same => nonzero (unpadded.2 (congrArg some same))
    have leadingValue : value first ≠ 0 := fun none =>
      leading (places.injective (none.trans places.value_zero.symm))
    simpa using leadingValue

theorem IsUnpadded.ofDigits_ne_zero
    (unpadded : IsUnpadded zero digits)
    (places : IsPlaceValue base zero value)
    (nonzero : digits ≠ [zero]) :
    Nat.ofDigits base (digits.reverse.map value) ≠ 0 := by
  intro none
  have expanded := unpadded.digits_ofDigits places nonzero
  rw [none, Nat.digits_zero, eq_comm, List.map_eq_nil_iff, List.reverse_eq_nil_iff] at expanded
  exact unpadded.1 expanded

theorem IsPlaceValue.ofDigits_zero
    (places : IsPlaceValue base zero value) :
    Nat.ofDigits base ([zero].reverse.map value) = 0 := by
  simp [places.value_zero]

/-- Two forms of a number without padding are the same. -/
theorem IsUnpadded.eq_of_ofDigits_eq
    (unpadded : IsUnpadded zero digits)
    (otherUnpadded : IsUnpadded zero others)
    (places : IsPlaceValue base zero value)
    (same : Nat.ofDigits base (digits.reverse.map value) =
      Nat.ofDigits base (others.reverse.map value)) :
    digits = others := by
  by_cases first : digits = [zero]
  · by_cases second : others = [zero]
    · rw [first, second]
    · rw [first, places.ofDigits_zero] at same
      exact absurd same.symm (otherUnpadded.ofDigits_ne_zero places second)
  · by_cases second : others = [zero]
    · rw [second, places.ofDigits_zero] at same
      exact absurd same (unpadded.ofDigits_ne_zero places first)
    · have expanded := unpadded.digits_ofDigits places first
      rw [same, otherUnpadded.digits_ofDigits places second] at expanded
      exact List.reverse_injective (List.map_injective_iff.mpr places.injective expanded.symm)

end

/-! ## Hexadecimal digits -/

namespace Hex

/-- The small hexadecimal digits of a number, without a zero in front of others. -/
structure IsCanonical (t : Text) : Prop where
  small : ∀ c ∈ t, ∃ value, c = digit value
  unpadded : IsUnpadded 0x30 t

theorem isPlaceValue :
    IsPlaceValue 16 (0 : Fin 16) Fin.val where
  large := by decide
  below := Fin.isLt
  injective := fun _ _ => Fin.ext
  value_zero := rfl

theorem digit_injective :
    Function.Injective digit := by
  intro first second same
  exact Option.some.inj (by rw [← digit?_digit first, same, digit?_digit])

theorem exists_values
    {t : Text}
    (small : ∀ c ∈ t, ∃ value, c = digit value) :
    ∃ values : List (Fin 16), t = values.map digit := by
  induction t with
  | nil => exact ⟨[], rfl⟩
  | cons c t inductionHypothesis =>
      obtain ⟨⟨value, rfl⟩, rest⟩ := List.forall_mem_cons.mp small
      obtain ⟨values, rfl⟩ := inductionHypothesis rest
      exact ⟨value :: values, rfl⟩

/-- What small digits denote is the number of their places. -/
theorem toNat?_map_digit (values : List (Fin 16)) :
    toNat? (values.map digit) = some (Nat.ofDigits 16 (values.reverse.map Fin.val)) := by
  have digits : ∀ value, (digit value).toLower = digit value := by
    decide
  have small : Text.toLower (values.map digit) = values.map digit := by
    rw [Text.toLower, List.map_map]
    exact List.map_congr_left fun value _ => digits value
  exact toNat?_eq_some_iff.mpr ⟨values, small, fun value _ => value.isLt, rfl⟩

theorem isUnpadded_map_digit_iff
    {values : List (Fin 16)} :
    IsUnpadded 0x30 (values.map digit) ↔ IsUnpadded 0 values := by
  have zero : (0x30 : CodePoint) = digit 0 := rfl
  cases values with
  | nil => simp [IsUnpadded]
  | cons first rest => simp [IsUnpadded, zero, digit_injective.eq_iff]

/-- A number has one canonical form. -/
theorem IsCanonical.unique
    {t other : Text}
    (canonical : IsCanonical t)
    (otherCanonical : IsCanonical other)
    (same : toNat? t = toNat? other) :
    t = other := by
  obtain ⟨values, rfl⟩ := exists_values canonical.small
  obtain ⟨others, rfl⟩ := exists_values otherCanonical.small
  rw [toNat?_map_digit, toNat?_map_digit, Option.some.injEq] at same
  have unpadded := isUnpadded_map_digit_iff.mp canonical.unpadded
  have otherUnpadded := isUnpadded_map_digit_iff.mp otherCanonical.unpadded
  rw [unpadded.eq_of_ofDigits_eq otherUnpadded isPlaceValue same]

/-- The leading digit of a number is not zero. -/
theorem exists_leading
    {fuel n : Nat}
    (nonzero : n ≠ 0)
    (fits : n < 16 ^ fuel) :
    ∃ rest value, digitsLittle fuel n = rest ++ [digit value] ∧ value ≠ 0 := by
  induction fuel generalizing n with
  | zero => exact absurd (by simpa using fits) nonzero
  | succ fuel inductionHypothesis =>
      rw [digitsLittle, if_neg nonzero]
      by_cases last : n / 16 = 0
      · refine ⟨[], ⟨n % 16, Nat.mod_lt _ (by decide)⟩, ?_, ?_⟩
        · cases fuel <;> simp [last, digitsLittle]
        · intro same
          have none : n % 16 = 0 := congrArg Fin.val same
          omega
      · have high : n / 16 < 16 ^ fuel :=
          Nat.div_lt_of_lt_mul (by rwa [Nat.mul_comm, ← Nat.pow_succ])
        obtain ⟨rest, value, split, leading⟩ := inductionHypothesis last high
        exact ⟨_ :: rest, value, by rw [split, List.cons_append], leading⟩

/-- The form that is written for a number is canonical. -/
theorem isCanonical_ofNat (n : Nat) :
    IsCanonical (ofNat n) := by
  refine ⟨fun c present => mem_ofNat present, ofNat_ne_nil n, ?_⟩
  intro padded
  by_cases zero : n = 0
  · rw [ofNat, if_pos zero]
  · rw [ofNat, if_neg zero] at padded
    obtain ⟨rest, value, split, leading⟩ := exists_leading zero (lt_pow_log2 n)
    rw [split, List.reverse_append, List.reverse_singleton, List.singleton_append, List.head?_cons,
      Option.some.injEq] at padded
    exact absurd (digit_injective padded) leading

/-- Text in canonical form denotes a number exactly if it is the form that is written for it. -/
theorem IsCanonical.toNat?_eq_some_iff
    {t : Text}
    {n : Nat}
    (canonical : IsCanonical t) :
    toNat? t = some n ↔ t = ofNat n := by
  constructor
  · intro denotes
    exact canonical.unique (isCanonical_ofNat n) (by rw [denotes, toNat?_ofNat])
  · rintro rfl
    exact toNat?_ofNat n

end Hex

/-! ## Amounts on the wire -/

namespace Bytes

theorem isPlaceValue :
    IsPlaceValue 256 (0 : UInt8) UInt8.toNat where
  large := by decide
  below := fun byte => byte.toNat_lt
  injective := fun _ _ same => UInt8.toNat_inj.mp same
  value_zero := rfl

theorem toNat_eq_ofDigits (bytes : Bytes) :
    toNat bytes = Nat.ofDigits 256 (bytes.reverse.map UInt8.toNat) := by
  induction bytes using List.reverseRecOn with
  | nil => rfl
  | append_singleton bytes byte inductionHypothesis =>
      rw [toNat_append_singleton, inductionHypothesis, List.reverse_append,
        List.reverse_singleton, List.singleton_append, List.map_cons, Nat.ofDigits_cons]
      exact Nat.add_comm _ _

theorem toNat_lt_capacity (bytes : Bytes) :
    toNat bytes < capacity bytes.length := by
  induction bytes using List.reverseRecOn with
  | nil => decide
  | append_singleton bytes byte inductionHypothesis =>
      have low := byte.toNat_lt
      have high := inductionHypothesis
      simp only [capacity, Nat.pow_eq, toNat_append_singleton, List.length_append,
        List.length_singleton, Nat.pow_succ] at high ⊢
      omega

theorem toNat_lt_capacity_of_length_le
    {bytes : Bytes}
    {width : Nat}
    (short : bytes.length ≤ width) :
    toNat bytes < capacity width :=
  Nat.lt_of_lt_of_le (toNat_lt_capacity bytes) (Nat.pow_le_pow_right (by decide) short)

/-- A zero in front adds nothing. -/
theorem toNat_zero_cons (bytes : Bytes) :
    toNat (0 :: bytes) = toNat bytes := by
  simp [toNat]

/-- The shortest form of a number has no zero in front. -/
theorem isUnpadded_ofNat
    {n : Nat}
    (nonzero : n ≠ 0) :
    IsUnpadded 0 (ofNat n) := by
  have long : (ofNat n).length = widthOf n := length_ofNat n
  have wide : widthOf n ≠ 0 := by simp [widthOf, nonzero]
  constructor
  · intro empty
    rw [empty] at long
    exact wide long.symm
  · intro padded
    obtain ⟨rest, split⟩ := List.head?_eq_some_iff.mp padded
    have value := toNat_ofNat n
    rw [split, toNat_zero_cons] at value
    have fits : widthOf n ≤ rest.length :=
      widthOf_le_of_lt_capacity (value ▸ toNat_lt_capacity rest)
    rw [split, List.length_cons] at long
    omega

end Bytes

namespace Amount

/-- Up to 32 bytes are read as the amount that they denote. -/
theorem ofBytes_eq_ok_iff
    {bytes : Bytes}
    {amount : Amount} :
    ofBytes bytes = .ok amount ↔ bytes.length ≤ 32 ∧ bytes.toNat = amount.val := by
  rw [ofBytes, maxBytes]
  split
  · next short =>
      have below := Bytes.toNat_lt_capacity_of_length_le short
      have kept : Bytes.truncate 32 bytes.toNat = (⟨bytes.toNat, below⟩ : Amount) :=
        Fin.ext (Nat.mod_eq_of_lt below)
      simp only [kept, short, Except.ok.injEq, Fin.ext_iff, true_and]
  · next long => simp [long]

theorem isUnpadded_toBytes (amount : Amount) :
    IsUnpadded 0 amount.toBytes := by
  by_cases zero : amount = 0
  · rw [toBytes, if_pos zero]
    exact ⟨List.cons_ne_nil _ _, fun _ => rfl⟩
  · rw [toBytes, if_neg zero]
    exact Bytes.isUnpadded_ofNat fun none => zero (Fin.ext none)

/-- Bytes without a zero in front denote an amount exactly if they are its wire form. -/
theorem toNat_eq_iff
    {bytes : Bytes}
    {amount : Amount}
    (unpadded : IsUnpadded 0 bytes) :
    bytes.toNat = amount.val ↔ bytes = amount.toBytes := by
  constructor
  · intro denotes
    apply unpadded.eq_of_ofDigits_eq (isUnpadded_toBytes amount) Bytes.isPlaceValue
    rw [← Bytes.toNat_eq_ofDigits, ← Bytes.toNat_eq_ofDigits, denotes, toNat_toBytes]
  · rintro rfl
    exact toNat_toBytes amount

end Amount
end ChainClient
