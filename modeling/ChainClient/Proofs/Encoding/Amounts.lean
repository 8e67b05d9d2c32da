import ChainClient.Amount
import ChainClient.Proofs.Encoding.Decimals
import ChainClient.Proofs.Encoding.Numerals

/-!
# Forms of an amount

The canonical form and the wire form of an amount denote it. Decimal digits are read as the amount
of their number: no number with too many digits is an amount, and all others can be converted.
-/

namespace ChainClient
namespace Amount

theorem ofInt_val (amount : Amount) :
    ofInt amount.val = .ok amount := by
  have natural : ¬ ((amount.val : Nat) : Int) < 0 := by omega
  simp only [ofInt, if_neg natural, Int.toNat_natCast, dif_pos amount.isLt]

theorem ofInt_eq_tooWide
    {n : Nat}
    (wide : Bytes.capacity 32 ≤ n) :
    ofInt n = .error .tooWide := by
  have natural : ¬ ((n : Nat) : Int) < 0 := by omega
  simp only [ofInt, if_neg natural, Int.toNat_natCast, dif_neg (Nat.not_lt.mpr wide)]

/-! ## Decimal digits -/

theorem maxDigits_eq :
    maxDigits = 78 := rfl

/-- A number with more digits than any amount is none. -/
theorem capacity_le_of_maxDigits_lt
    {t : Text}
    (digits : ∀ c ∈ t, Numeral.isDigit c = true)
    (long : maxDigits < (Numeral.unpad 0x30 t).length) :
    Bytes.capacity 32 ≤ Numeral.ofAsciiDigits t := by
  rw [maxDigits_eq] at long
  rcases Numeral.unpad_eq_zero_or 0x30 t with zero | ⟨c, rest, form, leading⟩
  · rw [zero, List.length_singleton] at long
    omega
  · rw [form, List.length_cons] at long
    have unpadded := Numeral.isDigit_of_mem_unpad digits
    rw [form] at unpadded
    calc
      Bytes.capacity 32 ≤ 10 ^ 78 := by decide
      _ ≤ 10 ^ rest.length := Nat.pow_le_pow_right (by decide) (by omega)
      _ ≤ Numeral.ofAsciiDigits (c :: rest) := Numeral.pow_le_ofAsciiDigits unpadded leading
      _ = Numeral.ofAsciiDigits t := by rw [← form, Numeral.ofAsciiDigits_unpad]

/-- Digits are read as the amount of their number, however many they are. -/
theorem ofDecimal_eq
    {t : Text}
    (digits : ∀ c ∈ t, Numeral.isDigit c = true) :
    ofDecimal t = ofInt (Numeral.ofAsciiDigits t) := by
  unfold ofDecimal
  dsimp only
  split
  · next long => rw [ofInt_eq_tooWide (capacity_le_of_maxDigits_lt digits long)]
  · next few =>
      have short : (Numeral.unpad 0x30 t).length ≤ Decimal.digitLimit :=
        (Nat.not_lt.mp few).trans (by decide)
      have converted := Numeral.parseInt?_of_isDigit (Numeral.unpad_ne_nil 0x30 t)
        (Numeral.isDigit_of_mem_unpad digits) short
      rw [converted, Numeral.ofAsciiDigits_unpad]

/-! ## Canonical form and wire form -/

/-- Behind a mark, the canonical form is a literal of the amount. -/
theorem ofLiteral_mark_canonical (amount : Amount) :
    ofLiteral (Hex.mark ++ amount.canonical) = .ok amount := by
  have solid : ∀ c ∈ Hex.mark ++ amount.canonical, c.isBlank = false := by
    intro c present
    rw [List.mem_append] at present
    rcases present with inMark | inDigits
    · exact Hex.isBlank_of_mem_marks Hex.mark_mem_marks inMark
    · obtain ⟨value, rfl⟩ := Hex.mem_ofNat inDigits
      exact Hex.isBlank_eq_false_of_isSome_digit? (by simp)
  obtain ⟨first, rest, form⟩ := List.exists_cons_of_ne_nil (Hex.ofNat_ne_nil amount.val)
  have read : Hex.toNat? (first :: rest) = some amount.val := by
    rw [← form, Hex.toNat?_ofNat]
  have marked : Hex.hasMark (Hex.mark ++ first :: rest) = true := rfl
  have unmarked : (Hex.mark ++ first :: rest).drop 2 = first :: rest := rfl
  have nonempty : (Hex.mark ++ first :: rest).isEmpty = false := rfl
  simp only [ofLiteral, Text.trim_eq_self solid]
  simp only [canonical, form, nonempty, marked, unmarked, read, Bool.false_eq_true, if_false,
    if_true, ofInt_val]

/-- The wire form comes from the canonical form. -/
@[simp] theorem wireOfCanonical_canonical (amount : Amount) :
    wireOfCanonical (.text amount.canonical) = .ok amount.toBytes := by
  simp only [wireOfCanonical, parse, ofDatum, ofLiteral_mark_canonical]
  rfl

/-- The wire form denotes the amount. -/
theorem toNat_toBytes (amount : Amount) :
    Bytes.toNat amount.toBytes = amount.val := by
  by_cases zero : amount = 0
  · subst zero
    rfl
  · rw [toBytes, if_neg zero, Bytes.toNat_ofNat]

/-- The wire form has a byte, also for zero, and no more bytes than an amount may have. -/
theorem length_toBytes_le (amount : Amount) :
    amount.toBytes.length ≤ maxBytes := by
  by_cases zero : amount = 0
  · subst zero
    decide
  · rw [toBytes, if_neg zero, Bytes.length_ofNat]
    exact Bytes.widthOf_le_of_lt_capacity amount.isLt

/-- Reading the wire form gives the amount back. -/
@[simp] theorem ofBytes_toBytes (amount : Amount) :
    ofBytes amount.toBytes = .ok amount := by
  rw [ofBytes, if_pos (length_toBytes_le amount), toNat_toBytes, Bytes.truncate_val]

end Amount
end ChainClient
