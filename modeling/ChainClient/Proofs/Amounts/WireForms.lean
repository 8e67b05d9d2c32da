import ChainClient.Proofs.Amounts.Literals
import Mathlib.Logic.Equiv.Basic

/-!
# Amounts on the wire

The wire form of an amount is its shortest big-endian form; zero is one byte. Byte strings with
zeros in front are read as well, and written without them. So the canonical digits of amounts and
the byte strings without zeros in front are in bijection, and the two conversions are inverse to
each other.
-/

namespace ChainClient
namespace Amount

/-- The shortest big-endian form of a number that has a byte at all. -/
structure IsShortest
    (bytes : Bytes)
    (n : Nat) : Prop where
  nonempty : bytes ≠ []
  denotes : bytes.toNat = n
  least : ∀ other : Bytes, other ≠ [] → other.toNat = n → bytes.length ≤ other.length

/-- The canonical digits of a number that an amount has room for. -/
def IsCanonicalForm (digits : Text) : Prop :=
  Hex.IsCanonical digits ∧ ∃ n < 2 ^ 256, IsNumeral 16 digits n

/-- Bytes of an amount without a zero in front. -/
def IsWireForm (bytes : Bytes) : Prop :=
  IsUnpadded 0 bytes ∧ bytes.length ≤ 32

/-! ## Writing -/

theorem isShortest_toBytes (amount : Amount) :
    IsShortest amount.toBytes amount.val where
  nonempty := (isUnpadded_toBytes amount).1
  denotes := toNat_toBytes amount
  least := by
    intro other nonempty denotes
    by_cases zero : amount = 0
    · rw [toBytes, if_pos zero]
      exact List.length_pos_iff.mpr nonempty
    · rw [toBytes, if_neg zero, Bytes.length_ofNat]
      apply Bytes.widthOf_le_of_lt_capacity
      rw [← denotes]
      exact other.toNat_lt_capacity

theorem isWireForm_toBytes (amount : Amount) :
    IsWireForm amount.toBytes :=
  ⟨isUnpadded_toBytes amount, length_toBytes_le amount⟩

theorem isCanonicalForm_canonical (amount : Amount) :
    IsCanonicalForm amount.canonical := by
  have bound : Bytes.capacity 32 = 2 ^ 256 := by decide
  refine ⟨Hex.isCanonical_ofNat amount.val, amount.val, bound ▸ amount.isLt, ?_⟩
  exact Hex.toNat?_eq_some_iff.mp (Hex.toNat?_ofNat amount.val)

/-- Canonical digits are the canonical form of an amount. -/
theorem exists_canonical_eq
    {digits : Text}
    {n : Nat}
    (canonical : Hex.IsCanonical digits)
    (numeral : IsNumeral 16 digits n)
    (below : n < 2 ^ 256) :
    ∃ amount : Amount, amount.val = n ∧ amount.canonical = digits := by
  have bound : Bytes.capacity 32 = 2 ^ 256 := by decide
  refine ⟨⟨n, bound ▸ below⟩, rfl, ?_⟩
  exact (canonical.toNat?_eq_some_iff.mp (Hex.toNat?_eq_some_iff.mpr numeral)).symm

/-- Bytes without a zero in front are the wire form of an amount. -/
theorem exists_toBytes_eq
    {bytes : Bytes}
    (form : IsWireForm bytes) :
    ∃ amount : Amount, amount.toBytes = bytes := by
  let amount : Amount := ⟨bytes.toNat, Bytes.toNat_lt_capacity_of_length_le form.2⟩
  exact ⟨amount, ((toNat_eq_iff form.1).mp rfl).symm⟩

theorem toBytes_injective :
    Function.Injective toBytes := by
  intro first second same
  apply Fin.ext
  rw [← toNat_toBytes first, same, toNat_toBytes second]

/-! ## Reading -/

theorem canonicalOfWire_bytes (bytes : Bytes) :
    canonicalOfWire (.bytes bytes) =
      if maxBytes < bytes.length then .error (Fault.tooLong bytes.length).toFailure
      else canonical <$> (ofBytes bytes).mapError Fault.toFailure := by
  change (if maxBytes < bytes.length then _ else _) = _
  split
  · rfl
  · rfl

/-- Up to 32 bytes are read as the amount that they denote. -/
theorem canonicalOfWire_eq_ok_iff
    {bytes : Bytes}
    {digits : Text} :
    canonicalOfWire (.bytes bytes) = .ok digits ↔
      bytes.length ≤ 32 ∧ ∃ amount : Amount, bytes.toNat = amount.val ∧
        amount.canonical = digits := by
  rw [canonicalOfWire_bytes, maxBytes]
  split
  · next long =>
      constructor
      · intro read
        cases read
      · rintro ⟨short, -⟩
        omega
  · next short =>
      simp only [map_eq_ok_iff, mapError_eq_ok_iff, ofBytes_eq_ok_iff]
      constructor
      · rintro ⟨amount, ⟨fits, denotes⟩, same⟩
        exact ⟨fits, amount, denotes, same⟩
      · rintro ⟨fits, amount, denotes, same⟩
        exact ⟨amount, ⟨fits, denotes⟩, same⟩

theorem canonicalOfWire_toBytes (amount : Amount) :
    canonicalOfWire (.bytes amount.toBytes) = .ok amount.canonical :=
  canonicalOfWire_eq_ok_iff.mpr ⟨length_toBytes_le amount, amount, toNat_toBytes amount, rfl⟩

theorem exists_canonicalOfWire_eq_ok
    {bytes : Bytes}
    (short : bytes.length ≤ 32) :
    ∃ digits, canonicalOfWire (.bytes bytes) = .ok digits := by
  let amount : Amount := ⟨bytes.toNat, Bytes.toNat_lt_capacity_of_length_le short⟩
  exact ⟨amount.canonical, canonicalOfWire_eq_ok_iff.mpr ⟨short, amount, rfl, rfl⟩⟩

/-- More than 32 bytes are malformed, and no others are. -/
theorem exists_canonicalOfWire_eq_malformedValue_iff
    {bytes : Bytes} :
    (∃ reason, canonicalOfWire (.bytes bytes) = .error (.malformedValue reason)) ↔
      32 < bytes.length := by
  constructor
  · rintro ⟨reason, fails⟩
    by_contra notLong
    obtain ⟨digits, read⟩ := exists_canonicalOfWire_eq_ok (Nat.not_lt.mp notLong)
    cases fails.symm.trans read
  · intro long
    rw [canonicalOfWire_bytes, maxBytes, if_pos long]
    exact ⟨_, rfl⟩

/-- What was read is written without the zeros in front. -/
theorem toBytes_eq_unpad
    {bytes : Bytes}
    {amount : Amount}
    (denotes : bytes.toNat = amount.val) :
    amount.toBytes = Numeral.unpad 0 bytes := by
  have same : Bytes.toNat (Numeral.unpad 0 bytes) = bytes.toNat :=
    Numeral.apply_unpad Bytes.toNat_zero_cons bytes
  exact ((toNat_eq_iff (isUnpadded_unpad 0 bytes)).mp (same.trans denotes)).symm

/-! ## The conversions as a bijection -/

/-- Amounts and their canonical forms. -/
noncomputable def canonicalFormEquiv : Amount ≃ {digits : Text // IsCanonicalForm digits} :=
  Equiv.ofBijective (fun amount => ⟨amount.canonical, isCanonicalForm_canonical amount⟩) <| by
    constructor
    · intro first second same
      exact canonical_injective (congrArg Subtype.val same)
    · rintro ⟨digits, canonical, n, below, numeral⟩
      obtain ⟨amount, -, same⟩ := exists_canonical_eq canonical numeral below
      exact ⟨amount, Subtype.ext same⟩

/-- Amounts and their wire forms. -/
noncomputable def wireFormEquiv : Amount ≃ {bytes : Bytes // IsWireForm bytes} :=
  Equiv.ofBijective (fun amount => ⟨amount.toBytes, isWireForm_toBytes amount⟩) <| by
    constructor
    · intro first second same
      exact toBytes_injective (congrArg Subtype.val same)
    · rintro ⟨bytes, form⟩
      obtain ⟨amount, same⟩ := exists_toBytes_eq form
      exact ⟨amount, Subtype.ext same⟩

/-- The two conversions are inverse to each other on canonical digits and bytes without padding. -/
theorem exists_equiv :
    ∃ forms : {digits : Text // IsCanonicalForm digits} ≃ {bytes : Bytes // IsWireForm bytes},
      (∀ digits, wireOfCanonical (.text digits.val) = .ok (forms digits).val) ∧
      ∀ bytes, canonicalOfWire (.bytes bytes.val) = .ok (forms.symm bytes).val := by
  refine ⟨canonicalFormEquiv.symm.trans wireFormEquiv, ?_, ?_⟩
  · intro digits
    obtain ⟨amount, rfl⟩ := canonicalFormEquiv.surjective digits
    rw [Equiv.trans_apply, Equiv.symm_apply_apply]
    exact wireOfCanonical_canonical amount
  · intro bytes
    obtain ⟨amount, rfl⟩ := wireFormEquiv.surjective bytes
    rw [Equiv.symm_trans_apply, Equiv.symm_symm, Equiv.symm_apply_apply]
    exact canonicalOfWire_toBytes amount

/-- Canonical digits are written as the shortest bytes of their number, one zero byte for zero and
never more than 32, and read back from them. Bytes are malformed exactly if there are more than 32;
any others are read as digits that are written as these bytes without the zeros in front. So the
conversions are inverse bijections between canonical digits and bytes without zeros in front. -/
theorem wire_roundTrip :
    (∀ digits n, Hex.IsCanonical digits ∧ IsNumeral 16 digits n ∧ n < 2 ^ 256 →
      ∃ bytes, wireOfCanonical (.text digits) = .ok bytes ∧ IsShortest bytes n ∧
        (n = 0 → bytes = [0]) ∧ 1 ≤ bytes.length ∧ bytes.length ≤ 32 ∧
        canonicalOfWire (.bytes bytes) = .ok digits) ∧
    (∀ bytes : Bytes,
      ((∃ reason, canonicalOfWire (.bytes bytes) = .error (.malformedValue reason)) ↔
        32 < bytes.length) ∧
      (bytes.length ≤ 32 → ∃ digits, canonicalOfWire (.bytes bytes) = .ok digits ∧
        IsCanonicalForm digits ∧
        wireOfCanonical (.text digits) = .ok (Numeral.unpad 0 bytes))) ∧
    ∃ forms : {digits : Text // IsCanonicalForm digits} ≃ {bytes : Bytes // IsWireForm bytes},
      (∀ digits, wireOfCanonical (.text digits.val) = .ok (forms digits).val) ∧
      ∀ bytes, canonicalOfWire (.bytes bytes.val) = .ok (forms.symm bytes).val := by
  refine ⟨?_, fun bytes => ⟨exists_canonicalOfWire_eq_malformedValue_iff, ?_⟩, exists_equiv⟩
  · rintro digits n ⟨canonical, numeral, below⟩
    obtain ⟨amount, rfl, rfl⟩ := exists_canonical_eq canonical numeral below
    have shortest := isShortest_toBytes amount
    refine ⟨amount.toBytes, wireOfCanonical_canonical amount, shortest, ?_,
      List.length_pos_iff.mpr shortest.nonempty, length_toBytes_le amount,
      canonicalOfWire_toBytes amount⟩
    intro zero
    rw [toBytes, if_pos (Fin.ext zero)]
  · intro short
    obtain ⟨digits, read⟩ := exists_canonicalOfWire_eq_ok short
    obtain ⟨-, amount, denotes, rfl⟩ := canonicalOfWire_eq_ok_iff.mp read
    refine ⟨amount.canonical, read, isCanonicalForm_canonical amount, ?_⟩
    rw [← toBytes_eq_unpad denotes]
    exact wireOfCanonical_canonical amount

theorem wire_roundTrip_padded :
    (∃ bytes, wireOfCanonical (.text "100") = .ok bytes ∧ IsShortest bytes 256 ∧
      canonicalOfWire (.bytes bytes) = .ok "100") ∧
    ∃ digits, canonicalOfWire (.bytes [0, 0, 1]) = .ok digits ∧
      wireOfCanonical (.text digits) = .ok [1] := by
  obtain ⟨written, read, -⟩ := wire_roundTrip
  have digits : Hex.IsCanonical "100" := Hex.isCanonical_ofNat 256
  have numeral : IsNumeral 16 "100" 256 :=
    ⟨[1, 0, 0], by decide, fun value _ => value.isLt, by decide⟩
  obtain ⟨bytes, encoded, shortest, -, -, -, decoded⟩ :=
    written _ _ ⟨digits, numeral, by decide⟩
  obtain ⟨-, short⟩ := read [0, 0, 1]
  obtain ⟨others, otherDecoded, -, otherEncoded⟩ := short (by decide)
  exact ⟨⟨bytes, encoded, shortest, decoded⟩, others, otherDecoded, otherEncoded⟩

end Amount
end ChainClient
