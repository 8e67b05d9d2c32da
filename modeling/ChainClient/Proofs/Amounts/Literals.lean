import ChainClient.Proofs.Encoding.CanonicalForms

/-!
# Literals of amounts

A literal spells at most one number, and it is read exactly if that number is below 2^256: how many
digits it has, zeros in front included, plays no part. Amounts and canonical forms determine each
other.
-/

namespace ChainClient

/-! ## The number of a literal -/

/-- Digits of a base denote one number. -/
theorem IsNumeral.unique
    {base m n : Nat}
    {t : Text}
    (first : IsNumeral base t m)
    (second : IsNumeral base t n) :
    m = n := by
  obtain ⟨values, written, -, rfl⟩ := first
  obtain ⟨others, otherWritten, -, rfl⟩ := second
  have same : values = others :=
    List.map_injective_iff.mpr Hex.digit_injective (written.symm.trans otherWritten)
  rw [same]

namespace Amount

/-- Decimal digits do not start with a mark. -/
theorem not_isNumeral_mark_append
    {mark digits : Text}
    {n : Nat}
    (known : mark ∈ Hex.marks)
    (marked : mark ≠ []) :
    ¬ IsNumeral 10 (mark ++ digits) n := by
  intro numeral
  have unmarked := hasMark_eq_false_of_isDigit (ofAsciiDigits_eq_iff.mpr numeral).1
  rw [(Hex.hasMark_append known marked digits).1] at unmarked
  cases unmarked

/-- A literal spells one number, in base ten or behind a mark in base sixteen. -/
theorem Spells.unique
    {literal : Text}
    {m n : Nat}
    (first : Spells (.text literal) m)
    (second : Spells (.text literal) n) :
    m = n := by
  cases first with
  | decimal _ numeral =>
      cases second with
      | decimal _ other => exact numeral.unique other
      | hexadecimal split known marked =>
          rw [split] at numeral
          exact absurd numeral (not_isNumeral_mark_append known marked)
  | @hexadecimal _ mark digits _ split known marked _ numeral =>
      cases second with
      | decimal _ other =>
          rw [split] at other
          exact absurd other (not_isNumeral_mark_append known marked)
      | @hexadecimal _ otherMark others _ otherSplit otherKnown otherMarked _ other =>
          have same : digits = others := by
            rw [← (Hex.hasMark_append known marked digits).2, ← split, otherSplit,
              (Hex.hasMark_append otherKnown otherMarked others).2]
          rw [← same] at other
          exact numeral.unique other

/-! ## Reading -/

theorem exists_parse_eq_ok_val_iff
    {value : Datum}
    {n : Nat} :
    (∃ amount : Amount, parse value = .ok amount ∧ amount.val = n) ↔
      Spells value n ∧ n < 2 ^ 256 := by
  have bound : Bytes.capacity 32 = 2 ^ 256 := by decide
  constructor
  · rintro ⟨amount, read, rfl⟩
    exact ⟨parse_eq_ok_iff.mp read, bound ▸ amount.isLt⟩
  · rintro ⟨spells, below⟩
    exact ⟨⟨n, bound ▸ below⟩, parse_eq_ok_iff.mpr spells, rfl⟩

/-- Every fault of a literal has a message. -/
theorem Fault.IsOfLiteral.exists_toFailure_eq
    {fault : Fault}
    (ofLiteral : fault.IsOfLiteral) :
    ∃ reason, fault.toFailure = .malformedValue reason := by
  cases ofLiteral with
  | empty => exact ⟨_, rfl⟩
  | notHex => exact ⟨_, rfl⟩
  | notNumeral => exact ⟨_, rfl⟩
  | tooWide => exact ⟨_, rfl⟩

theorem exists_malformedValue_of_parse
    {literal : Text}
    {failure : Failure}
    (fails : parse (.text literal) = .error failure) :
    ∃ reason, failure = .malformedValue reason := by
  obtain ⟨fault, faulty, rfl⟩ := mapError_eq_error_iff.mp fails
  exact (failsOnlyWith_ofLiteral literal fault faulty).exists_toFailure_eq

/-- A literal is malformed exactly if it spells no number that an amount has room for. -/
theorem exists_parse_eq_malformedValue_iff
    {literal : Text} :
    (∃ reason, parse (.text literal) = .error (.malformedValue reason)) ↔
      ¬ ∃ n < 2 ^ 256, Spells (.text literal) n := by
  rw [← exists_parse_iff, not_exists_ok_iff]
  constructor
  · rintro ⟨reason, fails⟩
    exact ⟨_, fails⟩
  · rintro ⟨failure, fails⟩
    obtain ⟨reason, rfl⟩ := exists_malformedValue_of_parse fails
    exact ⟨reason, fails⟩

/-! ## Canonical forms -/

/-- Amounts with the same canonical form are the same. -/
theorem canonical_injective :
    Function.Injective canonical := by
  intro first second same
  apply Fin.ext
  have read := congrArg Hex.toNat? same
  rwa [canonical, canonical, Hex.toNat?_ofNat, Hex.toNat?_ofNat, Option.some.injEq] at read

theorem normalize_eq_ok_iff
    {value : Datum}
    {digits : Text} :
    normalize value = .ok digits ↔
      ∃ amount, parse value = .ok amount ∧ amount.canonical = digits :=
  map_eq_ok_iff

theorem parse_mark_canonical (amount : Amount) :
    parse (.text (Hex.mark ++ amount.canonical)) = .ok amount := by
  rw [parse, ofDatum, ofLiteral_mark_canonical]
  rfl

/-- Behind a mark, the canonical form of a value is read as the value itself. -/
theorem normalize_bind_parse (value : Datum) :
    (normalize value >>= fun digits => parse (.text (Hex.mark ++ digits))) = parse value := by
  rw [normalize]
  cases parse value with
  | error failure => rfl
  | ok amount => exact parse_mark_canonical amount

/-- Two values have one canonical form exactly if they spell one amount. -/
theorem exists_normalize_eq_ok_iff
    {value other : Datum} :
    (∃ digits, normalize value = .ok digits ∧ normalize other = .ok digits) ↔
      ∃ n < 2 ^ 256, Spells value n ∧ Spells other n := by
  have bound : Bytes.capacity 32 = 2 ^ 256 := by decide
  simp only [normalize_eq_ok_iff]
  constructor
  · rintro ⟨_, ⟨amount, read, rfl⟩, same, otherRead, equal⟩
    obtain rfl := canonical_injective equal
    exact ⟨same.val, bound ▸ same.isLt, parse_eq_ok_iff.mp read, parse_eq_ok_iff.mp otherRead⟩
  · rintro ⟨n, below, spells, otherSpells⟩
    let amount : Amount := ⟨n, bound ▸ below⟩
    have read : parse value = .ok amount := parse_eq_ok_iff.mpr spells
    have otherRead : parse other = .ok amount := parse_eq_ok_iff.mpr otherSpells
    exact ⟨amount.canonical, ⟨amount, read, rfl⟩, amount, otherRead, rfl⟩

/-- A literal spells at most one number. It is read exactly if there is one and it is below 2^256,
and as this number; every other literal is a malformed value and fails in no other way. Behind a
mark the canonical form is read as the literal itself, and two literals have the same canonical
form exactly if they spell the same amount. -/
theorem literal_outcome (literal : Text) :
    (∀ m n, Spells (.text literal) m ∧ Spells (.text literal) n → m = n) ∧
    (∀ n, (∃ amount : Amount, parse (.text literal) = .ok amount ∧ amount.val = n) ↔
      Spells (.text literal) n ∧ n < 2 ^ 256) ∧
    ((∃ reason, parse (.text literal) = .error (.malformedValue reason)) ↔
      ¬ ∃ n < 2 ^ 256, Spells (.text literal) n) ∧
    (normalize (.text literal) >>= fun digits => parse (.text (Hex.mark ++ digits))) =
      parse (.text literal) ∧
    ∀ other, (∃ digits, normalize (.text literal) = .ok digits ∧
        normalize (.text other) = .ok digits) ↔
      ∃ n < 2 ^ 256, Spells (.text literal) n ∧ Spells (.text other) n :=
  ⟨fun _ _ both => both.1.unique both.2, fun _ => exists_parse_eq_ok_val_iff,
    exists_parse_eq_malformedValue_iff, normalize_bind_parse _,
    fun _ => exists_normalize_eq_ok_iff⟩

theorem literal_outcome_padded :
    (∃ amount : Amount, parse (.text " 0X00fF") = .ok amount ∧ amount.val = 255) ∧
      ∃ digits, normalize (.text " 0X00fF") = .ok digits ∧
        normalize (.text "255") = .ok digits := by
  obtain ⟨-, read, -, -, alike⟩ := literal_outcome " 0X00fF"
  have marked : Spells (.text " 0X00fF") 255 :=
    @Spells.hexadecimal _ [0x30, 0x58] [0x30, 0x30, 0x66, 0x46] _ (by decide) (by decide)
      (by decide) (by decide) ⟨[0, 0, 15, 15], by decide, fun value _ => value.isLt, by decide⟩
  have decimal : Spells (.text "255") 255 :=
    .decimal (by decide) ⟨[2, 5, 5], by decide, by decide, by decide⟩
  exact ⟨(read 255).mpr ⟨marked, by decide⟩, (alike _).mpr ⟨255, by decide, marked, decimal⟩⟩

end Amount
end ChainClient
