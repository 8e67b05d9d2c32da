import ChainClient.Proofs.Encoding.Amounts
import ChainClient.Proofs.Results
import ChainClient.Transaction.Builder
import Mathlib.Data.Nat.Digits.Defs

/-!
# Spellings of amounts and payloads

An amount can be given as an integer, as a decimal literal or as a hexadecimal literal, a
payload as nothing, as bytes or as hexadecimal text. What a value spells is said here apart
from how it is read; the readers find exactly that.
-/

namespace ChainClient

/-! ## Numerals -/

/-- Text in digits of a base, of either case, that denotes a number. -/
def IsNumeral
    (base : Nat)
    (t : Text)
    (n : Nat) : Prop :=
  ∃ values : List (Fin 16),
    t.toLower = values.map Hex.digit ∧ (∀ value ∈ values, value.val < base) ∧
      n = Nat.ofDigits base (values.reverse.map Fin.val)

theorem isNumeral_nil_iff
    {base n : Nat} :
    IsNumeral base [] n ↔ n = 0 := by
  constructor
  · rintro ⟨values, written, -, rfl⟩
    obtain rfl : values = [] := List.map_eq_nil_iff.mp written.symm
    rfl
  · rintro rfl
    exact ⟨[], rfl, by simp, rfl⟩

/-- The last digit of a numeral is its last place. -/
theorem isNumeral_append_singleton_iff
    {base n : Nat}
    {t : Text}
    {c : CodePoint} :
    IsNumeral base (t ++ [c]) n ↔
      ∃ high value, IsNumeral base t high ∧ c.toLower = Hex.digit value ∧ value.val < base ∧
        n = base * high + value.val := by
  constructor
  · rintro ⟨values, written, below, rfl⟩
    rw [Text.toLower, List.map_append] at written
    obtain ⟨front, last, rfl, frontWritten, lastWritten⟩ :=
      List.append_eq_map_iff.mp written
    obtain ⟨value, rest, rfl, same, restWritten⟩ := List.map_eq_cons_iff.mp lastWritten
    obtain rfl : rest = [] := List.map_eq_nil_iff.mp restWritten
    refine ⟨_, value, ⟨front, frontWritten.symm, ?_, rfl⟩, same.symm, below value (by simp), ?_⟩
    · intro other present
      exact below other (List.mem_append_left _ present)
    · simp only [List.reverse_append, List.reverse_singleton, List.singleton_append,
        List.map_cons, Nat.ofDigits_cons]
      exact Nat.add_comm _ _
  · rintro ⟨high, value, ⟨front, frontWritten, frontBelow, rfl⟩, same, below, rfl⟩
    refine ⟨front ++ [value], ?_, ?_, ?_⟩
    · rw [Text.toLower, List.map_append, List.map_append, ← frontWritten, List.map_singleton,
        List.map_singleton, same]
      rfl
    · rw [List.forall_mem_append, List.forall_mem_singleton]
      exact ⟨frontBelow, below⟩
    · simp only [List.reverse_append, List.reverse_singleton, List.singleton_append,
        List.map_cons, Nat.ofDigits_cons]
      exact Nat.add_comm _ _

/-- Zeros in front of a numeral do not count. -/
theorem IsNumeral.padded
    {base n : Nat}
    {t : Text}
    (positive : 0 < base)
    (numeral : IsNumeral base t n)
    (count : Nat) :
    IsNumeral base (List.replicate count 0x30 ++ t) n := by
  obtain ⟨values, written, below, rfl⟩ := numeral
  refine ⟨List.replicate count 0 ++ values, ?_, ?_, ?_⟩
  · rw [Text.toLower, List.map_append, List.map_append, ← written, List.map_replicate,
      List.map_replicate]
    rfl
  · intro value present
    rcases List.mem_append.mp present with padding | digit
    · obtain rfl := List.eq_of_mem_replicate padding
      exact positive
    · exact below value digit
  · rw [List.reverse_append, List.map_append, List.reverse_replicate, List.map_replicate,
      Nat.ofDigits_append]
    simp [Nat.ofDigits_replicate_zero]

namespace Hex

/-- The hexadecimal digits of a number, in either case and with any number of zeros in front,
are read as the number. -/
theorem toNat?_eq_some_iff
    {t : Text}
    {n : Nat} :
    toNat? t = some n ↔ IsNumeral 16 t n := by
  induction t using List.reverseRecOn generalizing n with
  | nil =>
      rw [isNumeral_nil_iff, toNat?, List.foldl_nil, Option.some.injEq]
      exact eq_comm
  | append_singleton t c inductionHypothesis =>
      rw [toNat?_append_singleton, isNumeral_append_singleton_iff]
      simp only [← inductionHypothesis, ← digit?_eq_some_iff]
      cases toNat? t with
      | none => simp
      | some high =>
          cases digit? c with
          | none => simp
          | some value => simp [eq_comm]

end Hex

namespace Amount

/-- The decimal digits are those of the sixteen that stand for less than ten. -/
theorem isDigit_and_place_iff
    {c : CodePoint}
    {place : Nat} :
    (Numeral.isDigit c = true ∧ c.val - 0x30 = place) ↔
      ∃ value, c.toLower = Hex.digit value ∧ value.val < 10 ∧ value.val = place := by
  simp only [← Hex.digit?_eq_some_iff, Numeral.isDigit, Bool.and_eq_true, decide_eq_true_iff]
  constructor
  · rintro ⟨decimal, rfl⟩
    refine ⟨⟨c.val - 0x30, by omega⟩, ?_, ?_, rfl⟩
    · rw [Hex.digit?, dif_pos decimal]
    · simp only
      omega
  · rintro ⟨value, read, below, rfl⟩
    unfold Hex.digit? at read
    split at read
    · next decimal =>
        cases read
        exact ⟨decimal, rfl⟩
    · split at read
      · cases read
        simp only at below
        omega
      · split at read
        · cases read
          simp only at below
          omega
        · cases read

/-- Decimal digits, with any number of zeros in front, are read as their number. -/
theorem ofAsciiDigits_eq_iff
    {t : Text}
    {n : Nat} :
    ((∀ c ∈ t, Numeral.isDigit c = true) ∧ Numeral.ofAsciiDigits t = n) ↔
      IsNumeral 10 t n := by
  induction t using List.reverseRecOn generalizing n with
  | nil =>
      rw [isNumeral_nil_iff]
      constructor
      · rintro ⟨-, rfl⟩
        rfl
      · rintro rfl
        exact ⟨by simp, rfl⟩
  | append_singleton t c inductionHypothesis =>
      simp only [List.forall_mem_append, List.forall_mem_singleton,
        Numeral.ofAsciiDigits_append_singleton, isNumeral_append_singleton_iff,
        ← inductionHypothesis]
      constructor
      · rintro ⟨⟨digits, digit⟩, rfl⟩
        obtain ⟨value, same, below, place⟩ := isDigit_and_place_iff.mp ⟨digit, rfl⟩
        exact ⟨_, value, ⟨digits, rfl⟩, same, below, by rw [place]⟩
      · rintro ⟨_, value, ⟨digits, rfl⟩, same, below, rfl⟩
        obtain ⟨digit, place⟩ := isDigit_and_place_iff.mpr ⟨value, same, below, rfl⟩
        exact ⟨⟨digits, digit⟩, by rw [place]⟩

/-- A value that spells a number: an integer, or text that, but for blanks around it, is a
decimal literal or, behind a mark, a hexadecimal one. -/
inductive Spells : Datum → Nat → Prop
  | integer (n : Nat) :
      Spells (.int n) n
  | decimal
      {t : Text}
      {n : Nat} :
      t.trim ≠ [] →
      IsNumeral 10 t.trim n →
      Spells (.text t) n
  | hexadecimal
      {t mark digits : Text}
      {n : Nat} :
      t.trim = mark ++ digits →
      mark ∈ Hex.marks →
      mark ≠ [] →
      digits ≠ [] →
      IsNumeral 16 digits n →
      Spells (.text t) n

theorem ofInt_eq_ok_iff
    {n : Int}
    {amount : Amount} :
    ofInt n = .ok amount ↔ n = amount.val := by
  constructor
  · intro read
    unfold ofInt at read
    split at read
    · cases read
    · split at read
      · cases read
        simp only
        omega
      · cases read
  · rintro rfl
    exact ofInt_val amount

theorem isDecimal_iff {t : Text} :
    isDecimal t = true ↔ t ≠ [] ∧ ∀ c ∈ t, Numeral.isDigit c = true := by
  simp [isDecimal]

theorem hasMark_eq_false_of_isDigit
    {t : Text}
    (digits : ∀ c ∈ t, Numeral.isDigit c = true) :
    Hex.hasMark t = false := by
  apply Hex.hasMark_eq_false_of_digits
  intro c present
  have decimal := digits c present
  simp only [Numeral.isDigit, Bool.and_eq_true, decide_eq_true_iff] at decimal
  exact (Hex.isSome_digit?_iff c).mpr (.inl decimal)

/-- A natural number is no amount only if it is too wide. -/
theorem failsOnlyWith_ofInt_natCast (n : Nat) :
    FailsOnlyWith (· = .tooWide) (ofInt n) := by
  unfold ofInt
  split
  · next negative => exact absurd negative (by omega)
  · split
    · exact .ok _
    · exact .error rfl

/-- What can be wrong with a literal. -/
inductive Fault.IsOfLiteral : Fault → Prop
  | empty : IsOfLiteral .empty
  | notHex (literal : Text) : IsOfLiteral (.notHex literal)
  | notNumeral (literal : Text) : IsOfLiteral (.notNumeral literal)
  | tooWide : IsOfLiteral .tooWide

/-- A literal has no other faults: its digits are never too many to be converted. -/
theorem failsOnlyWith_ofLiteral (literal : Text) :
    FailsOnlyWith Fault.IsOfLiteral (ofLiteral literal) := by
  have natural : ∀ n : Nat, FailsOnlyWith Fault.IsOfLiteral (ofInt n) := by
    intro n fault fails
    rw [failsOnlyWith_ofInt_natCast n fault fails]
    exact .tooWide
  unfold ofLiteral
  dsimp only
  split
  · exact .error .empty
  · split
    · split
      · exact natural _
      · exact .error (.notHex literal)
    · split
      · next decimal =>
          rw [ofDecimal_eq (isDecimal_iff.mp decimal).2]
          exact natural _
      · exact .error (.notNumeral literal)

/-- A literal is read as the amount that it spells, and as nothing else. -/
theorem ofLiteral_eq_ok_iff
    {literal : Text}
    {amount : Amount} :
    ofLiteral literal = .ok amount ↔ Spells (.text literal) amount.val := by
  constructor
  · intro read
    simp only [ofLiteral, List.isEmpty_iff] at read
    split at read
    · cases read
    · next nonempty =>
        split at read
        · next marked =>
            obtain ⟨mark, known, markNonempty, split⟩ := Hex.exists_mark_of_hasMark marked
            split at read
            · next first rest n form found =>
                obtain rfl : n = amount.val := Int.ofNat_inj.mp (ofInt_eq_ok_iff.mp read)
                exact .hexadecimal split known markNonempty (by simp [form])
                  (Hex.toNat?_eq_some_iff.mp found)
            · cases read
        · split at read
          · next decimal =>
              obtain ⟨-, digits⟩ := isDecimal_iff.mp decimal
              rw [ofDecimal_eq digits] at read
              have value := Int.ofNat_inj.mp (ofInt_eq_ok_iff.mp read)
              exact .decimal nonempty (ofAsciiDigits_eq_iff.mp ⟨digits, value⟩)
          · cases read
  · intro spells
    simp only [ofLiteral, List.isEmpty_iff]
    cases spells with
    | decimal nonempty numeral =>
        obtain ⟨digits, value⟩ := ofAsciiDigits_eq_iff.mpr numeral
        rw [if_neg nonempty, if_neg (Bool.eq_false_iff.mp (hasMark_eq_false_of_isDigit digits)),
          if_pos (isDecimal_iff.mpr ⟨nonempty, digits⟩), ofDecimal_eq digits, value]
        exact ofInt_val amount
    | @hexadecimal _ mark digits _ split known markNonempty nonempty numeral =>
        obtain ⟨marked, rest⟩ := Hex.hasMark_append known markNonempty digits
        obtain ⟨first, others, form⟩ := List.exists_cons_of_ne_nil nonempty
        have notEmpty : mark ++ digits ≠ [] := by simp [nonempty]
        rw [split, if_neg notEmpty, if_pos marked, rest, Hex.toNat?_eq_some_iff.mpr numeral, form]
        exact ofInt_val amount

/-- A value is read as the amount that it spells, and as nothing else. -/
theorem parse_eq_ok_iff
    {value : Datum}
    {amount : Amount} :
    parse value = .ok amount ↔ Spells value amount.val := by
  rw [parse, mapError_eq_ok_iff]
  cases value with
  | text literal => exact ofLiteral_eq_ok_iff
  | int n =>
      rw [ofDatum, ofInt_eq_ok_iff]
      constructor
      · rintro rfl
        exact .integer amount.val
      · intro spells
        cases spells with
        | integer => rfl
  | null | bool | float | bytes | list | record =>
      constructor
      · intro read
        cases read
      · intro spells
        cases spells

/-- A value is read exactly if it spells a number that an amount has room for. -/
theorem exists_parse_iff
    {value : Datum} :
    (∃ amount, parse value = .ok amount) ↔ ∃ n < 2 ^ 256, Spells value n := by
  have bound : Bytes.capacity 32 = 2 ^ 256 := by decide
  simp only [parse_eq_ok_iff]
  constructor
  · rintro ⟨amount, spells⟩
    exact ⟨amount.val, bound ▸ amount.isLt, spells⟩
  · rintro ⟨n, below, spells⟩
    exact ⟨⟨n, bound ▸ below⟩, spells⟩

end Amount

/-! ## Payloads -/

namespace Transaction

/-- A value that spells a payload: nothing, bytes, or a hexadecimal spelling of bytes. -/
inductive SpellsPayload : Datum → Bytes → Prop
  | none :
      SpellsPayload .null []
  | bytes (bytes : Bytes) :
      SpellsPayload (.bytes bytes) bytes
  | text
      {t : Text}
      {bytes : Bytes} :
      Hex.Spells t bytes →
      SpellsPayload (.text t) bytes

theorem payloadBytes_text_eq_ok_iff
    {t : Text}
    {bytes : Bytes} :
    payloadBytes (.text t) = .ok bytes ↔ Hex.Spells t bytes := by
  constructor
  · intro read
    simp only [payloadBytes] at read
    split at read
    · cases read
    · split at read
      · next found =>
          cases read
          obtain ⟨before, after, split, blankBefore, blankAfter⟩ := t.exists_surrounded_trim
          obtain ⟨mark, known, marked⟩ := Hex.exists_mark_append_stripMark t.trim
          refine ⟨before, mark, Hex.stripMark t.trim, after, ?_, blankBefore, blankAfter, known,
            Hex.toLower_eq_encode found⟩
          rw [← marked]
          exact split
      · cases read
  · intro spells
    have found := Hex.decode?_stripMark_of_parse spells.parse_trim
    have hexadecimal : Hex.isDigits (Hex.stripMark t.trim) = true := by
      apply List.all_eq_true.mpr
      intro c present
      exact Hex.isSome_digit?_of_toLower_eq_encode (Hex.toLower_eq_encode found) present
    simp only [payloadBytes]
    rw [if_neg (not_not.mpr hexadecimal), found]

/-- A value is read as the payload that it spells, and as nothing else. -/
theorem payloadBytes_eq_ok_iff
    {value : Datum}
    {bytes : Bytes} :
    payloadBytes value = .ok bytes ↔ SpellsPayload value bytes := by
  constructor
  · intro read
    cases value with
    | text t => exact .text (payloadBytes_text_eq_ok_iff.mp read)
    | null =>
        cases read
        exact .none
    | bytes given =>
        cases read
        exact .bytes bytes
    | bool | int | float | list | record => cases read
  · intro spells
    cases spells with
    | none => rfl
    | bytes => rfl
    | text spelled => exact payloadBytes_text_eq_ok_iff.mpr spelled

end Transaction

end ChainClient
