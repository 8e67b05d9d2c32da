import ChainClient.Datum.Octets
import ChainClient.Proofs.Encoding.Spellings

/-!
# Byte literals

A byte literal is pairs of hexadecimal digits behind at most one mark. Reading takes byte literals
and nothing else, and what it takes is written again in small digits behind the mark. So the
literals of a byte string differ in their marks and in the case of their letters alone.
-/

namespace ChainClient
namespace Hex

/-! ## The grammar -/

/-- The decimal digits of ASCII, and its letters from `a` to `f` in both cases. -/
def IsDigit (c : CodePoint) : Prop :=
  (0x30 ≤ c.val ∧ c.val ≤ 0x39) ∨ (0x61 ≤ c.val ∧ c.val ≤ 0x66) ∨
    (0x41 ≤ c.val ∧ c.val ≤ 0x46)

/-- Pairs of digits, with nothing in front of them, between them or behind them. -/
structure IsPairs (digits : Text) : Prop where
  paired : digits.length % 2 = 0
  hexadecimal : ∀ c ∈ digits, IsDigit c

/-- A byte literal is its digits, which are pairs, behind at most one mark. -/
def IsLiteral (t digits : Text) : Prop :=
  IsPairs digits ∧ ∃ mark ∈ marks, t = mark ++ digits

/-- Texts that differ at most in a mark in front and in the case of letters. -/
inductive IsVariant : Text → Text → Prop
  | intro
      {mark otherMark digits others : Text} :
      mark ∈ marks →
      otherMark ∈ marks →
      digits.toLower = others.toLower →
      IsVariant (mark ++ digits) (otherMark ++ others)

/-- What is wrong with text that is not pairs of digits. An odd length counts first. -/
inductive HasFault (t : Text) : Fault → Prop
  | oddLength :
      t.length % 2 = 1 →
      HasFault t (.oddLength t.length)
  | notDigits
      {c : CodePoint} :
      t.length % 2 = 0 →
      c ∈ t →
      ¬ IsDigit c →
      HasFault t (.notDigits t)

section

variable
    {t other mark digits rest : Text}
    {bytes otherBytes : Bytes}
    {fault : Fault}

theorem isPairs_iff_exists_toLower_eq_encode :
    IsPairs digits ↔ ∃ bytes, digits.toLower = encode bytes := by
  rw [exists_toLower_eq_encode_iff]
  simp only [isSome_digit?_iff]
  constructor
  · rintro ⟨paired, hexadecimal⟩
    exact ⟨paired, hexadecimal⟩
  · rintro ⟨paired, hexadecimal⟩
    exact ⟨paired, hexadecimal⟩

theorem isDigits_eq_true_iff :
    isDigits t = true ↔ ∀ c ∈ t, IsDigit c := by
  simp only [isDigits, List.all_eq_true, isSome_digit?_iff, IsDigit]

/-! ## The digit test and the decoder behind it -/

/-- A blank of ASCII. -/
def isAsciiBlank (c : CodePoint) : Bool :=
  c.val == 0x20 || (0x09 ≤ c.val && c.val ≤ 0x0D)

/-- Reads pairs of digits, and skips blanks in front of a pair and behind the last one. -/
def decodeSpaced? : Text → Option Bytes
  | [] => some []
  | high :: low :: rest =>
    if isAsciiBlank high then decodeSpaced? (low :: rest)
    else match digit? high, digit? low, decodeSpaced? rest with
      | some h, some l, some bytes => some (UInt8.ofNat (16 * h.val + l.val) :: bytes)
      | _, _, _ => none
  | [c] => if isAsciiBlank c then some [] else none

theorem IsDigit.isAsciiBlank_eq_false
    {c : CodePoint}
    (isDigit : IsDigit c) :
    isAsciiBlank c = false := by
  simp only [isAsciiBlank, Bool.or_eq_false_iff, beq_eq_false_iff_ne, Bool.and_eq_false_iff,
    decide_eq_false_iff_not]
  unfold IsDigit at isDigit
  omega

/-- Among digits there is no blank to skip. -/
theorem decodeSpaced?_eq_decode?
    (hexadecimal : ∀ c ∈ digits, IsDigit c) :
    decodeSpaced? digits = decode? digits := by
  induction digits using decode?.induct with
  | case1 => rfl
  | case2 high low rest h l bytes restValue lowValue highValue inductionHypothesis
  | case3 high low rest noValue inductionHypothesis =>
      have solid := (hexadecimal high (by simp)).isAsciiBlank_eq_false
      have same := inductionHypothesis fun c present => hexadecimal c (by simp [present])
      have read : decodeSpaced? (high :: low :: rest) =
          match digit? high, digit? low, decode? rest with
          | some h, some l, some bytes => some (UInt8.ofNat (16 * h.val + l.val) :: bytes)
          | _, _, _ => none := by
        rw [decodeSpaced?, solid, if_neg Bool.false_ne_true, same]
      exact read
  | case4 c =>
      have solid := (hexadecimal c (by simp)).isAsciiBlank_eq_false
      rw [decodeSpaced?, solid, if_neg Bool.false_ne_true, decode?]

/-- Behind the test for digits the decoder may skip blanks: there are none left. -/
theorem parse_eq (t : Text) :
    parse t =
      if (stripMark t).length % 2 ≠ 0 then .error (.oddLength (stripMark t).length)
      else if isDigits (stripMark t) then
        match decodeSpaced? (stripMark t) with
        | some bytes => .ok bytes
        | none => .error (.notDigits (stripMark t))
      else .error (.notDigits (stripMark t)) := by
  unfold parse
  dsimp only
  split
  · rfl
  · next paired =>
      cases read : decode? (stripMark t) with
      | none =>
          by_cases hexadecimal : isDigits (stripMark t) = true
          · rw [if_pos hexadecimal, decodeSpaced?_eq_decode? (isDigits_eq_true_iff.mp hexadecimal),
              read]
          · rw [if_neg hexadecimal]
      | some bytes =>
          have pairs := isPairs_iff_exists_toLower_eq_encode.mpr ⟨bytes, toLower_eq_encode read⟩
          rw [if_pos (isDigits_eq_true_iff.mpr pairs.hexadecimal),
            decodeSpaced?_eq_decode? pairs.hexadecimal, read]

example :
    decodeSpaced? " fF " = some [0xFF] ∧ parse " fF " = .error (.notDigits " fF ") := by
  decide

/-! ## What is read -/

theorem parse_eq_ok_iff_isLiteral :
    parse t = .ok bytes ↔ ∃ digits, IsLiteral t digits ∧ digits.toLower = encode bytes := by
  rw [parse_eq_ok_iff]
  constructor
  · rintro ⟨mark, digits, known, split, spelled⟩
    have pairs := isPairs_iff_exists_toLower_eq_encode.mpr ⟨bytes, spelled⟩
    exact ⟨digits, ⟨pairs, mark, known, split⟩, spelled⟩
  · rintro ⟨digits, ⟨-, mark, known, split⟩, spelled⟩
    exact ⟨mark, digits, known, split, spelled⟩

theorem exists_parse_eq_ok_iff :
    (∃ bytes, parse t = .ok bytes) ↔ ∃ digits, IsLiteral t digits := by
  simp only [parse_eq_ok_iff_isLiteral]
  constructor
  · rintro ⟨bytes, digits, literal, -⟩
    exact ⟨digits, literal⟩
  · rintro ⟨digits, literal⟩
    obtain ⟨bytes, spelled⟩ := isPairs_iff_exists_toLower_eq_encode.mp literal.1
    exact ⟨bytes, digits, literal, spelled⟩

theorem parse_eq_error_iff :
    parse t = .error fault ↔ HasFault (stripMark t) fault := by
  rw [parse_eq]
  constructor
  · intro refused
    split at refused
    · next odd =>
        cases refused
        exact .oddLength (by omega)
    · next even =>
        have paired : (stripMark t).length % 2 = 0 := by omega
        split at refused
        · next hexadecimal =>
            -- pairs of digits are decoded, so the decoder behind the test does not refuse any
            have digits := isDigits_eq_true_iff.mp hexadecimal
            obtain ⟨bytes, read⟩ := exists_decode?_eq_some paired fun c present =>
              (isSome_digit?_iff c).mpr (digits c present)
            rw [decodeSpaced?_eq_decode? digits, read] at refused
            cases refused
        · next foreign =>
            cases refused
            rw [isDigits_eq_true_iff] at foreign
            push Not at foreign
            obtain ⟨c, present, noDigit⟩ := foreign
            exact .notDigits paired present noDigit
  · intro fails
    cases fails with
    | oddLength odd => rw [if_pos (by omega)]
    | notDigits paired present noDigit =>
        rw [if_neg (by omega), if_neg]
        intro hexadecimal
        exact noDigit (isDigits_eq_true_iff.mp hexadecimal _ present)

/-! ## What is written of it -/

/-- The digits of a byte string denote the number that its bytes denote. -/
theorem toNat?_encode (bytes : Bytes) :
    toNat? (encode bytes) = some bytes.toNat := by
  induction bytes using List.reverseRecOn with
  | nil => rfl
  | append_singleton bytes byte inductionHypothesis =>
      have split : encode (bytes ++ [byte]) =
          encode bytes ++ [digit ⟨byte.toNat / 16, by have := byte.toNat_lt; omega⟩] ++
            [digit ⟨byte.toNat % 16, Nat.mod_lt _ (by decide)⟩] := by
        simp [encode, ofByte]
      rw [split, toNat?_append_singleton, toNat?_append_singleton, inductionHypothesis,
        digit?_digit, digit?_digit, Bytes.toNat_append_singleton]
      simp only [Option.some.injEq]
      omega

/-- What is written without the mark is read back as well. -/
@[simp] theorem parse_encode (bytes : Bytes) :
    parse (encode bytes) = .ok bytes := by
  have unmarked : parse ([] ++ encode bytes) = .ok bytes :=
    parse_eq_ok (toLower_encode bytes) (by decide)
  rwa [List.nil_append] at unmarked

/-- The digits of a literal are those of its bytes, two for each, but for the case. -/
theorem IsLiteral.toLower_eq_encode
    (literal : IsLiteral t digits)
    (parsed : parse t = .ok bytes) :
    digits.toLower = encode bytes := by
  obtain ⟨pairs, mark, known, rfl⟩ := literal
  obtain ⟨others, spelled⟩ := isPairs_iff_exists_toLower_eq_encode.mp pairs
  have same : bytes = others := Except.ok.inj (parsed.symm.trans (parse_eq_ok spelled known))
  rw [spelled, same]

/-- The digits of a byte string are a numeral of its number in either case. -/
theorem isNumeral_of_toLower_eq_encode
    (spelled : digits.toLower = encode bytes) :
    IsNumeral 16 digits bytes.toNat := by
  obtain ⟨values, written, below, same⟩ := toNat?_eq_some_iff.mp (toNat?_encode bytes)
  rw [toLower_encode, ← spelled] at written
  exact ⟨values, written, below, same⟩

/-! ## Literals of the same bytes -/

theorem isMarkLetter_toLower (c : CodePoint) :
    isMarkLetter c.toLower = isMarkLetter c := by
  rw [Bool.eq_iff_iff]
  simp only [isMarkLetter, Bool.or_eq_true, beq_iff_eq, CodePoint.toLower]
  split
  · dsimp only
    omega
  · rfl

theorem hasMark_toLower (t : Text) :
    hasMark t.toLower = hasMark t := by
  match t with
  | [] => rfl
  | [_] => rfl
  | zero :: letter :: rest =>
      have isZero : (zero.toLower.val == 0x30) = (zero.val == 0x30) := by
        rw [Bool.eq_iff_iff]
        simp only [beq_iff_eq, CodePoint.toLower]
        split
        · dsimp only
          omega
        · rfl
      change (zero.toLower.val == 0x30 && isMarkLetter letter.toLower) = _
      rw [isZero, isMarkLetter_toLower]
      rfl

/-- Taking the mark away does not touch the case of what is left. -/
theorem stripMark_toLower (t : Text) :
    stripMark t.toLower = (stripMark t).toLower := by
  rw [stripMark, stripMark, hasMark_toLower]
  split
  · exact (List.map_drop).symm
  · rfl

/-- A literal is read without its mark as it is read with it. -/
theorem decode?_stripMark_of_parse_append
    (known : mark ∈ marks)
    (parsed : parse (mark ++ rest) = .ok bytes) :
    decode? (stripMark rest) = some bytes := by
  by_cases unmarked : mark = []
  · subst unmarked
    exact decode?_stripMark_of_parse parsed
  · obtain ⟨marked, behind⟩ := hasMark_append known unmarked rest
    have read := decode?_stripMark_of_parse parsed
    rw [stripMark, if_pos marked, behind] at read
    -- what is behind the mark is digits, so it has no mark of its own
    have noMark := hasMark_eq_false_of_digits fun _ =>
      isSome_digit?_of_toLower_eq_encode (toLower_eq_encode read)
    rwa [stripMark, noMark, if_neg Bool.false_ne_true]

/-- Two literals are read as the same bytes exactly if they are variants of each other. -/
theorem eq_iff_isVariant
    (parsed : parse t = .ok bytes)
    (otherParsed : parse other = .ok otherBytes) :
    bytes = otherBytes ↔ IsVariant t other := by
  constructor
  · rintro rfl
    obtain ⟨mark, digits, known, rfl, spelled⟩ := parse_eq_ok_iff.mp parsed
    obtain ⟨otherMark, others, otherKnown, rfl, otherSpelled⟩ := parse_eq_ok_iff.mp otherParsed
    exact .intro known otherKnown (spelled.trans otherSpelled.symm)
  · intro variant
    cases variant with
    | @intro mark otherMark digits others known otherKnown same =>
        have read := decode?_stripMark_of_parse_append known parsed
        have otherRead := decode?_stripMark_of_parse_append otherKnown otherParsed
        apply Option.some.inj
        calc
          some bytes = decode? (stripMark digits) := read.symm
          _ = decode? (stripMark digits.toLower) := by rw [stripMark_toLower, decode?_toLower]
          _ = decode? (stripMark others.toLower) := by rw [same]
          _ = decode? (stripMark others) := by rw [stripMark_toLower, decode?_toLower]
          _ = some otherBytes := otherRead

end

end Hex

namespace Datum

/-- Text that is not read is a bad value, with a note on its fault. -/
theorem bytesOfHex_text (t : Text) :
    (text t).bytesOfHex = (Hex.parse t).mapError fun fault => .badValue fault.message := by
  rw [bytesOfHex]
  cases Hex.parse t with
  | ok bytes => rfl
  | error fault => rfl

/-- Text is read exactly if it is a literal, and else a bad value, with a note on what is wrong
behind its mark. Bytes are read back from their digits, with the mark or without it. The bytes of a
literal have its digits, in their small form, behind the mark: two for each byte, that denote the
same number. So two literals have the same bytes exactly if they differ at most in the mark and in
the case of letters. -/
theorem bytesOfHex_outcome :
    (∀ t : Text,
      ((∃ bytes, (text t).bytesOfHex = .ok bytes) ↔ ∃ digits, Hex.IsLiteral t digits) ∧
      ((¬ ∃ digits, Hex.IsLiteral t digits) →
        ∃ fault, Hex.HasFault (Hex.stripMark t) fault ∧
          (text t).bytesOfHex = .error (.badValue fault.message))) ∧
    (∀ (bytes : Bytes) (marked : Bool),
      (text (if marked then Hex.encodeMarked bytes else Hex.encode bytes)).bytesOfHex =
        .ok bytes) ∧
    (∀ t digits bytes, Hex.IsLiteral t digits → (text t).bytesOfHex = .ok bytes →
      Hex.encodeMarked bytes = Text.ofString "0x" ++ digits.toLower ∧
        digits.length = 2 * bytes.length ∧ IsNumeral 16 digits bytes.toNat) ∧
    ∀ t other bytes otherBytes, (text t).bytesOfHex = .ok bytes →
      (text other).bytesOfHex = .ok otherBytes →
      (bytes = otherBytes ↔ Hex.IsVariant t other) := by
  simp only [bytesOfHex_text, mapError_eq_ok_iff]
  refine ⟨fun t => ⟨Hex.exists_parse_eq_ok_iff, ?_⟩, ?_, ?_, ?_⟩
  · intro noLiteral
    obtain ⟨fault, refused⟩ := not_exists_ok_iff.mp (mt Hex.exists_parse_eq_ok_iff.mp noLiteral)
    refine ⟨fault, Hex.parse_eq_error_iff.mp refused, ?_⟩
    rw [refused]
    rfl
  · intro bytes marked
    cases marked with
    | true => exact Hex.parse_encodeMarked bytes
    | false => exact Hex.parse_encode bytes
  · intro t digits bytes literal parsed
    have spelled := literal.toLower_eq_encode parsed
    have written : Hex.encodeMarked bytes = Text.ofString "0x" ++ digits.toLower := by
      rw [spelled]
      rfl
    exact ⟨written, Hex.length_of_toLower_eq_encode spelled,
      Hex.isNumeral_of_toLower_eq_encode spelled⟩
  · intro t other bytes otherBytes parsed otherParsed
    exact Hex.eq_iff_isVariant parsed otherParsed

theorem bytesOfHex_outcome_mixedCase :
    Hex.encodeMarked [0xAB, 0xCD] = Text.ofString "0x" ++ Text.toLower "aBcD" ∧
      Hex.IsVariant "0XaBcD" "abCd" ∧
      ∃ fault, Hex.HasFault "0xab" fault ∧
        (text "0x0xab").bytesOfHex = .error (.badValue fault.message) := by
  obtain ⟨reading, -, writing, alike⟩ := bytesOfHex_outcome
  have literal : Hex.IsLiteral "0XaBcD" "aBcD" :=
    ⟨⟨by decide, Hex.isDigits_eq_true_iff.mp (by decide)⟩, "0X", by decide, by decide⟩
  have read : (text "0XaBcD").bytesOfHex = .ok [0xAB, 0xCD] := by decide
  have otherRead : (text "abCd").bytesOfHex = .ok [0xAB, 0xCD] := by decide
  have twoMarks : ¬ ∃ digits, Hex.IsLiteral "0x0xab" digits := by
    rw [← (reading "0x0xab").1]
    rintro ⟨bytes, parsed⟩
    have refused : Hex.parse "0x0xab" = .error (.notDigits "0xab") := by decide
    rw [bytesOfHex_text, refused] at parsed
    cases parsed
  exact ⟨(writing _ _ _ literal read).1, (alike _ _ _ _ read otherRead).mp rfl,
    (reading "0x0xab").2 twoMarks⟩

end Datum
end ChainClient
