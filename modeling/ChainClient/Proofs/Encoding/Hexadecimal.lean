import ChainClient.Text.Blank
import ChainClient.Proofs.Encoding.Numerals
import Mathlib.Data.List.TakeWhile

/-!
# Spellings of byte strings

A byte string can be spelled in many ways: with or without a mark, with digits of
either case, and with blanks around the whole. Every spelling is read as the bytes
that it spells.
-/

namespace ChainClient

namespace Text

/-- Blanks around a text without blanks are trimmed, and nothing else is. -/
theorem trimBy_surrounded
    {p : CodePoint → Bool}
    {before core after : Text}
    (blankBefore : ∀ c ∈ before, p c = true)
    (solid : ∀ c ∈ core, p c = false)
    (blankAfter : ∀ c ∈ after, p c = true) :
    trimBy p (before ++ core ++ after) = core := by
  have coreStays : ∀ t : Text, (∀ c ∈ t, p c = false) → t.dropWhile p = t := by
    intro t solid
    cases t with
    | nil => rfl
    | cons c rest => exact List.dropWhile_cons_of_neg (by simp [solid c List.mem_cons_self])
  have frontKept : (core ++ after).dropWhile p = core ++ after ∨ core = [] := by
    cases core with
    | nil => exact Or.inr rfl
    | cons c rest =>
        left
        exact List.dropWhile_cons_of_neg (by simp [solid c List.mem_cons_self])
  rw [trimBy, List.append_assoc, List.dropWhile_append_of_pos blankBefore]
  rcases frontKept with kept | empty
  · rw [kept, List.reverse_append, List.dropWhile_append_of_pos (by simpa using blankAfter),
      coreStays _ (by simpa using solid), List.reverse_reverse]
  · subst empty
    have allDropped : after.dropWhile p = [] :=
      List.dropWhile_eq_nil_iff.mpr blankAfter
    simp [allDropped]

/-- Text is what trimming leaves of it, between what was trimmed. -/
theorem exists_surrounded_trimBy
    (p : CodePoint → Bool)
    (t : Text) :
    ∃ before after : Text, t = before ++ t.trimBy p ++ after ∧
      (∀ c ∈ before, p c = true) ∧ ∀ c ∈ after, p c = true := by
  let front := t.dropWhile p
  refine ⟨t.takeWhile p, (front.reverse.takeWhile p).reverse, ?_, ?_, ?_⟩
  · have kept : t.trimBy p ++ (front.reverse.takeWhile p).reverse = front := by
      rw [trimBy, ← List.reverse_append, List.takeWhile_append_dropWhile, List.reverse_reverse]
    rw [List.append_assoc, kept, List.takeWhile_append_dropWhile]
  · intro c present
    exact List.mem_takeWhile_imp present
  · intro c present
    exact List.mem_takeWhile_imp (List.mem_reverse.mp present)

/-- Text is what trimming leaves of it, between blanks. -/
theorem exists_surrounded_trim (t : Text) :
    ∃ before after : Text, t = before ++ t.trim ++ after ∧
      (∀ c ∈ before, c.isBlank = true) ∧ ∀ c ∈ after, c.isBlank = true :=
  exists_surrounded_trimBy CodePoint.isBlank t

/-- Text without blanks is trimmed already. -/
theorem trim_eq_self
    {t : Text}
    (solid : ∀ c ∈ t, c.isBlank = false) :
    t.trim = t := by
  have trimmed : trimBy CodePoint.isBlank ([] ++ t ++ []) = t :=
    trimBy_surrounded (by simp) solid (by simp)
  rwa [List.nil_append, List.append_nil] at trimmed

end Text

namespace Hex

theorem isSome_digit?_iff (c : CodePoint) :
    (digit? c).isSome = true ↔
      (0x30 ≤ c.val ∧ c.val ≤ 0x39) ∨ (0x61 ≤ c.val ∧ c.val ≤ 0x66) ∨
        (0x41 ≤ c.val ∧ c.val ≤ 0x46) := by
  unfold digit?
  split
  · simp_all
  · split
    · simp_all
    · split <;> simp_all

/-- A digit has one value in both cases. -/
@[simp] theorem digit?_toLower (c : CodePoint) :
    digit? c.toLower = digit? c := by
  by_cases capital : 0x41 ≤ c.val ∧ c.val ≤ 0x5A
  · have lowered : c.toLower.val = c.val + 0x20 := by
      simp [CodePoint.toLower, capital]
    by_cases letter : c.val ≤ 0x46
    · have notDecimal : ¬ (0x30 ≤ c.val ∧ c.val ≤ 0x39) := by omega
      have notSmall : ¬ (0x61 ≤ c.val ∧ c.val ≤ 0x66) := by omega
      simp only [digit?, lowered]
      rw [dif_neg (by omega), dif_pos (by omega), dif_neg notDecimal, dif_neg notSmall,
        dif_pos (by omega)]
      simp only [Option.some.injEq, Fin.mk.injEq]
      omega
    · simp only [digit?, lowered]
      rw [dif_neg (by omega), dif_neg (by omega), dif_neg (by omega), dif_neg (by omega),
        dif_neg (by omega), dif_neg (by omega)]
  · rw [CodePoint.toLower, dif_neg capital]

/-- Pairs of digits are read alike in both cases. -/
@[simp] theorem decode?_toLower (t : Text) :
    decode? t.toLower = decode? t := by
  induction t using decode?.induct with
  | case1 => rfl
  | case2 high low rest h l bytes highValue lowValue restValue inductionHypothesis
  | case3 high low rest noValue inductionHypothesis =>
      have lowered : Text.toLower (high :: low :: rest) =
          high.toLower :: low.toLower :: Text.toLower rest := rfl
      rw [lowered, decode?, decode?, digit?_toLower, digit?_toLower, inductionHypothesis]
  | case4 c => rfl

theorem isBlank_eq_false_of_isSome_digit?
    {c : CodePoint}
    (isDigit : (digit? c).isSome = true) :
    c.isBlank = false := by
  rw [isSome_digit?_iff] at isDigit
  simp only [CodePoint.isBlank, Bool.or_eq_false_iff, Bool.and_eq_false_iff,
    decide_eq_false_iff_not, beq_eq_false_iff_ne]
  omega

/-- A run of digits has no mark in front. -/
theorem hasMark_eq_false_of_digits
    {t : Text}
    (digits : ∀ c ∈ t, (digit? c).isSome = true) :
    hasMark t = false := by
  match t with
  | [] => rfl
  | [_] => rfl
  | zero :: letter :: rest =>
      have isDigit := (isSome_digit?_iff letter).mp (digits letter (by simp))
      simp only [hasMark, isMarkLetter, Bool.and_eq_false_iff, Bool.or_eq_false_iff,
        beq_eq_false_iff_ne]
      omega

theorem mem_encode
    {bytes : Bytes}
    {c : CodePoint}
    (present : c ∈ encode bytes) :
    ∃ value, c = digit value := by
  simp only [encode, List.mem_flatMap, ofByte, List.mem_cons, List.not_mem_nil,
    or_false] at present
  obtain ⟨byte, _, equal | equal⟩ := present
  · exact ⟨_, equal⟩
  · exact ⟨_, equal⟩

@[simp] theorem length_encode (bytes : Bytes) :
    (encode bytes).length = 2 * bytes.length := by
  induction bytes with
  | nil => rfl
  | cons byte bytes inductionHypothesis =>
      have unfolded : encode (byte :: bytes) = ofByte byte ++ encode bytes := rfl
      rw [unfolded, List.length_append, inductionHypothesis]
      simp [ofByte]
      omega

/-- What may stand in front of the digits: nothing, or the mark with a letter of either
case. -/
def marks : List Text :=
  [[], [0x30, 0x78], [0x30, 0x58]]

/-- A mark has no blank in it. -/
theorem isBlank_of_mem_marks
    {mark : Text}
    (known : mark ∈ marks)
    {c : CodePoint}
    (present : c ∈ mark) :
    c.isBlank = false := by
  have letter : c.val = 0x30 ∨ c.val = 0x78 ∨ c.val = 0x58 := by
    simp only [marks, List.mem_cons, List.not_mem_nil, or_false] at known
    rcases known with rfl | rfl | rfl
    · simp at present
    · simp only [List.mem_cons, List.not_mem_nil, or_false] at present
      rcases present with rfl | rfl <;> decide
    · simp only [List.mem_cons, List.not_mem_nil, or_false] at present
      rcases present with rfl | rfl <;> decide
  simp only [CodePoint.isBlank, Bool.or_eq_false_iff, Bool.and_eq_false_iff,
    decide_eq_false_iff_not, beq_eq_false_iff_ne]
  omega

/-- Text that spells a byte string: its digits in either case, perhaps behind a mark,
with blanks around the whole. -/
def Spells (t : Text) (bytes : Bytes) : Prop :=
  ∃ before mark digits after : Text,
    t = before ++ (mark ++ digits) ++ after ∧
      (∀ c ∈ before, c.isBlank = true) ∧ (∀ c ∈ after, c.isBlank = true) ∧
      mark ∈ marks ∧ digits.toLower = encode bytes

/-- The digits of a spelling are digits. -/
theorem isSome_digit?_of_toLower_eq_encode
    {digits : Text}
    {bytes : Bytes}
    (spelled : digits.toLower = encode bytes)
    {c : CodePoint}
    (present : c ∈ digits) :
    (digit? c).isSome = true := by
  have lowered : c.toLower ∈ encode bytes := by
    rw [← spelled]
    exact List.mem_map_of_mem present
  obtain ⟨value, equal⟩ := mem_encode lowered
  rw [← digit?_toLower, equal, digit?_digit]
  rfl

/-- A spelling has two digits for each byte. -/
theorem length_of_toLower_eq_encode
    {digits : Text}
    {bytes : Bytes}
    (spelled : digits.toLower = encode bytes) :
    digits.length = 2 * bytes.length := by
  rw [← length_encode, ← spelled, Text.toLower, List.length_map]

/-- Reading digits of either case gives the bytes they spell. -/
theorem parse_eq_ok
    {digits : Text}
    {bytes : Bytes}
    (spelled : digits.toLower = encode bytes)
    {mark : Text}
    (known : mark ∈ marks) :
    parse (mark ++ digits) = .ok bytes := by
  have read : decode? digits = some bytes := by
    rw [← decode?_toLower, spelled, decode?_encode]
  have length := length_of_toLower_eq_encode spelled
  have stripped : stripMark (mark ++ digits) = digits := by
    simp only [marks, List.mem_cons, List.not_mem_nil, or_false] at known
    rcases known with rfl | rfl | rfl
    · have unmarked : hasMark digits = false :=
        hasMark_eq_false_of_digits fun _ => isSome_digit?_of_toLower_eq_encode spelled
      simp [stripMark, unmarked]
    · rfl
    · rfl
  simp only [parse, stripped, read]
  rw [if_neg (by omega)]

/-- Every spelling is read as the bytes that it spells. -/
theorem Spells.parse_trim
    {t : Text}
    {bytes : Bytes}
    (spells : Spells t bytes) :
    parse t.trim = .ok bytes := by
  obtain ⟨before, mark, digits, after, rfl, blankBefore, blankAfter, known, spelled⟩ :=
    spells
  have solid : ∀ c ∈ mark ++ digits, c.isBlank = false := by
    intro c present
    rw [List.mem_append] at present
    rcases present with inMark | inDigits
    · exact isBlank_of_mem_marks known inMark
    · exact isBlank_eq_false_of_isSome_digit?
        (isSome_digit?_of_toLower_eq_encode spelled inDigits)
  rw [Text.trim, Text.trimBy_surrounded blankBefore solid blankAfter]
  exact parse_eq_ok spelled known

theorem mark_mem_marks :
    mark ∈ marks := by
  decide

/-- Small digits stay as they are. -/
@[simp] theorem toLower_encode (bytes : Bytes) :
    (encode bytes).toLower = encode bytes := by
  have small : ∀ value, (digit value).toLower = digit value := by decide
  have unchanged : ∀ c ∈ encode bytes, c.toLower = id c := by
    intro c present
    obtain ⟨value, rfl⟩ := mem_encode present
    exact small value
  rw [Text.toLower, List.map_congr_left unchanged, List.map_id]

/-- What is written is read back. -/
@[simp] theorem parse_encodeMarked (bytes : Bytes) :
    parse (encodeMarked bytes) = .ok bytes :=
  parse_eq_ok (toLower_encode bytes) mark_mem_marks

/-- The written form is one of the spellings. -/
theorem spells_encodeMarked (bytes : Bytes) :
    Spells (encodeMarked bytes) bytes :=
  ⟨[], mark, encode bytes, [], by simp [encodeMarked], by simp, by simp,
    mark_mem_marks, toLower_encode bytes⟩

/-! ## What is read is spelled -/

/-- A digit is the written form of its value, but for its case. -/
theorem toLower_eq_digit
    {c : CodePoint}
    {value : Fin 16}
    (found : digit? c = some value) :
    c.toLower = digit value := by
  apply Fin.ext
  unfold digit? at found
  split at found
  · next decimal =>
      cases found
      rw [CodePoint.toLower, dif_neg (by omega), digit, if_pos (show c.val - 0x30 < 10 by omega)]
      simp only
      omega
  · split at found
    · next small =>
        cases found
        rw [CodePoint.toLower, dif_neg (by omega), digit,
          if_neg (show ¬ c.val - 0x57 < 10 by omega)]
        simp only
        omega
    · split at found
      · next capital =>
          cases found
          rw [CodePoint.toLower, dif_pos (by omega), digit,
            if_neg (show ¬ c.val - 0x37 < 10 by omega)]
          simp only
          omega
      · cases found

/-- The byte of two digits is written as these digits. -/
theorem ofByte_ofNat (high low : Fin 16) :
    ofByte (UInt8.ofNat (16 * high.val + low.val)) = [digit high, digit low] := by
  revert high low
  decide

/-- Digits that are read as bytes are the written form of these bytes, but for the case. -/
theorem toLower_eq_encode
    {digits : Text}
    {bytes : Bytes}
    (read : decode? digits = some bytes) :
    digits.toLower = encode bytes := by
  induction digits using decode?.induct generalizing bytes with
  | case1 =>
      cases read
      rfl
  | case2 high low rest h l others restValue lowValue highValue inductionHypothesis =>
      simp only [decode?, highValue, lowValue, restValue, Option.some.injEq] at read
      subst read
      have lowered : Text.toLower (high :: low :: rest) =
          high.toLower :: low.toLower :: Text.toLower rest := rfl
      rw [lowered, toLower_eq_digit highValue, toLower_eq_digit lowValue,
        inductionHypothesis restValue]
      have written : encode (UInt8.ofNat (16 * h.val + l.val) :: others) =
          ofByte (UInt8.ofNat (16 * h.val + l.val)) ++ encode others := rfl
      rw [written, ofByte_ofNat]
      rfl
  | case3 high low rest noValue _ =>
      rw [decode?] at read
      split at read
      · next h l others highValue lowValue restValue =>
          exact absurd restValue (noValue h l others highValue lowValue)
      · cases read
  | case4 c => cases read

/-- Text is what is left without its mark, behind the mark if there is one. -/
theorem exists_mark_append_stripMark (t : Text) :
    ∃ mark ∈ marks, t = mark ++ stripMark t := by
  rw [stripMark]
  split
  · next marked =>
      match t with
      | [] => cases marked
      | [_] => cases marked
      | zero :: letter :: rest =>
          simp only [hasMark, isMarkLetter, Bool.and_eq_true, Bool.or_eq_true, beq_iff_eq]
            at marked
          obtain ⟨isZero, isLetter⟩ := marked
          obtain rfl : zero = 0x30 := Fin.ext isZero
          refine ⟨[0x30, letter], ?_, rfl⟩
          rcases isLetter with small | capital
          · obtain rfl : letter = 0x78 := Fin.ext small
            decide
          · obtain rfl : letter = 0x58 := Fin.ext capital
            decide
  · exact ⟨[], by decide, rfl⟩

theorem decode?_stripMark_of_parse
    {t : Text}
    {bytes : Bytes}
    (parsed : parse t = .ok bytes) :
    decode? (stripMark t) = some bytes := by
  unfold parse at parsed
  dsimp only at parsed
  split at parsed
  · cases parsed
  · split at parsed
    · next found =>
        cases parsed
        exact found
    · cases parsed

/-- Text is read as bytes exactly if it is a spelling of them, perhaps behind a mark. -/
theorem parse_eq_ok_iff
    {t : Text}
    {bytes : Bytes} :
    parse t = .ok bytes ↔
      ∃ mark digits, mark ∈ marks ∧ t = mark ++ digits ∧ digits.toLower = encode bytes := by
  constructor
  · intro parsed
    obtain ⟨mark, known, split⟩ := exists_mark_append_stripMark t
    have read := decode?_stripMark_of_parse parsed
    exact ⟨mark, stripMark t, known, split, toLower_eq_encode read⟩
  · rintro ⟨mark, digits, known, rfl, spelled⟩
    exact parse_eq_ok spelled known

/-- Digits that pair up are read. -/
theorem exists_decode?_eq_some
    {digits : Text}
    (paired : digits.length % 2 = 0)
    (hexadecimal : ∀ c ∈ digits, (digit? c).isSome = true) :
    ∃ bytes, decode? digits = some bytes := by
  induction digits using decode?.induct with
  | case1 => exact ⟨[], rfl⟩
  | case2 high low rest h l bytes restValue lowValue highValue _ =>
      refine ⟨UInt8.ofNat (16 * h.val + l.val) :: bytes, ?_⟩
      simp only [decode?, highValue, lowValue, restValue]
  | case3 high low rest noValue inductionHypothesis =>
      obtain ⟨h, highValue⟩ := Option.isSome_iff_exists.mp (hexadecimal high (by simp))
      obtain ⟨l, lowValue⟩ := Option.isSome_iff_exists.mp (hexadecimal low (by simp))
      obtain ⟨bytes, restValue⟩ := inductionHypothesis
        (by simpa [Nat.add_assoc] using paired)
        (fun c present => hexadecimal c (by simp [present]))
      exact absurd restValue (noValue h l bytes highValue lowValue)
  | case4 c => simp at paired

/-- Digits spell some bytes exactly if they are hexadecimal and pair up. -/
theorem exists_toLower_eq_encode_iff
    {digits : Text} :
    (∃ bytes, digits.toLower = encode bytes) ↔
      digits.length % 2 = 0 ∧ ∀ c ∈ digits, (digit? c).isSome = true := by
  constructor
  · rintro ⟨bytes, spelled⟩
    refine ⟨?_, fun c => isSome_digit?_of_toLower_eq_encode spelled⟩
    have length := length_of_toLower_eq_encode spelled
    omega
  · rintro ⟨paired, hexadecimal⟩
    obtain ⟨bytes, read⟩ := exists_decode?_eq_some paired hexadecimal
    exact ⟨bytes, toLower_eq_encode read⟩

/-! ## Digits and marks -/

theorem digit?_eq_some_iff
    {c : CodePoint}
    {value : Fin 16} :
    digit? c = some value ↔ c.toLower = digit value := by
  constructor
  · exact toLower_eq_digit
  · intro same
    rw [← digit?_toLower, same, digit?_digit]

/-- Marked text is a mark in front of what is left without two code points. -/
theorem exists_mark_of_hasMark
    {t : Text}
    (marked : hasMark t = true) :
    ∃ mark ∈ marks, mark ≠ [] ∧ t = mark ++ t.drop 2 := by
  obtain ⟨mark, known, split⟩ := exists_mark_append_stripMark t
  rw [stripMark, if_pos marked] at split
  refine ⟨mark, known, ?_, split⟩
  rintro rfl
  have shorter := congrArg List.length split
  match t with
  | [] => cases marked
  | zero :: rest =>
      simp only [List.nil_append, List.length_drop, List.length_cons] at shorter
      omega

theorem hasMark_append
    {mark : Text}
    (known : mark ∈ marks)
    (nonempty : mark ≠ [])
    (digits : Text) :
    hasMark (mark ++ digits) = true ∧ (mark ++ digits).drop 2 = digits := by
  simp only [marks, List.mem_cons, List.not_mem_nil, or_false] at known
  rcases known with rfl | rfl | rfl
  · exact absurd rfl nonempty
  · exact ⟨rfl, rfl⟩
  · exact ⟨rfl, rfl⟩

end Hex

end ChainClient
