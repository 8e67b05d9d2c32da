import ChainClient.Proofs.Encoding.CanonicalForms
import ChainClient.Proofs.Encoding.IntegerLiterals

/-!
# Literals of quantities

Replies and receipts both write a quantity as a mark alone, as a mark and hexadecimal digits or as a
decimal integer. Between a mark and the digits a reply may also have blanks, a sign and a second
mark, a receipt one separator. No literal has two of these forms.
-/

namespace ChainClient

/-- A mark is a zero and a letter. -/
theorem Hex.exists_letter_of_mem_marks
    {mark : Text}
    (known : mark ∈ marks)
    (nonempty : mark ≠ []) :
    ∃ letter, isMarkLetter letter = true ∧ mark = [0x30, letter] := by
  simp only [marks, List.mem_cons, List.not_mem_nil, or_false] at known
  rcases known with rfl | rfl | rfl
  · exact absurd rfl nonempty
  · exact ⟨0x78, by decide, rfl⟩
  · exact ⟨0x58, by decide, rfl⟩

namespace Numeral

variable
    {radix : Radix}
    {sign mark body rest t : Text}
    {negative : Bool}
    {values : List Nat}
    {n : Int}

/-! ## What runs are made of -/

/-- Runs are made of digits and separators. -/
def IsOfRun
    (radix : Radix)
    (c : CodePoint) : Prop :=
  c = separator ∨ ∃ value, radix.digit? c = some value

theorem IsRun.isOfRun
    (run : IsRun radix t values) :
    ∀ c ∈ t, IsOfRun radix c := by
  induction run with
  | last digit =>
      rw [List.forall_mem_singleton]
      exact .inr ⟨_, digit⟩
  | next digit _ inductionHypothesis =>
      rw [List.forall_mem_cons]
      exact ⟨.inr ⟨_, digit⟩, inductionHypothesis⟩
  | separated digit _ inductionHypothesis =>
      rw [List.forall_mem_cons, List.forall_mem_cons]
      exact ⟨.inr ⟨_, digit⟩, .inl rfl, inductionHypothesis⟩

theorem not_isOfRun_of_isMarkLetter
    {c : CodePoint}
    (letter : Hex.isMarkLetter c = true) :
    ¬ IsOfRun radix c := by
  rintro (rfl | ⟨value, digit⟩)
  · exact absurd letter (by decide)
  · rw [Radix.digit?_of_isMarkLetter letter] at digit
    cases digit

theorem not_isOfRun_of_isNumeralBlank
    {c : CodePoint}
    (blank : c.isNumeralBlank = true) :
    ¬ IsOfRun radix c := by
  rintro (rfl | ⟨value, digit⟩)
  · exact absurd blank (by decide)
  · rw [CodePoint.isNumeralBlank_eq_false (Radix.isBlank_eq_false_of_digit? digit)] at blank
    cases blank

theorem IsSign.not_isOfRun
    (known : IsSign sign negative) :
    ∀ c ∈ sign, ¬ IsOfRun radix c := by
  obtain ⟨-, plus, minus⟩ := @Radix.digit?_eq_none radix
  cases known with
  | absent => exact List.forall_mem_nil _
  | plus => simp [IsOfRun, plus, separator]
  | minus => simp [IsOfRun, minus, separator]

/-! ## Integers behind a mark -/

/-- A run does not start with a mark. -/
theorem not_isRun_mark_append
    (known : mark ∈ Hex.marks)
    (nonempty : mark ≠ []) :
    ¬ IsRun radix (mark ++ rest) values := by
  obtain ⟨letter, marks, rfl⟩ := Hex.exists_letter_of_mem_marks known nonempty
  intro run
  exact not_isOfRun_of_isMarkLetter marks (run.isOfRun letter (by simp))

/-- A sign is no part of a mark. -/
theorem IsSign.eq_nil_of_append_eq
    (signed : IsSign sign negative)
    (known : mark ∈ Hex.marks)
    (nonempty : mark ≠ [])
    (same : sign ++ body = mark ++ rest) :
    sign = [] ∧ negative = false := by
  obtain ⟨letter, -, rfl⟩ := Hex.exists_letter_of_mem_marks known nonempty
  cases signed with
  | absent => exact ⟨rfl, rfl⟩
  | plus => exact absurd (List.cons.inj same).1 (by decide)
  | minus => exact absurd (List.cons.inj same).1 (by decide)

/-- No decimal integer starts with a mark. -/
theorem not_isInteger_ten_mark_append
    (known : mark ∈ Hex.marks)
    (nonempty : mark ≠ []) :
    ¬ IsInteger .ten (mark ++ rest) n := by
  intro integer
  generalize same : mark ++ rest = t at integer
  obtain ⟨signed, marked, digits, -⟩ := integer
  obtain ⟨rfl, -⟩ := signed.eq_nil_of_append_eq known nonempty same.symm
  cases marked with
  | absent =>
      rw [List.nil_append, List.nil_append] at same
      rw [← same] at digits
      exact not_isRun_mark_append known nonempty digits

/-- An integer of base sixteen that starts with a mark goes on with its digits, perhaps with a
separator in front of them. -/
theorem isInteger_sixteen_mark_append_iff
    (known : mark ∈ Hex.marks)
    (nonempty : mark ≠ []) :
    IsInteger .sixteen (mark ++ rest) n ↔
      ∃ gap run values, (gap = [] ∨ gap = [separator]) ∧ rest = gap ++ run ∧
        IsRun .sixteen run values ∧ n = ofDigits 16 values := by
  obtain ⟨letter, marks, rfl⟩ := Hex.exists_letter_of_mem_marks known nonempty
  constructor
  · intro integer
    generalize same : [0x30, letter] ++ rest = t at integer
    obtain ⟨signed, marked, digits, -⟩ := integer
    obtain ⟨rfl, rfl⟩ := signed.eq_nil_of_append_eq known nonempty same.symm
    rw [List.nil_append] at same
    cases marked with
    | absent =>
        -- the mark would be a part of the run
        rw [List.nil_append] at same
        rw [← same] at digits
        exact absurd digits (not_isRun_mark_append known nonempty)
    | mark =>
        obtain ⟨-, rfl⟩ := List.append_inj same rfl
        exact ⟨[], _, _, .inl rfl, rfl, digits, rfl⟩
    | separated =>
        cases same
        exact ⟨[separator], _, _, .inr rfl, rfl, digits, rfl⟩
  · have isZero : CodePoint.decimalDigit? 0x30 = some 0 := by decide +kernel
    rintro ⟨gap, run, values, rfl | rfl, rfl, digits, rfl⟩
    · exact @IsInteger.intro .sixteen [] _ _ false _ .absent (.mark isZero marks) digits
        (fun impossible => nomatch impossible)
    · exact @IsInteger.intro .sixteen [] _ _ false _ .absent (.separated isZero marks) digits
        (fun impossible => nomatch impossible)

/-- In trimmed text an integer literal has no blanks around it. -/
theorem isLiteral_trim_iff :
    IsLiteral radix t.trim n ↔ IsInteger radix t.trim n := by
  constructor
  · rintro ⟨before, core, after, split, blankBefore, blankAfter, integer⟩
    have isBlank {c : CodePoint} (blank : c.isNumeralBlank = true) : c.isBlank = true :=
      (Bool.and_eq_true_iff.mp blank).1
    have trimmed : t.trim.trim = core := by
      rw [split]
      exact Text.trimBy_surrounded (fun c present => isBlank (blankBefore c present))
        integer.isBlank_eq_false (fun c present => isBlank (blankAfter c present))
    rwa [← trimmed, Text.trim_trim] at integer
  · intro integer
    exact ⟨[], _, [], by simp, by simp, by simp, integer⟩

end Numeral

namespace Quantity

open Numeral

/-! ## Literals of quantities -/

/-- A mark and hexadecimal digits, with something between. -/
inductive IsMarked (gap : Text) (negative : Bool) : Text → Int → Prop
  | intro
      {mark run : Text}
      {values : List Nat} :
      mark ∈ Hex.marks →
      mark ≠ [] →
      IsRun .sixteen run values →
      IsMarked gap negative (mark ++ (gap ++ run))
        (if negative then -(ofDigits 16 values : Int) else ofDigits 16 values)

/-- The literals that replies and receipts both take: a mark alone, a mark and hexadecimal digits,
and decimal integers. -/
inductive Spells : Text → Int → Prop
  | zero
      {mark : Text} :
      mark ∈ Hex.marks →
      mark ≠ [] →
      Spells mark 0
  | hexadecimal
      {t : Text}
      {n : Int} :
      IsMarked [] false t n →
      Spells t n
  | decimal
      {t : Text}
      {n : Int} :
      IsInteger .ten t n →
      Spells t n

/-- What a reply may have between the mark and the digits: blanks, a sign and a second mark. -/
inductive IsPadding : Text → Bool → Prop
  | intro
      {blanks sign second : Text}
      {negative : Bool} :
      (∀ c ∈ blanks, c.isNumeralBlank = true) →
      IsSign sign negative →
      IsRadixMark .sixteen second →
      IsPadding (blanks ++ (sign ++ second)) negative

/-- A literal with padding behind the mark, which only a reply of its own may have. -/
def IsPadded
    (t : Text)
    (n : Int) : Prop :=
  ∃ gap negative, gap ≠ [] ∧ IsPadding gap negative ∧ IsMarked gap negative t n

/-- A literal with a separator behind the mark, which only a receipt may have. -/
def IsSeparated : Text → Int → Prop :=
  IsMarked [separator] false

section

variable
    {literal gap mark digits t : Text}
    {negative : Bool}
    {m n : Int}

theorem isMarked_mark_append_iff
    (known : mark ∈ Hex.marks)
    (nonempty : mark ≠ []) :
    IsMarked gap negative (mark ++ digits) n ↔
      ∃ run values, digits = gap ++ run ∧ IsRun .sixteen run values ∧
        n = if negative then -(ofDigits 16 values : Int) else ofDigits 16 values := by
  constructor
  · intro marked
    generalize same : mark ++ digits = t at marked
    obtain ⟨otherKnown, otherNonempty, run⟩ := marked
    refine ⟨_, _, ?_, run, rfl⟩
    rw [← (Hex.hasMark_append known nonempty digits).2, same,
      (Hex.hasMark_append otherKnown otherNonempty _).2]
  · rintro ⟨run, values, rfl, isRun, rfl⟩
    exact .intro known nonempty isRun

theorem IsMarked.hasMark_eq_true
    (marked : IsMarked gap negative t n) :
    Hex.hasMark t = true := by
  obtain ⟨known, nonempty, -⟩ := marked
  exact (Hex.hasMark_append known nonempty _).1

/-- There are digits behind the mark. -/
theorem not_isMarked_of_mem_marks
    (known : t ∈ Hex.marks) :
    ¬ IsMarked gap negative t n := by
  intro marked
  have nonempty : t ≠ [] := by
    rintro rfl
    exact absurd marked.hasMark_eq_true (by decide)
  rw [← t.append_nil] at marked
  obtain ⟨run, values, form, isRun, -⟩ := (isMarked_mark_append_iff known nonempty).mp marked
  obtain ⟨-, rfl⟩ := List.append_eq_nil_iff.mp form.symm
  cases isRun

/-- A mark is zero if nothing is behind it, and else digits are. -/
theorem spells_mark_append_iff
    (known : mark ∈ Hex.marks)
    (nonempty : mark ≠ []) :
    Spells (mark ++ digits) n ↔
      digits = [] ∧ n = 0 ∨ IsMarked [] false (mark ++ digits) n := by
  constructor
  · intro spells
    generalize same : mark ++ digits = t at spells
    cases spells with
    | zero otherKnown otherNonempty =>
        have rest := (Hex.hasMark_append otherKnown otherNonempty []).2
        rw [List.append_nil, ← same, (Hex.hasMark_append known nonempty digits).2] at rest
        exact .inl ⟨rest, rfl⟩
    | hexadecimal marked => exact .inr marked
    | decimal integer =>
        rw [← same] at integer
        exact absurd integer (not_isInteger_ten_mark_append known nonempty)
  · rintro (⟨rfl, rfl⟩ | marked)
    · rw [List.append_nil]
      exact .zero known nonempty
    · exact .hexadecimal marked

/-- A mark alone is zero. -/
theorem spells_mark_iff
    (known : mark ∈ Hex.marks)
    (nonempty : mark ≠ []) :
    Spells mark n ↔ n = 0 := by
  have alone := @spells_mark_append_iff mark [] n known nonempty
  rw [mark.append_nil, or_iff_left (not_isMarked_of_mem_marks known)] at alone
  simpa using alone

/-- Without a mark only a decimal integer spells a quantity. -/
theorem spells_iff_of_hasMark_eq_false
    (unmarked : Hex.hasMark t = false) :
    Spells t n ↔ IsInteger .ten t n := by
  constructor
  · intro spells
    cases spells with
    | zero known nonempty =>
        have marked := (Hex.hasMark_append known nonempty []).1
        rw [List.append_nil, unmarked] at marked
        cases marked
    | hexadecimal marked =>
        rw [marked.hasMark_eq_true] at unmarked
        cases unmarked
    | decimal integer => exact integer
  · exact .decimal

/-- Padding holds what no run holds. -/
theorem IsPadding.exists_not_isOfRun
    (padding : IsPadding gap negative)
    (nonempty : gap ≠ []) :
    ∃ c ∈ gap, ¬ IsOfRun .sixteen c := by
  obtain ⟨blank, signed, marked⟩ := padding
  rename_i blanks sign second
  -- the first of the three parts that is there holds such a code point
  cases blanks with
  | cons c blanks =>
      exact ⟨c, by simp, not_isOfRun_of_isNumeralBlank (blank c List.mem_cons_self)⟩
  | nil =>
      cases signed with
      | plus => exact ⟨0x2B, by simp, IsSign.plus.not_isOfRun _ List.mem_cons_self⟩
      | minus => exact ⟨0x2D, by simp, IsSign.minus.not_isOfRun _ List.mem_cons_self⟩
      | absent =>
          cases marked with
          | absent => exact absurd rfl nonempty
          | mark _ letter => exact ⟨_, by simp, not_isOfRun_of_isMarkLetter letter⟩
          | separated _ letter => exact ⟨_, by simp, not_isOfRun_of_isMarkLetter letter⟩

/-- Between a mark and the digits there is not padding and a separator or nothing at once. -/
theorem IsPadded.not_isMarked
    (padded : IsPadded t m)
    (shared : ∀ c ∈ gap, c = separator) :
    ¬ IsMarked gap negative t n := by
  obtain ⟨padding, sign, nonempty, isPadding, known, markNonempty, -⟩ := padded
  intro marked
  obtain ⟨run, values, form, isRun, -⟩ :=
    (isMarked_mark_append_iff known markNonempty).mp marked
  -- some code point of the padding is in no run, so it has no place behind the other gap either
  obtain ⟨c, present, foreign⟩ := isPadding.exists_not_isOfRun nonempty
  have inside : c ∈ gap ++ run := form ▸ List.mem_append_left _ present
  rcases List.mem_append.mp inside with inGap | inRun
  · exact foreign (.inl (shared c inGap))
  · exact foreign (isRun.isOfRun c inRun)

/-- What replies alone take, and what receipts alone take, is none of what both take. -/
theorem not_spells_of_isMarked
    (marked : IsMarked gap negative t m)
    (unshared : ¬ IsMarked [] false t n) :
    ¬ Spells t n := by
  intro spells
  cases spells with
  | zero known => exact not_isMarked_of_mem_marks known marked
  | hexadecimal shared => exact unshared shared
  | decimal integer =>
      obtain ⟨known, nonempty, -⟩ := marked
      exact not_isInteger_ten_mark_append known nonempty integer

theorem IsPadded.not_spells
    (padded : IsPadded t m) :
    ¬ Spells t n := by
  obtain ⟨gap, negative, -, -, marked⟩ := id padded
  exact not_spells_of_isMarked marked (padded.not_isMarked (List.forall_mem_nil _))

theorem IsSeparated.not_spells
    (separated : IsSeparated t m) :
    ¬ Spells t n := by
  apply not_spells_of_isMarked separated
  obtain ⟨known, nonempty, -⟩ := separated
  intro marked
  obtain ⟨run, values, form, isRun, -⟩ := (isMarked_mark_append_iff known nonempty).mp marked
  obtain ⟨c, rest, value, rfl, digit⟩ := isRun.exists_digit
  cases form
  rw [Radix.digit?_eq_none.1] at digit
  cases digit

end

end Quantity

end ChainClient
