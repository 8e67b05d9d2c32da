import ChainClient.Numeral.Integer
import ChainClient.Proofs.Encoding.Hexadecimal

/-!
# Integer literals

The grammar of integer literals, said apart from their reader: blanks, a sign, in base sixteen
perhaps a mark, and a run of digits. The reader finds the literals of the grammar, each with the
integer that it denotes, and no others.
-/

namespace ChainClient

/-! ## Code points -/

namespace CodePoint

/-- No digit of any script is blank. -/
theorem isBlank_eq_false_of_decimalDigit?
    {c : CodePoint}
    {value : Nat}
    (found : c.decimalDigit? = some value) :
    c.isBlank = false := by
  obtain ⟨first, inTable, -⟩ := Option.map_eq_some_iff.mp found
  have inRun := List.find?_some inTable
  simp only [Bool.and_eq_true, decide_eq_true_iff] at inRun
  have clear : ∀ start ∈ digitZeros, ∀ place : Fin 10,
      isBlank (Fin.ofNat 0x110000 (start + place.val)) = false := by
    decide +kernel
  have same : Fin.ofNat 0x110000 (first + (c.val - first)) = c := by
    apply Fin.ext
    simp only [Fin.ofNat]
    omega
  rw [← same]
  exact clear first (List.mem_of_find?_eq_some inTable) ⟨c.val - first, by omega⟩

theorem isNumeralBlank_eq_false
    {c : CodePoint}
    (solid : c.isBlank = false) :
    c.isNumeralBlank = false := by
  rw [isNumeralBlank, solid, Bool.false_and]

end CodePoint

namespace Radix

variable {radix : Radix}

/-- A digit of a base is not blank. -/
theorem isBlank_eq_false_of_digit?
    {c : CodePoint}
    {value : Nat}
    (found : radix.digit? c = some value) :
    c.isBlank = false := by
  unfold digit? at found
  split at found
  · next decimal => exact CodePoint.isBlank_eq_false_of_decimalDigit? decimal
  · split at found
    · cases found
    · obtain ⟨place, hexadecimal, -⟩ := Option.map_eq_some_iff.mp found
      exact Hex.isBlank_eq_false_of_isSome_digit? (by rw [hexadecimal]; rfl)

/-- Separators, signs and the letter of the mark are digits of no base. -/
theorem digit?_eq_none :
    radix.digit? Numeral.separator = none ∧ radix.digit? 0x2B = none ∧
      radix.digit? 0x2D = none := by
  cases radix <;> decide +kernel

theorem digit?_of_isMarkLetter
    {c : CodePoint}
    (letter : Hex.isMarkLetter c = true) :
    radix.digit? c = none := by
  simp only [Hex.isMarkLetter, Bool.or_eq_true, beq_iff_eq] at letter
  rcases letter with small | capital
  · obtain rfl : c = 0x78 := Fin.ext small
    cases radix <;> decide +kernel
  · obtain rfl : c = 0x58 := Fin.ext capital
    cases radix <;> decide +kernel

end Radix

namespace Numeral

/-! ## Runs of digits -/

/-- A run of digits with single separators between them, and the values of the digits. -/
inductive IsRun (radix : Radix) : Text → List Nat → Prop
  | last
      {c : CodePoint}
      {value : Nat} :
      radix.digit? c = some value →
      IsRun radix [c] [value]
  | next
      {c : CodePoint}
      {value : Nat}
      {t : Text}
      {values : List Nat} :
      radix.digit? c = some value →
      IsRun radix t values →
      IsRun radix (c :: t) (value :: values)
  | separated
      {c : CodePoint}
      {value : Nat}
      {t : Text}
      {values : List Nat} :
      radix.digit? c = some value →
      IsRun radix t values →
      IsRun radix (c :: separator :: t) (value :: values)

section

variable
    {radix : Radix}
    {t : Text}
    {values : List Nat}

theorem IsRun.exists_digit
    (run : IsRun radix t values) :
    ∃ c rest value, t = c :: rest ∧ radix.digit? c = some value := by
  cases run with
  | last digit => exact ⟨_, _, _, rfl, digit⟩
  | next digit => exact ⟨_, _, _, rfl, digit⟩
  | separated digit => exact ⟨_, _, _, rfl, digit⟩

theorem IsRun.isBlank_eq_false
    (run : IsRun radix t values) :
    ∀ c ∈ t, c.isBlank = false := by
  induction run with
  | last digit =>
      rw [List.forall_mem_singleton]
      exact Radix.isBlank_eq_false_of_digit? digit
  | next digit _ inductionHypothesis =>
      rw [List.forall_mem_cons]
      exact ⟨Radix.isBlank_eq_false_of_digit? digit, inductionHypothesis⟩
  | separated digit _ inductionHypothesis =>
      rw [List.forall_mem_cons, List.forall_mem_cons]
      exact ⟨Radix.isBlank_eq_false_of_digit? digit, by decide, inductionHypothesis⟩

/-- The reader of runs finds the runs and their values. -/
theorem digitRun?_eq_some_iff :
    digitRun? radix.digit? t = some values ↔ IsRun radix t values := by
  constructor
  · intro read
    induction t using digitRun?.induct radix.digit? generalizing values with
    | case1 => cases read
    | case2 c =>
        obtain ⟨value, digit, rfl⟩ := Option.map_eq_some_iff.mp read
        exact .last digit
    | case3 c d rest noDigit =>
        simp [digitRun?, noDigit] at read
    | case4 c rest value digit inductionHypothesis =>
        rw [digitRun?, digit] at read
        obtain ⟨others, behind, rfl⟩ := Option.map_eq_some_iff.mp read
        exact .separated digit (inductionHypothesis behind)
    | case5 c d rest value digit other inductionHypothesis =>
        simp only [digitRun?, digit, if_neg other] at read
        obtain ⟨others, behind, rfl⟩ := Option.map_eq_some_iff.mp read
        exact .next digit (inductionHypothesis behind)
  · intro run
    induction run with
    | last digit => simp [digitRun?, digit]
    | next digit behind inductionHypothesis =>
        obtain ⟨d, rest, other, rfl, isDigit⟩ := behind.exists_digit
        have notSeparator : d ≠ separator := by
          rintro rfl
          rw [Radix.digit?_eq_none.1] at isDigit
          cases isDigit
        simp [digitRun?, digit, notSeparator, inductionHypothesis]
    | separated digit _ inductionHypothesis => simp [digitRun?, digit, inductionHypothesis]

end

/-! ## Literals -/

/-- A sign, and whether it is a minus. -/
inductive IsSign : Text → Bool → Prop
  | absent : IsSign [] false
  | plus : IsSign [0x2B] false
  | minus : IsSign [0x2D] true

/-- What may stand in front of the digits: in base sixteen a mark, perhaps with a separator
behind it. -/
inductive IsRadixMark : Radix → Text → Prop
  | absent
      {radix : Radix} :
      IsRadixMark radix []
  | mark
      {zero letter : CodePoint} :
      zero.decimalDigit? = some 0 →
      Hex.isMarkLetter letter = true →
      IsRadixMark .sixteen [zero, letter]
  | separated
      {zero letter : CodePoint} :
      zero.decimalDigit? = some 0 →
      Hex.isMarkLetter letter = true →
      IsRadixMark .sixteen [zero, letter, separator]

/-- A signed integer without blanks. In base ten the digits keep a limit. -/
inductive IsInteger (radix : Radix) : Text → Int → Prop
  | intro
      {sign mark run : Text}
      {negative : Bool}
      {values : List Nat} :
      IsSign sign negative →
      IsRadixMark radix mark →
      IsRun radix run values →
      (radix = .ten → values.length ≤ Decimal.digitLimit) →
      IsInteger radix (sign ++ (mark ++ run))
        (if negative then -(ofDigits radix.value values : Int) else ofDigits radix.value values)

/-- An integer literal: a signed integer with blanks around it. -/
def IsLiteral
    (radix : Radix)
    (t : Text)
    (n : Int) : Prop :=
  ∃ before core after : Text, t = before ++ core ++ after ∧
    (∀ c ∈ before, c.isNumeralBlank = true) ∧ (∀ c ∈ after, c.isNumeralBlank = true) ∧
    IsInteger radix core n

section

variable
    {radix : Radix}
    {mark run sign body t : Text}
    {values : List Nat}
    {negative : Bool}
    {n : Int}

theorem IsRadixMark.exists_digit
    (known : IsRadixMark radix mark)
    (digits : IsRun radix run values) :
    ∃ c rest value, mark ++ run = c :: rest ∧ radix.digit? c = some value := by
  have isDigit : ∀ zero : CodePoint, zero.decimalDigit? = some 0 →
      Radix.sixteen.digit? zero = some 0 := by
    intro first isZero
    rw [Radix.digit?, isZero]
  cases known with
  | absent => exact digits.exists_digit
  | mark isZero => exact ⟨_, _, 0, rfl, isDigit _ isZero⟩
  | separated isZero => exact ⟨_, _, 0, rfl, isDigit _ isZero⟩

theorem IsRadixMark.isBlank_eq_false
    (known : IsRadixMark radix mark) :
    ∀ c ∈ mark, c.isBlank = false := by
  have isLetter : ∀ letter : CodePoint, Hex.isMarkLetter letter = true →
      letter.isBlank = false := by
    intro letter marks
    simp only [Hex.isMarkLetter, Bool.or_eq_true, beq_iff_eq] at marks
    rcases marks with small | capital
    · simp [CodePoint.isBlank, small]
    · simp [CodePoint.isBlank, capital]
  cases known with
  | absent => exact List.forall_mem_nil _
  | mark isZero marks =>
      rw [List.forall_mem_cons, List.forall_mem_singleton]
      exact ⟨CodePoint.isBlank_eq_false_of_decimalDigit? isZero, isLetter _ marks⟩
  | separated isZero marks =>
      rw [List.forall_mem_cons, List.forall_mem_cons, List.forall_mem_singleton]
      exact ⟨CodePoint.isBlank_eq_false_of_decimalDigit? isZero, isLetter _ marks, by decide⟩

theorem IsSign.isBlank_eq_false
    (known : IsSign sign negative) :
    ∀ c ∈ sign, c.isBlank = false := by
  cases known with
  | absent => exact List.forall_mem_nil _
  | plus =>
      rw [List.forall_mem_singleton]
      decide
  | minus =>
      rw [List.forall_mem_singleton]
      decide

theorem IsInteger.isBlank_eq_false
    (integer : IsInteger radix t n) :
    ∀ c ∈ t, c.isBlank = false := by
  obtain ⟨signed, marked, digits, -⟩ := integer
  rw [List.forall_mem_append, List.forall_mem_append]
  exact ⟨signed.isBlank_eq_false, marked.isBlank_eq_false, digits.isBlank_eq_false⟩

/-! ## The reader -/

theorem exists_radixMark (t : Text) :
    ∃ mark, IsRadixMark .sixteen mark ∧ t = mark ++ stripRadixMark t := by
  unfold stripRadixMark
  split
  · next first letter rest =>
      split
      · next marked =>
          cases rest with
          | nil => exact ⟨_, .mark marked.1 marked.2, rfl⟩
          | cons c rest =>
              dsimp only
              split
              · next isSeparator =>
                  subst isSeparator
                  exact ⟨_, .separated marked.1 marked.2, rfl⟩
              · exact ⟨_, .mark marked.1 marked.2, rfl⟩
      · exact ⟨[], .absent, rfl⟩
  · exact ⟨[], .absent, rfl⟩

/-- In front of a run, the mark is stripped and nothing else. -/
theorem stripRadixMark_append
    (known : IsRadixMark .sixteen mark)
    (digits : IsRun .sixteen run values) :
    stripRadixMark (mark ++ run) = run := by
  obtain ⟨c, rest, value, form, digit⟩ := digits.exists_digit
  have notSeparator : c ≠ separator := by
    rintro rfl
    rw [Radix.digit?_eq_none.1] at digit
    cases digit
  cases known with
  | mark isZero letter =>
      subst form
      simp [stripRadixMark, isZero, letter, notSeparator]
  | separated isZero letter => simp [stripRadixMark, isZero, letter]
  | absent =>
      -- the second code point of a run is no letter of a mark
      have unmarked : ∀ second behind, rest = second :: behind →
          ¬ Hex.isMarkLetter second = true := by
        rintro second behind rfl letter
        subst form
        cases digits with
        | next _ others =>
            obtain ⟨_, _, other, same, isDigit⟩ := others.exists_digit
            cases same
            rw [Radix.digit?_of_isMarkLetter letter] at isDigit
            cases isDigit
        | separated => exact absurd letter (by decide)
      subst form
      cases rest with
      | nil => rfl
      | cons second behind => simp [stripRadixMark, unmarked second behind rfl]

theorem unsignedDigits?_eq_some_iff :
    unsignedDigits? radix t = some values ↔
      ∃ mark run, t = mark ++ run ∧ IsRadixMark radix mark ∧ IsRun radix run values ∧
        (radix = .ten → values.length ≤ Decimal.digitLimit) := by
  cases radix with
  | ten =>
      simp only [unsignedDigits?, Option.filter_eq_some_iff, digitRun?_eq_some_iff,
        decide_eq_true_iff]
      constructor
      · rintro ⟨digits, short⟩
        exact ⟨[], t, rfl, .absent, digits, fun _ => short⟩
      · rintro ⟨mark, run, rfl, known, digits, short⟩
        cases known with
        | absent => exact ⟨digits, short trivial⟩
  | sixteen =>
      simp only [unsignedDigits?, digitRun?_eq_some_iff]
      constructor
      · intro digits
        obtain ⟨mark, known, split⟩ := exists_radixMark t
        exact ⟨mark, _, split, known, digits, fun impossible => nomatch impossible⟩
      · rintro ⟨mark, run, rfl, known, digits, -⟩
        rwa [stripRadixMark_append known digits]

theorem exists_sign (t : Text) :
    ∃ sign, IsSign sign (splitSign t).1 ∧ t = sign ++ (splitSign t).2 := by
  cases t with
  | nil => exact ⟨[], .absent, rfl⟩
  | cons c rest =>
      by_cases minus : c.val = 0x2D
      · obtain rfl : c = 0x2D := Fin.ext minus
        exact ⟨_, .minus, rfl⟩
      · by_cases plus : c.val = 0x2B
        · obtain rfl : c = 0x2B := Fin.ext plus
          exact ⟨_, .plus, rfl⟩
        · refine ⟨[], ?_, ?_⟩
          · simp only [splitSign, if_neg minus, if_neg plus]
            exact .absent
          · simp only [splitSign, if_neg minus, if_neg plus, List.nil_append]

/-- In front of a digit, the sign is split off and nothing else. -/
theorem splitSign_append
    (known : IsSign sign negative)
    (digit : ∃ c rest value, body = c :: rest ∧ radix.digit? c = some value) :
    splitSign (sign ++ body) = (negative, body) := by
  cases known with
  | plus => rfl
  | minus => rfl
  | absent =>
      obtain ⟨c, rest, value, rfl, isDigit⟩ := digit
      have notMinus : c.val ≠ 0x2D := by
        intro minus
        obtain rfl : c = 0x2D := Fin.ext minus
        rw [Radix.digit?_eq_none.2.2] at isDigit
        cases isDigit
      have notPlus : c.val ≠ 0x2B := by
        intro plus
        obtain rfl : c = 0x2B := Fin.ext plus
        rw [Radix.digit?_eq_none.2.1] at isDigit
        cases isDigit
      simp only [List.nil_append, splitSign, if_neg notMinus, if_neg notPlus]

theorem parseInt?_eq_some_iff_splitSign :
    parseInt? radix t = some n ↔
      ∃ values, unsignedDigits? radix (splitSign (t.trimBy CodePoint.isNumeralBlank)).2 =
          some values ∧
        (if (splitSign (t.trimBy CodePoint.isNumeralBlank)).1 then
          -(ofDigits radix.value values : Int) else ofDigits radix.value values) = n :=
  Option.map_eq_some_iff

/-- The reader finds the integer literals, each with the integer that it denotes. -/
theorem parseInt?_eq_some_iff :
    parseInt? radix t = some n ↔ IsLiteral radix t n := by
  rw [parseInt?_eq_some_iff_splitSign]
  constructor
  · rintro ⟨values, found, rfl⟩
    obtain ⟨before, after, split, blankBefore, blankAfter⟩ :=
      t.exists_surrounded_trimBy CodePoint.isNumeralBlank
    obtain ⟨sign, signed, signSplit⟩ := exists_sign (t.trimBy CodePoint.isNumeralBlank)
    obtain ⟨mark, run, markSplit, marked, digits, short⟩ := unsignedDigits?_eq_some_iff.mp found
    have core := IsInteger.intro signed marked digits short
    rw [← markSplit, ← signSplit] at core
    exact ⟨before, _, after, split, blankBefore, blankAfter, core⟩
  · rintro ⟨before, core, after, rfl, blankBefore, blankAfter, integer⟩
    have trimmed : Text.trimBy CodePoint.isNumeralBlank (before ++ core ++ after) = core :=
      Text.trimBy_surrounded blankBefore
        (fun c present => CodePoint.isNumeralBlank_eq_false (integer.isBlank_eq_false c present))
        blankAfter
    obtain ⟨signed, marked, digits, short⟩ := integer
    rw [trimmed, splitSign_append signed (marked.exists_digit digits)]
    exact ⟨_, unsignedDigits?_eq_some_iff.mpr ⟨_, _, rfl, marked, digits, short⟩, rfl⟩

end

end Numeral
end ChainClient
