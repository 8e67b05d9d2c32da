import ChainClient.Proofs.Quantities.Literals
import ChainClient.Proofs.Receipts

/-!
# Readings of quantities

A reply of its own and a receipt read the literal of a quantity by different readers. Each finds the
literals of its own grammar, and the two part exactly where something stands between a mark and the
digits: one of them then refuses what the other takes.
-/

namespace ChainClient

namespace Quantity

open Numeral

section

variable
    {literal mark digits : Text}
    {negative : Bool}
    {n : Int}

/-! ## The reader of replies -/

/-- Without padding there is no sign. -/
theorem isPadding_nil_iff :
    IsPadding [] negative ↔ negative = false := by
  constructor
  · intro padding
    generalize same : ([] : Text) = gap at padding
    obtain ⟨-, signed, -⟩ := padding
    cases signed with
    | absent => rfl
    | plus => simp at same
    | minus => simp at same
  · rintro rfl
    exact @IsPadding.intro [] [] [] false (List.forall_mem_nil _) .absent .absent

/-- At the end of a trimmed text, a literal of base sixteen is padding and a run of digits. -/
theorem isLiteral_sixteen_iff_exists
    (split : literal.trim = mark ++ digits) :
    IsLiteral .sixteen digits n ↔
      ∃ gap negative, IsPadding gap negative ∧
        ∃ run values, digits = gap ++ run ∧ IsRun .sixteen run values ∧
          n = if negative then -(ofDigits 16 values : Int) else ofDigits 16 values := by
  constructor
  · rintro ⟨before, core, after, rfl, blankBefore, blankAfter, integer⟩
    -- blanks stand in front of the digits only: those at the end were trimmed with the literal
    have none : after = [] := by
      rw [← List.append_assoc] at split
      apply Text.eq_nil_of_trim_eq_append split
      intro c present
      exact (Bool.and_eq_true_iff.mp (blankAfter c present)).1
    subst none
    obtain ⟨signed, marked, run, -⟩ := integer
    exact ⟨_, _, .intro blankBefore signed marked, _, _,
      by simp only [List.append_nil, List.append_assoc], run, rfl⟩
  · rintro ⟨gap, negative, padding, run, values, rfl, isRun, rfl⟩
    obtain ⟨blank, signed, marked⟩ := padding
    exact ⟨_, _, [], by simp only [List.append_nil, List.append_assoc], blank,
      List.forall_mem_nil _, .intro signed marked isRun (fun impossible => nomatch impossible)⟩

theorem isLiteral_sixteen_iff
    (split : literal.trim = mark ++ digits)
    (known : mark ∈ Hex.marks)
    (nonempty : mark ≠ []) :
    IsLiteral .sixteen digits n ↔
      IsMarked [] false literal.trim n ∨ IsPadded literal.trim n := by
  simp only [isLiteral_sixteen_iff_exists split, IsPadded, split,
    isMarked_mark_append_iff known nonempty]
  constructor
  · rintro ⟨gap, negative, padding, behind⟩
    by_cases padded : gap = []
    · subst padded
      obtain rfl := isPadding_nil_iff.mp padding
      exact .inl behind
    · exact .inr ⟨gap, negative, padded, padding, behind⟩
  · rintro (behind | ⟨gap, negative, -, padding, behind⟩)
    · exact ⟨[], false, isPadding_nil_iff.mpr rfl, behind⟩
    · exact ⟨gap, negative, padding, behind⟩

/-- A reply may spell a quantity as a receipt does or with padding behind the mark. -/
theorem ofLiteral?_eq_some_iff :
    ofLiteral? literal = some n ↔ Spells literal.trim n ∨ IsPadded literal.trim n := by
  unfold ofLiteral?
  dsimp only
  split
  · next marked =>
      obtain ⟨mark, known, nonempty, split⟩ := Hex.exists_mark_of_hasMark marked
      generalize literal.trim.drop 2 = digits at split
      cases digits with
      | nil =>
          rw [List.append_nil] at split
          have noPadded : ¬ IsPadded literal.trim n := by
            rintro ⟨gap, negative, -, -, marked⟩
            exact not_isMarked_of_mem_marks (split ▸ known) marked
          rw [or_iff_left noPadded, split, spells_mark_iff known nonempty]
          simp [eq_comm]
      | cons c rest =>
          dsimp only
          rw [parseInt?_eq_some_iff, isLiteral_sixteen_iff split known nonempty, split,
            spells_mark_append_iff known nonempty]
          simp
  · next unmarked =>
      have hasNoMark : Hex.hasMark literal.trim = false := by simpa using unmarked
      rw [parseInt?_eq_some_iff, isLiteral_trim_iff, spells_iff_of_hasMark_eq_false hasNoMark,
        or_iff_left]
      rintro ⟨gap, negative, -, -, marked⟩
      exact unmarked marked.hasMark_eq_true

/-! ## The reader of receipts -/

/-- A receipt may spell a quantity as a reply does or with a separator behind the mark. -/
theorem quantityOfLiteral?_eq_some_iff :
    Receipt.quantityOfLiteral? literal = some n ↔
      Spells literal.trim n ∨ IsSeparated literal.trim n := by
  unfold Receipt.quantityOfLiteral?
  dsimp only
  split
  · next marked =>
      obtain ⟨mark, known, nonempty, split⟩ := Hex.exists_mark_of_hasMark marked
      generalize literal.trim.drop 2 = digits at split
      have length : mark.length = 2 := by
        obtain ⟨letter, -, rfl⟩ := Hex.exists_letter_of_mem_marks known nonempty
        rfl
      cases digits with
      | nil =>
          rw [List.append_nil] at split
          rw [split, if_pos length, spells_mark_iff known nonempty,
            or_iff_left (b := IsSeparated mark n) (not_isMarked_of_mem_marks known)]
          simp [eq_comm]
      | cons c rest =>
          have longer : literal.trim.length ≠ 2 := by
            rw [split, List.length_append, length, List.length_cons]
            omega
          rw [if_neg longer, parseInt?_eq_some_iff, isLiteral_trim_iff, split,
            isInteger_sixteen_mark_append_iff known nonempty,
            spells_mark_append_iff known nonempty, IsSeparated]
          simp only [isMarked_mark_append_iff known nonempty]
          constructor
          · rintro ⟨gap, run, values, rfl | rfl, form, isRun, equal⟩
            · exact .inl (.inr ⟨run, values, form, isRun, equal⟩)
            · exact .inr ⟨run, values, form, isRun, equal⟩
          · rintro ((⟨empty, -⟩ | ⟨run, values, form, isRun, equal⟩) |
              ⟨run, values, form, isRun, equal⟩)
            · cases empty
            · exact ⟨[], run, values, .inl rfl, form, isRun, equal⟩
            · exact ⟨[separator], run, values, .inr rfl, form, isRun, equal⟩
  · next unmarked =>
      have hasNoMark : Hex.hasMark literal.trim = false := by simpa using unmarked
      rw [parseInt?_eq_some_iff, isLiteral_trim_iff, spells_iff_of_hasMark_eq_false hasNoMark,
        or_iff_left]
      intro separated
      exact unmarked (IsMarked.hasMark_eq_true separated)

end

end Quantity

/-! ## Records of receipts -/

namespace Receipt

/-- The members of a record that are quantities: the number of the block and what the transaction
used, under its old name if it has no new one. -/
def quantityMembers (record : Entries) : List Datum :=
  [record.getD "blockNumber", (record.get? "quotaUsed").getD (record.getD "gasUsed")]

/-- The quantities of a receipt. -/
def quantities (receipt : Receipt) : List (Option Int) :=
  [receipt.blockNumber, receipt.quotaUsed]

theorem quantities_of_members
    {record : Entries}
    {make : List Datum → Entries → Receipt}
    (converted : members record = .ok make)
    (logs : List Datum)
    (raw : Entries) :
    List.Forall₂ (fun member quantity => optionalQuantity member = .ok quantity)
      (quantityMembers record) (make logs raw).quantities := by
  unfold members at converted
  obtain ⟨_, -, converted⟩ := bind_eq_ok_iff.mp converted
  obtain ⟨_, -, converted⟩ := bind_eq_ok_iff.mp converted
  obtain ⟨_, -, converted⟩ := bind_eq_ok_iff.mp converted
  obtain ⟨blockNumber, ofBlock, converted⟩ := bind_eq_ok_iff.mp converted
  obtain ⟨_, -, converted⟩ := bind_eq_ok_iff.mp converted
  obtain ⟨quotaUsed, ofQuota, converted⟩ := bind_eq_ok_iff.mp converted
  cases converted
  exact .cons ofBlock (.cons ofQuota .nil)

/-- The quantities of a receipt are read from their members. -/
theorem quantities_of_ofRecord
    {record : Entries}
    {receipt : Receipt}
    (converted : ofRecord record = .ok receipt) :
    List.Forall₂ (fun member quantity => optionalQuantity member = .ok quantity)
      (quantityMembers record) receipt.quantities := by
  rw [ofRecord_eq] at converted
  obtain ⟨make, ofMembers, converted⟩ := bind_eq_ok_iff.mp converted
  obtain ⟨logs, -, converted⟩ := bind_eq_ok_iff.mp converted
  cases converted
  exact quantities_of_members ofMembers logs record

/-- A record with a member that is no quantity is no receipt, and it has a bad value. -/
theorem ofRecord_eq_badValue
    {record : Entries}
    {member : Datum}
    (present : member ∈ quantityMembers record)
    (refused : optionalQuantity member = .error (.badValue none)) :
    ofRecord record = .error (.badValue none) := by
  rw [ofRecord_eq]
  cases converted : members record with
  | error misuse =>
      obtain rfl := failsOnlyWith_members record misuse converted
      rfl
  | ok make =>
      obtain _ | ⟨ofBlock, _ | ⟨ofQuota, -⟩⟩ := quantities_of_members converted [] record
      simp only [quantityMembers, List.mem_cons, List.not_mem_nil, or_false] at present
      rcases present with rfl | rfl
      · exact nomatch ofBlock.symm.trans refused
      · exact nomatch ofQuota.symm.trans refused

end Receipt

namespace Quantity

/-! ## The two readings -/

section

variable
    {literal : Text}
    {misuse : Misuse}
    {m n : Int}

theorem parse_text_eq :
    parse (.text literal) = Datum.orBadValue (ofLiteral? literal) := by
  rw [parse]
  cases ofLiteral? literal with
  | none => rfl
  | some n => rfl

/-- Text that is not empty is a quantity or a bad value in a receipt. -/
theorem optionalQuantity_text_eq
    (nonempty : literal ≠ []) :
    Receipt.optionalQuantity (.text literal) =
      some <$> Datum.orBadValue (Receipt.quantityOfLiteral? literal) := by
  have differs : ¬ ((Datum.text literal).isNull = true ∨
      (Datum.text literal).equals (.text []) = true) := by
    simpa [Datum.isNull, Datum.equals, Datum.equalsAtom] using nonempty
  rw [Receipt.optionalQuantity, if_neg differs]
  rfl

theorem parse_text_eq_ok_iff :
    parse (.text literal) = .ok n ↔ Spells literal.trim n ∨ IsPadded literal.trim n := by
  rw [parse_text_eq, Datum.orBadValue_eq_ok_iff, ofLiteral?_eq_some_iff]

theorem parse_text_eq_error_iff :
    parse (.text literal) = .error misuse ↔
      misuse = .badValue none ∧ ∀ n, ¬ (Spells literal.trim n ∨ IsPadded literal.trim n) := by
  simp only [parse_text_eq, Datum.orBadValue_eq_error_iff, Option.eq_none_iff_forall_ne_some,
    ne_eq, ofLiteral?_eq_some_iff]

theorem optionalQuantity_text_eq_ok_iff
    (nonempty : literal ≠ []) :
    Receipt.optionalQuantity (.text literal) = .ok (some n) ↔
      Spells literal.trim n ∨ IsSeparated literal.trim n := by
  rw [optionalQuantity_text_eq nonempty, map_eq_ok_iff, ← quantityOfLiteral?_eq_some_iff]
  simp [Datum.orBadValue_eq_ok_iff]

theorem optionalQuantity_text_eq_error_iff
    (nonempty : literal ≠ []) :
    Receipt.optionalQuantity (.text literal) = .error misuse ↔
      misuse = .badValue none ∧ ∀ n, ¬ (Spells literal.trim n ∨ IsSeparated literal.trim n) := by
  simp only [optionalQuantity_text_eq nonempty, map_eq_error_iff, Datum.orBadValue_eq_error_iff,
    Option.eq_none_iff_forall_ne_some, ne_eq, quantityOfLiteral?_eq_some_iff]

/-- As a reply of its own and in a receipt, a literal is read as one integer, or it is a bad value
in both places. -/
inductive ReadAlike (literal : Text) : Prop
  | read
      {n : Int} :
      parse (.text literal) = .ok n →
      Receipt.optionalQuantity (.text literal) = .ok (some n) →
      ReadAlike literal
  | refused :
      parse (.text literal) = .error (.badValue none) →
      Receipt.optionalQuantity (.text literal) = .error (.badValue none) →
      ReadAlike literal

/-- What only a reply may have is a bad value in a receipt. -/
theorem optionalQuantity_eq_badValue_of_isPadded
    (nonempty : literal ≠ [])
    (padded : IsPadded literal.trim n) :
    Receipt.optionalQuantity (.text literal) = .error (.badValue none) := by
  refine (optionalQuantity_text_eq_error_iff nonempty).mpr ⟨rfl, fun other => ?_⟩
  rintro (spells | separated)
  · exact padded.not_spells spells
  · exact padded.not_isMarked (List.forall_mem_singleton.mpr rfl) separated

/-- What only a receipt may have is a bad value as a reply. -/
theorem parse_eq_badValue_of_isSeparated
    (separated : IsSeparated literal.trim n) :
    parse (.text literal) = .error (.badValue none) := by
  refine parse_text_eq_error_iff.mpr ⟨rfl, fun other => ?_⟩
  rintro (spells | padded)
  · exact separated.not_spells spells
  · exact padded.not_isMarked (List.forall_mem_singleton.mpr rfl) separated

theorem readAlike_iff
    (nonempty : literal ≠ []) :
    ReadAlike literal ↔ ∀ n, ¬ IsPadded literal.trim n ∧ ¬ IsSeparated literal.trim n := by
  constructor
  · intro alike n
    constructor
    · intro padded
      have refused := optionalQuantity_eq_badValue_of_isPadded nonempty padded
      cases alike with
      | read _ converted => exact nomatch converted.symm.trans refused
      | refused unread => exact nomatch unread.symm.trans (parse_text_eq_ok_iff.mpr (.inr padded))
    · intro separated
      have unread := parse_eq_badValue_of_isSeparated separated
      cases alike with
      | read read => exact nomatch read.symm.trans unread
      | refused _ refused =>
          exact nomatch refused.symm.trans
            ((optionalQuantity_text_eq_ok_iff nonempty).mpr (.inr separated))
  · intro neither
    by_cases spelled : ∃ n, Spells literal.trim n
    · obtain ⟨n, spells⟩ := spelled
      exact .read (parse_text_eq_ok_iff.mpr (.inl spells))
        ((optionalQuantity_text_eq_ok_iff nonempty).mpr (.inl spells))
    · refine .refused (parse_text_eq_error_iff.mpr ⟨rfl, fun n => ?_⟩)
        ((optionalQuantity_text_eq_error_iff nonempty).mpr ⟨rfl, fun n => ?_⟩)
      · exact not_or.mpr ⟨fun spells => spelled ⟨n, spells⟩, (neither n).1⟩
      · exact not_or.mpr ⟨fun spells => spelled ⟨n, spells⟩, (neither n).2⟩

/-- A reply of its own and a receipt read a literal that is not empty alike, as one integer or as a
bad value in both places, exactly if there is neither padding nor a separator behind its mark.
Padding is read in a reply and is a bad value in a receipt, and a separator the other way round. The
quantities of a receipt are its readings, and a record with a bad value among its quantities is no
receipt. -/
theorem literal_readings
    (nonempty : literal ≠ []) :
    (ReadAlike literal ↔ ∀ n, ¬ IsPadded literal.trim n ∧ ¬ IsSeparated literal.trim n) ∧
    (∀ n, parse (.text literal) = .ok n ↔ Spells literal.trim n ∨ IsPadded literal.trim n) ∧
    (∀ n, Receipt.optionalQuantity (.text literal) = .ok (some n) ↔
      Spells literal.trim n ∨ IsSeparated literal.trim n) ∧
    (∀ n, IsPadded literal.trim n →
      Receipt.optionalQuantity (.text literal) = .error (.badValue none)) ∧
    (∀ n, IsSeparated literal.trim n → parse (.text literal) = .error (.badValue none)) ∧
    ∀ record,
      (∀ receipt, Receipt.ofRecord record = .ok receipt →
        List.Forall₂ (fun member quantity => Receipt.optionalQuantity member = .ok quantity)
          (Receipt.quantityMembers record) receipt.quantities) ∧
      (.text literal ∈ Receipt.quantityMembers record →
        Receipt.optionalQuantity (.text literal) = .error (.badValue none) →
        Receipt.ofRecord record = .error (.badValue none)) :=
  ⟨readAlike_iff nonempty, fun _ => parse_text_eq_ok_iff,
    fun _ => optionalQuantity_text_eq_ok_iff nonempty,
    fun _ => optionalQuantity_eq_badValue_of_isPadded nonempty,
    fun _ => parse_eq_badValue_of_isSeparated,
    fun _ => ⟨fun _ => Receipt.quantities_of_ofRecord, Receipt.ofRecord_eq_badValue⟩⟩

/-- A minus sign behind the mark is padding. -/
theorem isPadded_signed :
    IsPadded (Text.trim "0x-5") (-5) :=
  ⟨[0x2D], true, by decide,
    @IsPadding.intro [] [0x2D] [] true (List.forall_mem_nil _) .minus .absent,
    @IsMarked.intro [0x2D] true [0x30, 0x78] [0x35] [5] (by decide) (by decide)
      (.last (by decide +kernel))⟩

theorem literal_readings_signed :
    ("0x-5" : Text) ≠ [] ∧ parse (.text "0x-5") = .ok (-5) ∧
      Receipt.optionalQuantity (.text "0x-5") = .error (.badValue none) ∧
      Receipt.ofRecord [("blockNumber", .text "0x-5")] = .error (.badValue none) := by
  have nonempty : ("0x-5" : Text) ≠ [] := by decide
  obtain ⟨-, parsed, -, refused, -, records⟩ := literal_readings nonempty
  have bad := refused _ isPadded_signed
  exact ⟨nonempty, (parsed _).mpr (.inr isPadded_signed), bad, (records _).2 (.head _) bad⟩

/-- A literal with a sign behind the mark is read in a reply alone. -/
theorem not_readAlike :
    ¬ ∀ literal : Text, literal ≠ [] → ReadAlike literal := by
  intro alike
  have nonempty : ("0x-5" : Text) ≠ [] := by decide
  exact ((readAlike_iff nonempty).mp (alike _ nonempty) _).1 isPadded_signed

end

end Quantity

end ChainClient
