import ChainClient.Datum.Display
import ChainClient.Json.Encoding
import ChainClient.Proofs.Encoding.Decimals
import Mathlib.Algebra.Group.Nat.Defs
import Mathlib.Data.List.Induction
import Mathlib.Data.List.TakeWhile

/-!
# Documents in messages

A message shows every datum but those with an integer of too many digits. The reader of
documents refuses such integers, so whatever a document holds can be shown.
-/

namespace ChainClient

/-! ## Data that messages show -/

namespace Datum

/-- A message can show the datum. -/
def IsShowable (d : Datum) : Prop :=
  d.quoted?.isSome = true

theorem isShowable_int_iff
    {n : Int} :
    (int n).IsShowable ↔ Decimal.IsWritable n := by
  unfold IsShowable
  rw [quoted?, Decimal.ofInt?]
  split
  · next writable => simp [writable]
  · next tooLong => simp [tooLong]

/-- A list is shown by showing its items. -/
theorem isShowable_list_iff
    {items : List Datum} :
    (list items).IsShowable ↔ ∀ item ∈ items, item.IsShowable := by
  unfold IsShowable
  rw [quoted?, Option.isSome_map]
  induction items with
  | nil => simp [quotedItems?]
  | cons item items inductionHypothesis =>
      rw [List.forall_mem_cons, ← inductionHypothesis, quotedItems?]
      cases quoted? item with
      | none => simp
      | some t => cases quotedItems? items <;> simp

/-- A record is shown by showing its values. -/
theorem isShowable_record_iff
    {entries : Entries} :
    (record entries).IsShowable ↔ ∀ entry ∈ entries, entry.2.IsShowable := by
  unfold IsShowable
  rw [quoted?, Option.isSome_map]
  induction entries with
  | nil => simp [quotedEntries?]
  | cons entry entries inductionHypothesis =>
      obtain ⟨key, value⟩ := entry
      rw [List.forall_mem_cons, ← inductionHypothesis, quotedEntries?]
      cases quoted? value with
      | none => simp
      | some t => cases quotedEntries? entries <;> simp

/-- What is found at a key of a record is shown with it. -/
theorem IsShowable.get?
    {entries : Entries}
    {key : Text}
    {value : Datum}
    (showable : (record entries).IsShowable)
    (found : entries.get? key = some value) :
    value.IsShowable := by
  rw [isShowable_record_iff] at showable
  induction entries with
  | nil => cases found
  | cons entry entries inductionHypothesis =>
      obtain ⟨first, rest⟩ := List.forall_mem_cons.mp showable
      rw [Entries.get?] at found
      split at found
      · cases found
        exact first
      · exact inductionHypothesis rest found

/-- Where a record holds nothing, its member is null, and shown as such. -/
theorem IsShowable.getD
    {entries : Entries}
    (showable : (record entries).IsShowable)
    (key : Text) :
    (entries.getD key).IsShowable := by
  unfold Entries.getD
  cases found : entries.get? key with
  | none => rfl
  | some value => exact showable.get? found

theorem IsShowable.insert
    {entries : Entries}
    {value : Datum}
    (showable : (record entries).IsShowable)
    (valueShowable : value.IsShowable)
    (key : Text) :
    (record (entries.insert key value)).IsShowable := by
  rw [isShowable_record_iff] at showable ⊢
  induction entries with
  | nil => exact List.forall_mem_singleton.mpr valueShowable
  | cons entry entries inductionHypothesis =>
      obtain ⟨first, rest⟩ := List.forall_mem_cons.mp showable
      rw [Entries.insert]
      split
      · exact List.forall_mem_cons.mpr ⟨valueShowable, rest⟩
      · exact List.forall_mem_cons.mpr ⟨first, inductionHypothesis rest⟩

end Datum

/-! ## Numbers -/

namespace Json

theorem isDigit_of_wholePart
    {t whole rest : Text}
    (found : wholePart? t = some (whole, rest)) :
    ∀ c ∈ whole, Numeral.isDigit c = true := by
  unfold wholePart? at found
  split at found
  · next c behind =>
      split at found
      · next zero =>
          cases found
          rw [List.forall_mem_singleton, Numeral.isDigit, zero]
          rfl
      · split at found
        · cases found
          intro d present
          exact List.mem_takeWhile_imp present
        · cases found
  · cases found

/-- The integers of a document keep to the limit on digits. -/
theorem isShowable_of_unsignedNumber
    {negative : Bool}
    {t rest : Text}
    {d : Datum}
    (found : unsignedNumber? negative t = some (d, rest)) :
    d.IsShowable := by
  unfold unsignedNumber? at found
  split at found
  · cases found
  · next whole behind wholeFound =>
      dsimp only at found
      split at found
      · split at found
        · next short =>
            cases found
            have below := Numeral.ofAsciiDigits_lt (isDigit_of_wholePart wholeFound)
            have bounded : Numeral.ofAsciiDigits whole < 10 ^ Decimal.digitLimit :=
              Nat.lt_of_lt_of_le below (Nat.pow_le_pow_right (by decide) short)
            rw [Datum.isShowable_int_iff, Decimal.IsWritable, Nat.pow_eq]
            -- the limit is far too large a number to be worked out
            generalize 10 ^ Decimal.digitLimit = limit at bounded ⊢
            cases negative with
            | true => simpa using bounded
            | false => simpa using bounded
        · cases found
      · obtain ⟨x, -, same⟩ := Option.map_eq_some_iff.mp found
        cases same
        rfl

theorem isShowable_of_atom
    {t rest : Text}
    {d : Datum}
    (found : atom? t = some (d, rest)) :
    d.IsShowable := by
  unfold atom? at found
  split at found
  · next word =>
      cases found
      obtain ⟨⟨spelling, value⟩, listed, spelled⟩ := List.exists_of_findSome?_eq_some word
      obtain ⟨behind, -, same⟩ := Option.map_eq_some_iff.mp spelled
      cases same
      simp only [words, List.mem_cons, Prod.mk.injEq, List.not_mem_nil, or_false] at listed
      rcases listed with ⟨-, rfl⟩ | ⟨-, rfl⟩ | ⟨-, rfl⟩ | ⟨-, rfl⟩ | ⟨-, rfl⟩ | ⟨-, rfl⟩ <;> rfl
  · split at found
    · split at found
      · exact isShowable_of_unsignedNumber found
      · exact isShowable_of_unsignedNumber found
    · cases found

/-! ## Documents -/

/-- With so much fuel, the readers of values, items and entries find what can be shown, if what
was read before can. -/
structure FindsShowable (fuel : Nat) : Prop where
  value :
    ∀ t d rest, value? fuel t = some (d, rest) → d.IsShowable
  items :
    ∀ reversed t d rest, items? fuel reversed t = some (d, rest) →
      (∀ item ∈ reversed, item.IsShowable) → d.IsShowable
  entries :
    ∀ before t d rest, entries? fuel before t = some (d, rest) →
      (Datum.record before).IsShowable → d.IsShowable

theorem isShowable_of_value
    {fuel : Nat}
    {t rest : Text}
    {d : Datum}
    (inner : FindsShowable fuel)
    (found : value? (fuel + 1) t = some (d, rest)) :
    d.IsShowable := by
  cases t with
  | nil => cases found
  | cons c t =>
      rw [value?] at found
      split at found
      · obtain ⟨⟨s, behind⟩, -, same⟩ := Option.map_eq_some_iff.mp found
        cases same
        rfl
      · split at found
        · cases found
        · split at found
          · cases found
            exact Datum.isShowable_list_iff.mpr (List.forall_mem_nil _)
          · exact inner.items _ _ _ _ found (List.forall_mem_nil _)
      · split at found
        · cases found
        · split at found
          · cases found
            exact Datum.isShowable_record_iff.mpr (List.forall_mem_nil _)
          · exact inner.entries _ _ _ _ found
              (Datum.isShowable_record_iff.mpr (List.forall_mem_nil _))
      · exact isShowable_of_atom found

theorem isShowable_of_items
    {fuel : Nat}
    {reversed : List Datum}
    {t rest : Text}
    {d : Datum}
    (inner : FindsShowable fuel)
    (found : items? (fuel + 1) reversed t = some (d, rest))
    (before : ∀ item ∈ reversed, item.IsShowable) :
    d.IsShowable := by
  rw [items?] at found
  split at found
  · cases found
  · next item behind read =>
      have all : ∀ other ∈ item :: reversed, other.IsShowable :=
        List.forall_mem_cons.mpr ⟨inner.value _ _ _ read, before⟩
      split at found
      · cases found
      · split at found
        · cases found
          rw [Datum.isShowable_list_iff]
          intro other present
          exact all other (List.mem_reverse.mp present)
        · split at found
          · exact inner.items _ _ _ _ found all
          · cases found

theorem isShowable_of_entries
    {fuel : Nat}
    {before : Entries}
    {t rest : Text}
    {d : Datum}
    (inner : FindsShowable fuel)
    (found : entries? (fuel + 1) before t = some (d, rest))
    (showable : (Datum.record before).IsShowable) :
    d.IsShowable := by
  cases t with
  | nil => cases found
  | cons quote t =>
      rw [entries?] at found
      split at found
      · cases found
      · split at found
        · cases found
        · next key behindKey _ =>
            split at found
            · cases found
            · split at found
              · cases found
              · split at found
                · cases found
                · next value behind read =>
                    have more := showable.insert (inner.value _ _ _ read) key
                    split at found
                    · cases found
                    · dsimp only at found
                      split at found
                      · cases found
                        exact more
                      · split at found
                        · exact inner.entries _ _ _ _ found more
                        · cases found

/-- Each reader calls the others with less fuel, so one induction is for all three. -/
theorem findsShowable (fuel : Nat) :
    FindsShowable fuel := by
  induction fuel with
  | zero =>
      exact {
        value := by
          intro t d rest found
          rw [value?] at found
          cases found
        items := by
          intro reversed t d rest found
          rw [items?] at found
          cases found
        entries := by
          intro before t d rest found
          rw [entries?] at found
          cases found }
  | succ fuel inductionHypothesis =>
      exact {
        value := fun _ _ _ => isShowable_of_value inductionHypothesis
        items := fun _ _ _ _ => isShowable_of_items inductionHypothesis
        entries := fun _ _ _ _ => isShowable_of_entries inductionHypothesis }

/-- What a document holds can be shown. -/
theorem isShowable_of_parseBytes
    {bytes : Bytes}
    {d : Datum}
    (found : parseBytes? bytes = some d) :
    d.IsShowable := by
  obtain ⟨t, -, parsed⟩ := Option.bind_eq_some_iff.mp found
  unfold parse? at parsed
  split at parsed
  · next value rest read =>
      split at parsed
      · cases parsed
        exact (findsShowable _).value _ _ _ read
      · cases parsed
  · cases parsed

end Json

end ChainClient
