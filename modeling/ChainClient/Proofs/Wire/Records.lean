import ChainClient.Wire.Record
import Mathlib.Tactic.Common

/-!
# Reading records

Every reader uses up the front of its input and does not look at what follows it.
So the records of two inputs, one behind the other, are the records of the first
followed by those of the second, and written records are read back whatever stands
behind them. The limit on open groups only refuses: under a higher one the same
records are read.
-/

namespace ChainClient
namespace Wire

/-- The input starts with the bytes that a reader uses up, and the reader does the
same on these bytes whatever follows them. -/
def UsesFront
    (read : Bytes → Option (α × Bytes))
    (used : Bytes)
    (result : α) : Prop :=
  ∀ rest, read (used ++ rest) = some (result, rest)

/-- A reader that uses up the front of its input and does not look at what follows. -/
def ReadsFront (read : Bytes → Option (α × Bytes)) : Prop :=
  ∀ input result rest, read input = some (result, rest) →
    ∃ used, input = used ++ rest ∧ UsesFront read used result

/-! ## Readers of payloads -/

theorem readsFront_readVarint (most : Nat) :
    ReadsFront (Varint.read? most) := by
  induction most with
  | zero =>
      intro input result rest found
      simp [Varint.read?] at found
  | succ most inductionHypothesis =>
      intro input result rest found
      cases input with
      | nil => simp [Varint.read?] at found
      | cons byte input =>
          by_cases last : byte.toNat < 128
          · simp only [Varint.read?, last, if_true, Option.some.injEq, Prod.mk.injEq] at found
            obtain ⟨rfl, rfl⟩ := found
            exact ⟨[byte], rfl, fun more => by simp [Varint.read?, last]⟩
          · simp only [Varint.read?, last, if_false] at found
            split at found
            · next high behind inner =>
                simp only [Option.some.injEq, Prod.mk.injEq] at found
                obtain ⟨rfl, rfl⟩ := found
                obtain ⟨used, rfl, again⟩ := inductionHypothesis _ _ _ inner
                refine ⟨byte :: used, rfl, fun more => ?_⟩
                rw [List.cons_append, Varint.read?, if_neg last, again more]
            · simp at found

theorem readsFront_readVarint64 :
    ReadsFront Varint.read64? := by
  intro input result rest found
  obtain ⟨⟨n, behind⟩, inner, equal⟩ := Option.map_eq_some_iff.mp found
  simp only [Prod.mk.injEq] at equal
  obtain ⟨rfl, rfl⟩ := equal
  obtain ⟨used, rfl, again⟩ := readsFront_readVarint _ _ _ _ inner
  exact ⟨used, rfl, fun more => by rw [Varint.read64?, again more]; rfl⟩

theorem readsFront_takeBytes (count : Nat) :
    ReadsFront (takeBytes? count) := by
  intro input result rest found
  by_cases enough : count ≤ input.length
  · simp only [takeBytes?, enough, if_true, Option.some.injEq, Prod.mk.injEq] at found
    obtain ⟨rfl, rfl⟩ := found
    refine ⟨input.take count, (List.take_append_drop count input).symm, fun more => ?_⟩
    have length : (input.take count).length = count :=
      List.length_take_of_le enough
    rw [takeBytes?, if_pos (by simp [length]), List.take_left' length, List.drop_left' length]
  · simp [takeBytes?, enough] at found

theorem readsFront_readCounted :
    ReadsFront readCounted? := by
  intro input result rest found
  simp only [readCounted?] at found
  split at found
  · simp at found
  · next count behind inner =>
      obtain ⟨counted, rfl, countAgain⟩ := readsFront_readVarint64 _ _ _ inner
      obtain ⟨taken, rfl, takeAgain⟩ := readsFront_takeBytes _ _ _ _ found
      refine ⟨counted ++ taken, by rw [List.append_assoc], fun more => ?_⟩
      rw [readCounted?, List.append_assoc, countAgain]
      exact takeAgain more

theorem ReadsFront.map
    {read : Bytes → Option (α × Bytes)}
    (front : ReadsFront read)
    (f : α → β) :
    ReadsFront fun input => (read input).map fun (result, rest) => (f result, rest) := by
  intro input result rest found
  obtain ⟨⟨inner, behind⟩, read, equal⟩ := Option.map_eq_some_iff.mp found
  simp only [Prod.mk.injEq] at equal
  obtain ⟨rfl, rfl⟩ := equal
  obtain ⟨used, rfl, again⟩ := front _ _ _ read
  exact ⟨used, rfl, fun more => by simp only [again more, Option.map_some]⟩

theorem readsFront_readPlain (shape : Nat) :
    ReadsFront (readPlain? shape) := by
  match shape with
  | 0 => exact readsFront_readVarint64.map Payload.varint
  | 1 => exact (readsFront_takeBytes 8).map Payload.fixed64
  | 2 => exact readsFront_readCounted.map Payload.bytes
  | 5 => exact (readsFront_takeBytes 4).map Payload.fixed32
  | 3 | 4 | _ + 6 =>
      intro input result rest found
      simp [readPlain?] at found

theorem readsFront_readTag :
    ReadsFront Tag.read? := by
  intro input result rest found
  simp only [Tag.read?] at found
  split at found
  · simp at found
  · next n behind inner =>
      split at found
      · simp at found
      · next valid =>
          simp only [Option.some.injEq, Prod.mk.injEq] at found
          obtain ⟨rfl, rfl⟩ := found
          obtain ⟨used, rfl, again⟩ := readsFront_readVarint _ _ _ _ inner
          refine ⟨used, rfl, fun more => ?_⟩
          rw [Tag.read?, again more]
          simp only [if_neg valid]

/-- A tag takes at least one byte. -/
theorem ne_nil_of_usesFront_readTag
    {used : Bytes}
    {tag : Tag}
    (again : UsesFront Tag.read? used tag) :
    used ≠ [] := by
  rintro rfl
  have found := again []
  simp [Tag.read?, Tag.maxBytes, Varint.read?] at found

/-! ## Groups -/

/-- The bytes close the open groups, under the limit `depth` and every higher one. -/
def Closes
    (depth : Nat)
    (groups : List Nat)
    (used : Bytes) : Prop :=
  ∀ higher fuel rest, depth ≤ higher → used.length ≤ fuel →
    closeGroups? higher fuel groups (used ++ rest) = some rest

theorem closes_nil (depth : Nat) :
    Closes depth [] [] := by
  intro higher fuel rest _ _
  simp [closeGroups?]

/-- One round of the reader of groups: it closes the innermost group, opens a group in it,
or passes over a record in it. -/
inductive GroupStep : (groups : List Nat) → Bytes → (left : List Nat) → Prop
  | close
      {current : Nat}
      {outer : List Nat}
      {front : Bytes} :
      UsesFront Tag.read? front ⟨current, Tag.groupEnd⟩ →
      GroupStep (current :: outer) front outer
  | group
      {current inner : Nat}
      {outer : List Nat}
      {front : Bytes} :
      UsesFront Tag.read? front ⟨inner, Tag.groupStart⟩ →
      GroupStep (current :: outer) front (inner :: current :: outer)
  | record
      {current : Nat}
      {outer : List Nat}
      {tag : Tag}
      {payload : Payload}
      {front held : Bytes} :
      UsesFront Tag.read? front tag →
      tag.shape ≠ Tag.groupEnd →
      tag.shape ≠ Tag.groupStart →
      UsesFront (readPlain? tag.shape) held payload →
      GroupStep (current :: outer) (front ++ held) (current :: outer)

section GroupSteps

variable {depth fuel current : Nat}
variable {outer groups left : List Nat}
variable {front used input rest : Bytes}

theorem GroupStep.ne_nil (step : GroupStep groups front left) :
    front ≠ [] := by
  cases step with
  | close tagged => exact ne_nil_of_usesFront_readTag tagged
  | group tagged => exact ne_nil_of_usesFront_readTag tagged
  | record tagged => exact List.append_ne_nil_of_left_ne_nil (ne_nil_of_usesFront_readTag tagged) _

/-- Where the limit leaves room for the open groups, the reader makes the round. -/
theorem GroupStep.closeGroups?_append
    (step : GroupStep (current :: outer) front left)
    (room : outer.length < depth)
    (rest : Bytes) :
    closeGroups? depth (fuel + 1) (current :: outer) (front ++ rest) =
      closeGroups? depth fuel left rest := by
  have allowed : ¬ depth ≤ outer.length := Nat.not_le_of_lt room
  cases step with
  | close tagged => simp only [closeGroups?, if_neg allowed, tagged _, if_true]
  | group tagged =>
      have notEnd : Tag.groupStart ≠ Tag.groupEnd := by decide
      simp only [closeGroups?, if_neg allowed, tagged _, if_neg notEnd, if_true]
  | record tagged notEnd notStart plain =>
      simp only [closeGroups?, if_neg allowed, List.append_assoc, tagged _, if_neg notEnd,
        if_neg notStart, plain _]

/-- A reader that closes the open groups makes such a round first. -/
theorem exists_groupStep_of_closeGroups
    (found : closeGroups? depth (fuel + 1) (current :: outer) input = some rest) :
    outer.length < depth ∧ ∃ front behind left, input = front ++ behind ∧
      GroupStep (current :: outer) front left ∧
      closeGroups? depth fuel left behind = some rest := by
  rw [closeGroups?] at found
  by_cases tooDeep : depth ≤ outer.length
  · simp [tooDeep] at found
  refine ⟨Nat.lt_of_not_le tooDeep, ?_⟩
  rw [if_neg tooDeep] at found
  split at found
  · cases found
  · next tag body tagged =>
      obtain ⟨front, rfl, tagAgain⟩ := readsFront_readTag _ _ _ tagged
      obtain ⟨number, shape⟩ := tag
      by_cases ends : shape = Tag.groupEnd
      · rw [if_pos ends] at found
        by_cases same : number = current
        · rw [if_pos same] at found
          subst ends same
          exact ⟨front, body, outer, rfl, .close tagAgain, found⟩
        · simp [same] at found
      · rw [if_neg ends] at found
        by_cases starts : shape = Tag.groupStart
        · rw [if_pos starts] at found
          subst starts
          exact ⟨front, body, _, rfl, .group tagAgain, found⟩
        · rw [if_neg starts] at found
          split at found
          · cases found
          · next payload behind plain =>
              obtain ⟨held, rfl, plainAgain⟩ := readsFront_readPlain _ _ _ _ plain
              exact ⟨front ++ held, behind, _, (List.append_assoc _ _ _).symm,
                .record tagAgain ends starts plainAgain, found⟩

/-- A round, in front of bytes that close the groups left open by it. -/
theorem GroupStep.closes
    (step : GroupStep (current :: outer) front left)
    (room : outer.length < depth)
    (closes : Closes depth left used) :
    Closes depth (current :: outer) (front ++ used) := by
  intro higher fuel rest above enough
  have frontLength : 0 < front.length := List.length_pos_iff.mpr step.ne_nil
  rw [List.length_append] at enough
  cases fuel with
  | zero => omega
  | succ fuel =>
      rw [List.append_assoc, step.closeGroups?_append (Nat.lt_of_lt_of_le room above)]
      exact closes higher fuel rest above (by omega)

end GroupSteps

/-- Closing groups uses up the front of the input. -/
theorem exists_closes_of_closeGroups
    {depth fuel : Nat}
    {groups : List Nat}
    {input rest : Bytes}
    (found : closeGroups? depth fuel groups input = some rest) :
    ∃ used, input = used ++ rest ∧ Closes depth groups used := by
  induction fuel generalizing groups input with
  | zero =>
      cases groups with
      | nil =>
          simp only [closeGroups?, Option.some.injEq] at found
          exact ⟨[], found, closes_nil depth⟩
      | cons current outer => simp [closeGroups?] at found
  | succ fuel inductionHypothesis =>
      cases groups with
      | nil =>
          simp only [closeGroups?, Option.some.injEq] at found
          exact ⟨[], found, closes_nil depth⟩
      | cons current outer =>
          obtain ⟨room, front, behind, left, rfl, step, closed⟩ :=
            exists_groupStep_of_closeGroups found
          obtain ⟨used, rfl, closes⟩ := inductionHypothesis closed
          exact ⟨front ++ used, (List.append_assoc _ _ _).symm, step.closes room closes⟩

/-! ## Records -/

/-- A payload takes the front of the input, under every higher limit too. -/
theorem exists_used_of_readPayload
    {depth : Nat}
    {tag : Tag}
    {input rest : Bytes}
    {payload : Payload}
    (found : readPayload? depth tag input = some (payload, rest)) :
    ∃ used, input = used ++ rest ∧
      ∀ higher, depth ≤ higher → UsesFront (readPayload? higher tag) used payload := by
  by_cases starts : tag.shape = Tag.groupStart
  · simp only [readPayload?, if_pos starts] at found
    obtain ⟨behind, closed, equal⟩ := Option.map_eq_some_iff.mp found
    simp only [Prod.mk.injEq] at equal
    obtain ⟨rfl, rfl⟩ := equal
    obtain ⟨used, rfl, closes⟩ := exists_closes_of_closeGroups closed
    refine ⟨used, rfl, fun higher above more => ?_⟩
    have enough : used.length ≤ (used ++ more).length + 1 := by
      rw [List.length_append]
      omega
    rw [readPayload?, if_pos starts, closes higher _ more above enough]
    rfl
  · simp only [readPayload?, if_neg starts] at found
    obtain ⟨used, rfl, again⟩ := readsFront_readPlain _ _ _ _ found
    refine ⟨used, rfl, fun higher _ more => ?_⟩
    rw [readPayload?, if_neg starts]
    exact again more

/-- The bytes of a record are read as that record, whatever follows them. -/
def Record.IsWhole (depth : Nat) (record : Record) : Prop :=
  UsesFront (readRecord? depth) record.raw record

theorem Record.IsWhole.raw_ne_nil
    {depth : Nat}
    {record : Record}
    (whole : record.IsWhole depth) :
    record.raw ≠ [] := by
  intro empty
  have found := whole []
  simp [empty, readRecord?, Tag.read?, Tag.maxBytes, Varint.read?] at found

/-- A tag and a payload behind it make a record. -/
theorem isWhole_of_usesFront
    {depth : Nat}
    {tag : Tag}
    {payload : Payload}
    {front held : Bytes}
    (tagged : UsesFront Tag.read? front tag)
    (paid : UsesFront (readPayload? depth tag) held payload) :
    Record.IsWhole depth ⟨tag.number, payload, front ++ held⟩ := by
  intro rest
  have length : (front ++ (held ++ rest)).length - rest.length = (front ++ held).length := by
    simp only [List.length_append]
    omega
  simp only [readRecord?, List.append_assoc, tagged _, paid _, length]
  rw [← List.append_assoc, List.take_left]

/-- What is read as a record is a tag with a payload behind it, which is read under every higher
limit too. -/
theorem exists_parts_of_readRecord
    {depth : Nat}
    {input rest : Bytes}
    {record : Record}
    (found : readRecord? depth input = some (record, rest)) :
    ∃ tag payload front held, record = ⟨tag.number, payload, front ++ held⟩ ∧
      input = front ++ held ++ rest ∧ UsesFront Tag.read? front tag ∧
      ∀ higher, depth ≤ higher → UsesFront (readPayload? higher tag) held payload := by
  simp only [readRecord?] at found
  cases tagged : Tag.read? input with
  | none => simp [tagged] at found
  | some read =>
      obtain ⟨tag, body⟩ := read
      obtain ⟨front, rfl, tagAgain⟩ := readsFront_readTag _ _ _ tagged
      simp only [tagged] at found
      cases paid : readPayload? depth tag body with
      | none => simp [paid] at found
      | some read =>
          obtain ⟨payload, behind⟩ := read
          obtain ⟨held, rfl, paidAgain⟩ := exists_used_of_readPayload paid
          simp only [paid, Option.some.injEq, Prod.mk.injEq] at found
          obtain ⟨rfl, rfl⟩ := found
          have raw : (front ++ (held ++ behind)).take
              ((front ++ (held ++ behind)).length - behind.length) = front ++ held := by
            rw [← List.append_assoc]
            exact List.take_left' (by simp only [List.length_append]; omega)
          exact ⟨tag, payload, front, held, by rw [raw], by rw [List.append_assoc], tagAgain,
            paidAgain⟩

/-- What is read as a record is whole, under every higher limit too. -/
theorem isWhole_of_readRecord
    {depth : Nat}
    {input rest : Bytes}
    {record : Record}
    (found : readRecord? depth input = some (record, rest)) :
    input = record.raw ++ rest ∧
      ∀ higher, depth ≤ higher → record.IsWhole higher := by
  obtain ⟨tag, payload, front, held, rfl, rfl, tagged, paid⟩ := exists_parts_of_readRecord found
  exact ⟨rfl, fun higher above => isWhole_of_usesFront tagged (paid higher above)⟩

theorem readRecordsWith_of_isWhole
    {depth fuel : Nat}
    {records : List Record}
    (whole : ∀ record ∈ records, record.IsWhole depth)
    (enough : (records.flatMap Record.raw).length ≤ fuel) :
    readRecordsWith? depth fuel (records.flatMap Record.raw) = some records := by
  induction records generalizing fuel with
  | nil => cases fuel <;> rfl
  | cons record records inductionHypothesis =>
      have firstWhole := whole record List.mem_cons_self
      have restWhole : ∀ other ∈ records, other.IsWhole depth := fun other present =>
        whole other (List.mem_cons_of_mem record present)
      obtain ⟨byte, tail, form⟩ := List.exists_cons_of_ne_nil firstWhole.raw_ne_nil
      rw [List.flatMap_cons, List.length_append, form, List.length_cons] at enough
      cases fuel with
      | zero => omega
      | succ fuel =>
          have found := firstWhole (records.flatMap Record.raw)
          rw [form, List.cons_append] at found
          rw [List.flatMap_cons, form, List.cons_append, readRecordsWith?, found]
          have restEnough : (records.flatMap Record.raw).length ≤ fuel := by omega
          simp only [inductionHypothesis restWhole restEnough, Option.map_some]

/-- The records of an input: whole records, one behind the other, of which the input is
made. -/
theorem readRecords?_eq_some_iff
    {depth : Nat}
    {input : Bytes}
    {records : List Record} :
    readRecords? depth input = some records ↔
      input = records.flatMap Record.raw ∧ ∀ record ∈ records, record.IsWhole depth := by
  constructor
  · have split : ∀ fuel input records, readRecordsWith? depth fuel input = some records →
        input = records.flatMap Record.raw ∧
          ∀ record ∈ records, record.IsWhole depth := by
      intro fuel
      induction fuel with
      | zero =>
          intro input records found
          cases input with
          | nil =>
              simp only [readRecordsWith?, Option.some.injEq] at found
              simp [← found]
          | cons byte input => simp [readRecordsWith?] at found
      | succ fuel inductionHypothesis =>
          intro input records found
          cases input with
          | nil =>
              simp only [readRecordsWith?, Option.some.injEq] at found
              simp [← found]
          | cons byte input =>
              simp only [readRecordsWith?] at found
              split at found
              · simp at found
              · next record rest first =>
                  obtain ⟨others, othersFound, rfl⟩ := Option.map_eq_some_iff.mp found
                  obtain ⟨front, whole⟩ := isWhole_of_readRecord first
                  obtain ⟨behind, othersWhole⟩ := inductionHypothesis _ _ othersFound
                  refine ⟨by rw [front, List.flatMap_cons, ← behind], ?_⟩
                  intro other present
                  rw [List.mem_cons] at present
                  rcases present with rfl | inOthers
                  · exact whole depth (Nat.le_refl depth)
                  · exact othersWhole other inOthers
    exact split _ _ _
  · rintro ⟨rfl, whole⟩
    exact readRecordsWith_of_isWhole whole (Nat.le_refl _)

end Wire
end ChainClient
