import ChainClient.Wire.Schema
import ChainClient.Proofs.Wire.Records

/-!
# The grammar of the wire

What varints, tags, payloads, groups and records are, apart from how they are read. The
readers find exactly the words of this grammar: an input has records if and only if it is
made of words for records.
-/

namespace ChainClient
namespace Wire

/-! ## Words -/

/-- A varint of at most `most` bytes: all but the last one have the high bit set. -/
inductive IsVarint : (most : Nat) → Bytes → Nat → Prop
  | last
      {most : Nat}
      {byte : UInt8} :
      byte.toNat < 128 →
      IsVarint (most + 1) [byte] byte.toNat
  | more
      {most high : Nat}
      {byte : UInt8}
      {rest : Bytes} :
      128 ≤ byte.toNat →
      IsVarint most rest high →
      IsVarint (most + 1) (byte :: rest) (byte.toNat - 128 + 128 * high)

/-- A tag: a varint of 32 bits whose low three bits are the shape and whose other bits are
a field number, which is not zero. -/
def IsTag
    (word : Bytes)
    (tag : Tag) : Prop :=
  IsVarint Tag.maxBytes word (8 * tag.number + tag.shape) ∧
    0 < tag.number ∧ tag.shape < 8 ∧ 8 * tag.number + tag.shape < UInt32.size

/-- A payload that is no group. Of a varint the low 64 bits count. -/
inductive IsPlain : (shape : Nat) → Bytes → Payload → Prop
  | varint
      {word : Bytes}
      {value : Nat} :
      IsVarint Varint.maxBytes word value →
      IsPlain 0 word (.varint (UInt64.ofNat value))
  | fixed64
      {word : Bytes} :
      word.length = 8 →
      IsPlain 1 word (.fixed64 word)
  | bytes
      {count word : Bytes}
      {length : Nat} :
      IsVarint Varint.maxBytes count length →
      word.length = (UInt64.ofNat length).toNat →
      IsPlain 2 (count ++ word) (.bytes word)
  | fixed32
      {word : Bytes} :
      word.length = 4 →
      IsPlain 5 word (.fixed32 word)

/-- The body of a group with its end tag: records and other groups, which may nest so
deeply that `depth` groups are open at a time, this one included. -/
inductive IsGroupBody : (depth : Nat) → (number : Nat) → Bytes → Prop
  | close
      {depth number : Nat}
      {word : Bytes} :
      IsTag word ⟨number, Tag.groupEnd⟩ →
      IsGroupBody (depth + 1) number word
  | record
      {depth number : Nat}
      {tag : Tag}
      {payload : Payload}
      {front held rest : Bytes} :
      IsTag front tag →
      IsPlain tag.shape held payload →
      IsGroupBody (depth + 1) number rest →
      IsGroupBody (depth + 1) number (front ++ (held ++ rest))
  | group
      {depth number inner : Nat}
      {front body rest : Bytes} :
      IsTag front ⟨inner, Tag.groupStart⟩ →
      IsGroupBody depth inner body →
      IsGroupBody (depth + 1) number rest →
      IsGroupBody (depth + 1) number (front ++ (body ++ rest))

/-- A record of the grammar: a tag and a payload, or a group. -/
inductive IsRecord (depth : Nat) : Record → Prop
  | plain
      {tag : Tag}
      {payload : Payload}
      {front held : Bytes} :
      IsTag front tag →
      IsPlain tag.shape held payload →
      IsRecord depth ⟨tag.number, payload, front ++ held⟩
  | group
      {number : Nat}
      {front body : Bytes} :
      IsTag front ⟨number, Tag.groupStart⟩ →
      IsGroupBody depth number body →
      IsRecord depth ⟨number, .group, front ++ body⟩

/-! ## Readers -/

/-- The bytes that a reader uses up, read on their own. -/
theorem UsesFront.eq_some
    {read : Bytes → Option (α × Bytes)}
    {used : Bytes}
    {result : α}
    (uses : UsesFront read used result) :
    read used = some (result, []) := by
  have found := uses []
  rwa [List.append_nil] at found

theorem ReadsFront.usesFront
    {read : Bytes → Option (α × Bytes)}
    {used : Bytes}
    {result : α}
    (front : ReadsFront read)
    (found : read used = some (result, [])) :
    UsesFront read used result := by
  obtain ⟨same, equal, again⟩ := front _ _ _ found
  rw [List.append_nil] at equal
  rwa [← equal] at again

theorem usesFront_readVarint_iff
    {most value : Nat}
    {word : Bytes} :
    UsesFront (Varint.read? most) word value ↔ IsVarint most word value := by
  constructor
  · intro uses
    have found := uses.eq_some
    clear uses
    induction most generalizing word value with
    | zero => simp [Varint.read?] at found
    | succ most inductionHypothesis =>
        cases word with
        | nil => simp [Varint.read?] at found
        | cons byte rest =>
            rw [Varint.read?] at found
            by_cases small : byte.toNat < 128
            · rw [if_pos small] at found
              cases found
              exact .last small
            · rw [if_neg small] at found
              split at found
              · next high behind inner =>
                  cases found
                  exact .more (Nat.le_of_not_lt small) (inductionHypothesis inner)
              · cases found
  · intro isVarint rest
    induction isVarint with
    | last small => simp [Varint.read?, small]
    | more large _ inductionHypothesis =>
        rw [List.cons_append, Varint.read?, if_neg (Nat.not_lt_of_le large), inductionHypothesis]

theorem usesFront_readVarint64_iff
    {word : Bytes}
    {value : UInt64} :
    UsesFront Varint.read64? word value ↔
      ∃ n, IsVarint Varint.maxBytes word n ∧ value = UInt64.ofNat n := by
  constructor
  · intro uses
    obtain ⟨⟨n, rest⟩, found, equal⟩ := Option.map_eq_some_iff.mp uses.eq_some
    cases equal
    exact ⟨n, usesFront_readVarint_iff.mp ((readsFront_readVarint _).usesFront found), rfl⟩
  · rintro ⟨n, isVarint, rfl⟩ rest
    rw [Varint.read64?, usesFront_readVarint_iff.mpr isVarint rest]
    rfl

theorem usesFront_readTag_iff
    {word : Bytes}
    {tag : Tag} :
    UsesFront Tag.read? word tag ↔ IsTag word tag := by
  constructor
  · intro uses
    have found := uses.eq_some
    simp only [Tag.read?] at found
    split at found
    · cases found
    · next n rest inner =>
        split at found
        · cases found
        · next valid =>
            cases found
            have again := (readsFront_readVarint _).usesFront inner
            have parts : 8 * (n / 8) + n % 8 = n := by omega
            refine ⟨?_, ?_, ?_, ?_⟩
            · simp only [parts]
              exact usesFront_readVarint_iff.mp again
            · simp only
              omega
            · exact Nat.mod_lt _ (by decide)
            · simp only [parts]
              omega
  · rintro ⟨isVarint, positive, small, bounded⟩ rest
    have inRange : ¬ (8 * tag.number + tag.shape < 8 ∨
        UInt32.size ≤ 8 * tag.number + tag.shape) := by omega
    have high : (8 * tag.number + tag.shape) / 8 = tag.number := by omega
    have low : (8 * tag.number + tag.shape) % 8 = tag.shape := by omega
    rw [Tag.read?, usesFront_readVarint_iff.mpr isVarint rest]
    simp only [if_neg inRange, high, low]

theorem usesFront_takeBytes_iff
    {count : Nat}
    {word value : Bytes} :
    UsesFront (takeBytes? count) word value ↔ value = word ∧ word.length = count := by
  constructor
  · intro uses
    have found := uses.eq_some
    rw [takeBytes?] at found
    split at found
    · next enough =>
        simp only [Option.some.injEq, Prod.mk.injEq, List.drop_eq_nil_iff] at found
        obtain ⟨rfl, short⟩ := found
        exact ⟨List.take_of_length_le short, Nat.le_antisymm short enough⟩
    · cases found
  · rintro ⟨rfl, rfl⟩ rest
    rw [takeBytes?, if_pos (by simp), List.take_left, List.drop_left]

theorem usesFront_readCounted_iff
    {word value : Bytes} :
    UsesFront readCounted? word value ↔
      ∃ count length, word = count ++ value ∧ IsVarint Varint.maxBytes count length ∧
        value.length = (UInt64.ofNat length).toNat := by
  constructor
  · intro uses
    have found := uses.eq_some
    rw [readCounted?] at found
    split at found
    · cases found
    · next count behind inner =>
        obtain ⟨counted, rfl, countAgain⟩ := readsFront_readVarint64 _ _ _ inner
        obtain ⟨length, isVarint, rfl⟩ := usesFront_readVarint64_iff.mp countAgain
        have taken := (readsFront_takeBytes _).usesFront found
        obtain ⟨rfl, sized⟩ := usesFront_takeBytes_iff.mp taken
        exact ⟨counted, length, rfl, isVarint, sized⟩
  · rintro ⟨count, length, rfl, isVarint, sized⟩ rest
    have counts := usesFront_readVarint64_iff.mpr ⟨length, isVarint, rfl⟩
    have takes : UsesFront (takeBytes? (UInt64.ofNat length).toNat) value value :=
      usesFront_takeBytes_iff.mpr ⟨rfl, sized⟩
    rw [readCounted?, List.append_assoc, counts]
    exact takes rest

/-- A reader whose result is made of another one's. -/
theorem usesFront_map_iff
    {read : Bytes → Option (α × Bytes)}
    {f : α → β}
    {word : Bytes}
    {result : β}
    (front : ReadsFront read) :
    UsesFront (fun input => (read input).map fun (value, rest) => (f value, rest)) word result ↔
      ∃ value, UsesFront read word value ∧ result = f value := by
  constructor
  · intro uses
    obtain ⟨⟨value, rest⟩, found, equal⟩ := Option.map_eq_some_iff.mp uses.eq_some
    cases equal
    exact ⟨value, front.usesFront found, rfl⟩
  · rintro ⟨value, uses, rfl⟩ rest
    simp only [uses rest, Option.map_some]

theorem usesFront_readPlain_iff
    {shape : Nat}
    {word : Bytes}
    {payload : Payload} :
    UsesFront (readPlain? shape) word payload ↔ IsPlain shape word payload := by
  constructor
  · intro uses
    match shape with
    | 0 =>
        obtain ⟨value, read, rfl⟩ := (usesFront_map_iff readsFront_readVarint64).mp uses
        obtain ⟨n, isVarint, rfl⟩ := usesFront_readVarint64_iff.mp read
        exact .varint isVarint
    | 1 =>
        obtain ⟨value, read, rfl⟩ := (usesFront_map_iff (readsFront_takeBytes 8)).mp uses
        obtain ⟨rfl, sized⟩ := usesFront_takeBytes_iff.mp read
        exact .fixed64 sized
    | 2 =>
        obtain ⟨value, read, rfl⟩ := (usesFront_map_iff readsFront_readCounted).mp uses
        obtain ⟨count, length, rfl, isVarint, sized⟩ := usesFront_readCounted_iff.mp read
        exact .bytes isVarint sized
    | 5 =>
        obtain ⟨value, read, rfl⟩ := (usesFront_map_iff (readsFront_takeBytes 4)).mp uses
        obtain ⟨rfl, sized⟩ := usesFront_takeBytes_iff.mp read
        exact .fixed32 sized
    | 3 | 4 | _ + 6 => cases uses.eq_some
  · intro isPlain
    cases isPlain with
    | varint isVarint =>
        exact (usesFront_map_iff readsFront_readVarint64).mpr
          ⟨_, usesFront_readVarint64_iff.mpr ⟨_, isVarint, rfl⟩, rfl⟩
    | fixed64 sized =>
        exact (usesFront_map_iff (readsFront_takeBytes 8)).mpr
          ⟨_, usesFront_takeBytes_iff.mpr ⟨rfl, sized⟩, rfl⟩
    | bytes isVarint sized =>
        exact (usesFront_map_iff readsFront_readCounted).mpr
          ⟨_, usesFront_readCounted_iff.mpr ⟨_, _, rfl, isVarint, sized⟩, rfl⟩
    | fixed32 sized =>
        exact (usesFront_map_iff (readsFront_takeBytes 4)).mpr
          ⟨_, usesFront_takeBytes_iff.mpr ⟨rfl, sized⟩, rfl⟩

/-- A plain payload has a shape that neither starts nor ends a group. -/
theorem IsPlain.shape_ne
    {shape : Nat}
    {word : Bytes}
    {payload : Payload}
    (isPlain : IsPlain shape word payload) :
    shape ≠ Tag.groupEnd ∧ shape ≠ Tag.groupStart := by
  cases isPlain <;> decide

/-! ## Groups -/

/-- Bodies for all open groups, from the innermost on. -/
inductive AreGroupBodies (depth : Nat) : (groups : List Nat) → Bytes → Prop
  | nil : AreGroupBodies depth [] []
  | cons
      {current : Nat}
      {outer : List Nat}
      {body rest : Bytes} :
      IsGroupBody (depth - outer.length) current body →
      AreGroupBodies depth outer rest →
      AreGroupBodies depth (current :: outer) (body ++ rest)

section Bodies

variable {depth current : Nat}
variable {outer : List Nat}
variable {front held used : Bytes}

/-- A group may be opened if this leaves room for it. -/
theorem room_eq_succ (room : outer.length < depth) :
    depth - outer.length = (depth - (outer.length + 1)) + 1 := by
  omega

theorem AreGroupBodies.close
    (room : outer.length < depth)
    (isTag : IsTag front ⟨current, Tag.groupEnd⟩)
    (bodies : AreGroupBodies depth outer used) :
    AreGroupBodies depth (current :: outer) (front ++ used) := by
  refine .cons ?_ bodies
  rw [room_eq_succ room]
  exact .close isTag

theorem AreGroupBodies.record
    {tag : Tag}
    {payload : Payload}
    (room : outer.length < depth)
    (isTag : IsTag front tag)
    (isPlain : IsPlain tag.shape held payload)
    (bodies : AreGroupBodies depth (current :: outer) used) :
    AreGroupBodies depth (current :: outer) (front ++ (held ++ used)) := by
  cases bodies with
  | @cons _ _ body rest isBody bodies =>
      rw [← List.append_assoc held, ← List.append_assoc]
      refine .cons ?_ bodies
      rw [room_eq_succ room] at isBody ⊢
      exact .record isTag isPlain isBody

theorem AreGroupBodies.group
    {inner : Nat}
    (room : outer.length < depth)
    (isTag : IsTag front ⟨inner, Tag.groupStart⟩)
    (bodies : AreGroupBodies depth (inner :: current :: outer) used) :
    AreGroupBodies depth (current :: outer) (front ++ used) := by
  cases bodies with
  | cons isInner bodies =>
      cases bodies with
      | @cons _ _ body rest isBody bodies =>
          rw [← List.append_assoc, ← List.append_assoc]
          refine .cons ?_ bodies
          rw [room_eq_succ room] at isBody ⊢
          rw [List.append_assoc]
          exact .group isTag isInner isBody

/-- A round of the reader, in front of bodies for the groups left open by it. -/
theorem AreGroupBodies.step
    {left : List Nat}
    (room : outer.length < depth)
    (bodies : AreGroupBodies depth left used)
    (step : GroupStep (current :: outer) front left) :
    AreGroupBodies depth (current :: outer) (front ++ used) := by
  cases step with
  | close tagged => exact bodies.close room (usesFront_readTag_iff.mp tagged)
  | group tagged => exact bodies.group room (usesFront_readTag_iff.mp tagged)
  | record tagged notEnd notStart plain =>
      rw [List.append_assoc]
      exact bodies.record room (usesFront_readTag_iff.mp tagged)
        (usesFront_readPlain_iff.mp plain)

end Bodies

/-- What closes the open groups is made of bodies for them. -/
theorem exists_areGroupBodies_of_closeGroups
    {depth fuel : Nat}
    {groups : List Nat}
    {input rest : Bytes}
    (found : closeGroups? depth fuel groups input = some rest) :
    ∃ used, input = used ++ rest ∧ AreGroupBodies depth groups used := by
  induction fuel generalizing groups input with
  | zero =>
      cases groups with
      | nil =>
          simp only [closeGroups?, Option.some.injEq] at found
          exact ⟨[], found, .nil⟩
      | cons current outer => simp [closeGroups?] at found
  | succ fuel inductionHypothesis =>
      cases groups with
      | nil =>
          simp only [closeGroups?, Option.some.injEq] at found
          exact ⟨[], found, .nil⟩
      | cons current outer =>
          obtain ⟨room, front, behind, left, rfl, step, closed⟩ :=
            exists_groupStep_of_closeGroups found
          obtain ⟨used, rfl, bodies⟩ := inductionHypothesis closed
          exact ⟨front ++ used, (List.append_assoc _ _ _).symm, bodies.step room step⟩

/-- A body closes its group, if so many groups may be open. -/
theorem IsGroupBody.closes
    {room current depth : Nat}
    {outer : List Nat}
    {body used : Bytes}
    (isBody : IsGroupBody room current body)
    (enough : outer.length + room ≤ depth)
    (closes : Closes depth outer used) :
    Closes depth (current :: outer) (body ++ used) := by
  induction isBody generalizing outer used with
  | close isTag =>
      have tagged := usesFront_readTag_iff.mpr isTag
      exact (GroupStep.close tagged).closes (by omega) closes
  | record isTag isPlain isRest inductionHypothesis =>
      obtain ⟨notEnd, notStart⟩ := isPlain.shape_ne
      have tagged := usesFront_readTag_iff.mpr isTag
      have plain := usesFront_readPlain_iff.mpr isPlain
      rw [← List.append_assoc, List.append_assoc]
      exact (GroupStep.record tagged notEnd notStart plain).closes (by omega)
        (inductionHypothesis enough closes)
  | group isTag isInner isRest innerHypothesis restHypothesis =>
      have tagged := usesFront_readTag_iff.mpr isTag
      have restCloses := restHypothesis enough closes
      have innerCloses := innerHypothesis (by simp only [List.length_cons]; omega) restCloses
      rw [List.append_assoc, List.append_assoc]
      exact (GroupStep.group tagged).closes (by omega) innerCloses

/-! ## Records -/

theorem usesFront_readPayload_group_iff
    {depth number : Nat}
    {word : Bytes}
    {payload : Payload} :
    UsesFront (readPayload? depth ⟨number, Tag.groupStart⟩) word payload ↔
      payload = .group ∧ IsGroupBody depth number word := by
  constructor
  · intro uses
    have found := uses.eq_some
    rw [readPayload?, if_pos rfl] at found
    obtain ⟨rest, closed, equal⟩ := Option.map_eq_some_iff.mp found
    cases equal
    obtain ⟨used, same, bodies⟩ := exists_areGroupBodies_of_closeGroups closed
    cases bodies with
    | cons isBody none =>
        cases none
        simp only [List.append_nil] at same
        rw [same]
        exact ⟨rfl, isBody⟩
  · rintro ⟨rfl, isBody⟩ rest
    have closes : Closes depth [number] (word ++ []) :=
      isBody.closes (by simp) (closes_nil depth)
    rw [List.append_nil] at closes
    have enough : word.length ≤ (word ++ rest).length + 1 := by
      rw [List.length_append]
      omega
    rw [readPayload?, if_pos rfl, closes depth _ rest (Nat.le_refl _) enough]
    rfl

/-- The payload of any other tag is a plain one. -/
theorem usesFront_readPayload_plain_iff
    {depth : Nat}
    {tag : Tag}
    {word : Bytes}
    {payload : Payload}
    (noGroup : tag.shape ≠ Tag.groupStart) :
    UsesFront (readPayload? depth tag) word payload ↔ IsPlain tag.shape word payload := by
  have plain : readPayload? depth tag = readPlain? tag.shape := funext fun _ => if_neg noGroup
  rw [plain]
  exact usesFront_readPlain_iff

/-- The records that are read are those of the grammar. -/
theorem isWhole_iff_isRecord
    {depth : Nat}
    {record : Record} :
    record.IsWhole depth ↔ IsRecord depth record := by
  constructor
  · intro whole
    obtain ⟨tag, payload, front, held, rfl, -, tagged, paid⟩ :=
      exists_parts_of_readRecord (UsesFront.eq_some whole)
    have isTag := usesFront_readTag_iff.mp tagged
    have uses := paid depth (Nat.le_refl depth)
    by_cases starts : tag.shape = Tag.groupStart
    · obtain ⟨number, shape⟩ := tag
      subst starts
      obtain ⟨rfl, isBody⟩ := usesFront_readPayload_group_iff.mp uses
      exact .group isTag isBody
    · exact .plain isTag ((usesFront_readPayload_plain_iff starts).mp uses)
  · intro isRecord
    cases isRecord with
    | group isTag isBody =>
        exact isWhole_of_usesFront (usesFront_readTag_iff.mpr isTag)
          (usesFront_readPayload_group_iff.mpr ⟨rfl, isBody⟩)
    | plain isTag isPlain =>
        exact isWhole_of_usesFront (usesFront_readTag_iff.mpr isTag)
          ((usesFront_readPayload_plain_iff isPlain.shape_ne.2).mpr isPlain)

/-- An input has records exactly if it is made of words for them. -/
theorem readRecords?_eq_some_iff_isRecord
    {depth : Nat}
    {input : Bytes}
    {records : List Record} :
    readRecords? depth input = some records ↔
      input = records.flatMap Record.raw ∧ ∀ record ∈ records, IsRecord depth record := by
  simp only [readRecords?_eq_some_iff, isWhole_iff_isRecord]

end Wire
end ChainClient
