import ChainClient.Proofs.Rpc.Batches
import Mathlib.Data.Set.List

/-!
# Stray items in the reply to a batch

A node may put anything into the reply to a batch. The first item that belongs to no request makes
the batch fail as an exchange, with the item in its message. One kind of item is an exception: an
identifier that is a list or a record cannot be looked up, and its misuse is none of the library's
failures.
-/

namespace ChainClient
namespace Rpc

open RemoteError (HasInfiniteCode)

/-! ## Items -/

/-- The item is a record for one of the requests. -/
def Belongs
    (made : List Call)
    (item : Datum) : Prop :=
  ∃ entries, item = .record entries ∧ ∃ request ∈ made, IsFor request.id entries

/-- The item is a record whose identifier is a list or a record itself. -/
inductive HasCompoundId : Datum → Prop
  | list
      {entries : Entries}
      {items : List Datum} :
      entries.get? "id" = some (.list items) →
      HasCompoundId (.record entries)
  | record
      {entries inner : Entries} :
      entries.get? "id" = some (.record inner) →
      HasCompoundId (.record entries)

/-- The first of the items that belong to none of the requests. -/
structure FirstStray
    (made : List Call)
    (items : List Datum)
    (item : Datum) : Prop where
  first : ∃ before after, items = before ++ item :: after ∧ ∀ earlier ∈ before, Belongs made earlier
  stray : ¬ Belongs made item

section

variable
    {made : List Call}
    {status : Nat}
    {item : Datum}
    {items : List Datum}

/-- Among items that do not all belong to the requests there is a first one. -/
theorem exists_firstStray
    (stray : ¬ ∀ item ∈ items, Belongs made item) :
    ∃ item, FirstStray made items item := by
  induction items with
  | nil => exact absurd (List.forall_mem_nil _) stray
  | cons head items inductionHypothesis =>
      by_cases belongs : Belongs made head
      · have later : ¬ ∀ item ∈ items, Belongs made item :=
          fun all => stray (List.forall_mem_cons.mpr ⟨belongs, all⟩)
        obtain ⟨item, ⟨before, after, split, earlier⟩, isStray⟩ := inductionHypothesis later
        exact ⟨item, ⟨head :: before, after, congrArg (head :: ·) split,
          List.forall_mem_cons.mpr ⟨belongs, earlier⟩⟩, isStray⟩
      · exact ⟨head, ⟨[], items, rfl, List.forall_mem_nil _⟩, belongs⟩

theorem FirstStray.mem
    (first : FirstStray made items item) :
    item ∈ items := by
  obtain ⟨before, after, rfl, -⟩ := first.first
  exact List.mem_append_right _ List.mem_cons_self

/-- Only one item is the first stray one. -/
theorem FirstStray.unique
    {other : Datum}
    (first : FirstStray made items item)
    (again : FirstStray made items other) :
    item = other := by
  obtain ⟨before, after, rfl, belong⟩ := first.first
  obtain ⟨others, rest, split, othersBelong⟩ := again.first
  rcases List.append_eq_append_iff.mp split with ⟨between, rfl, same⟩ | ⟨between, rfl, same⟩
  · cases between with
    | nil => exact (List.cons.inj same).1
    | cons head between =>
        obtain ⟨rfl, -⟩ := List.cons.inj same
        exact absurd (othersBelong _ (by simp)) first.stray
  · cases between with
    | nil => exact (List.cons.inj same).1.symm
    | cons head between =>
        obtain ⟨rfl, -⟩ := List.cons.inj same
        exact absurd (belong _ (by simp)) again.stray

/-- Items that belong to the requests are records. -/
theorem exists_records
    (belong : ∀ item ∈ items, Belongs made item) :
    ∃ records : List Entries, items = records.map .record ∧
      ∀ entries ∈ records, ∃ request ∈ made, IsFor request.id entries := by
  have listed : items ∈ Set.range (List.map Datum.record) := by
    rw [Set.range_list_map]
    intro item present
    obtain ⟨entries, same, -⟩ := belong item present
    exact ⟨entries, same.symm⟩
  obtain ⟨records, rfl⟩ := listed
  refine ⟨records, rfl, ?_⟩
  intro entries present
  obtain ⟨_, same, isFor⟩ := belong _ (List.mem_map_of_mem present)
  cases same
  exact isFor

theorem isIdKind_getD_eq_false_iff
    {entries : Entries} :
    isIdKind (entries.getD "id") = false ↔ HasCompoundId (.record entries) := by
  unfold Entries.getD
  constructor
  · intro compound
    cases found : Entries.get? "id" entries with
    | none =>
        rw [found] at compound
        cases compound
    | some id =>
        rw [found] at compound
        cases id with
        | list items => exact .list found
        | record inner => exact .record found
        | null | bool _ | int _ | float _ | text _ | bytes _ => cases compound
  · intro compound
    cases compound with
    | list found | record found =>
        rw [found]
        rfl

/-- No identifier of a request equals that of a stray record. -/
theorem matchId?_eq_none
    {entries : Entries}
    (stray : ¬ Belongs made (.record entries)) :
    matchId? made (entries.getD "id") = none := by
  rw [matchId?, Option.map_eq_none_iff, List.find?_eq_none]
  exact fun request present isFor => stray ⟨entries, rfl, request, present, isFor⟩

/-- The failure of a batch with a stray item that can be shown. -/
theorem classify_of_stray
    (showable : item.IsShowable)
    (stray : ¬ Belongs made item)
    (simple : ¬ HasCompoundId item) :
    ∃ shown, item.quoted? = some shown ∧
      classify made status item = .error (.transport ⟨Text.join
        ["unexpected item in batch response: ", shown], .text "batch", .null, .int status⟩) := by
  obtain ⟨shown, quoted⟩ := Option.isSome_iff_exists.mp showable
  have failure : unexpectedItem status item = .transport ⟨Text.join
      ["unexpected item in batch response: ", shown], .text "batch", .null, .int status⟩ := by
    rw [unexpectedItem, quoted]
    rfl
  refine ⟨shown, quoted, ?_⟩
  rw [← failure]
  unfold classify
  split
  · next entries =>
      have fit : isIdKind (Entries.getD entries "id") = true :=
        Bool.of_not_eq_false (mt isIdKind_getD_eq_false_iff.mp simple)
      dsimp only
      rw [fit, matchId?_eq_none stray]
      rfl
  · rfl

theorem classify_of_compound
    (compound : HasCompoundId item) :
    classify made status item = .error (.misuse (.wrongKind none)) := by
  obtain ⟨entries, rfl⟩ : ∃ entries, item = .record entries := by
    cases compound <;> exact ⟨_, rfl⟩
  unfold classify
  dsimp only
  rw [isIdKind_getD_eq_false_iff.mpr compound]
  rfl

/-- The items before the first stray one are sorted, and this one fails. -/
theorem collect_of_firstStray
    {failure : Failure}
    (first : FirstStray made items item)
    (fails : classify made status item = .error failure) :
    collect made status items = .error failure := by
  obtain ⟨before, after, rfl, belong⟩ := first.first
  obtain ⟨records, rfl, isFor⟩ := exists_records belong
  obtain ⟨byId, collected, -⟩ : ∃ byId, collect made status (records.map .record) = .ok byId ∧
      ∀ id found, LastFor id records found ↔ byId.lookup id = found := exists_collect isFor
  rw [collect] at collected ⊢
  rw [List.foldlM_append, collected]
  simp only [bind, Except.bind, List.foldlM, fails, Except.map]

end

/-! ## Ends of a batch -/

/-- A batch of so many calls brings a result for each, or fails as an exchange or as the node's
error. -/
inductive EndsProperly (count : Nat) : Outcome (List Datum) → Prop
  | results
      {results : List Datum} :
      results.length = count →
      EndsProperly count (.ok results)
  | transport
      (error : TransportError) :
      EndsProperly count (.error (.transport error))
  | remote
      (error : RemoteError) :
      EndsProperly count (.error (.remote error))

/-- The datum is a record whose error member has an infinite number for its code. -/
def BringsInfiniteCode (document : Datum) : Prop :=
  ∃ entries member, document = .record entries ∧
    errorOf? document = some member ∧ HasInfiniteCode member

section

variable
    {made : List Call}
    {answer : Reply}
    {document item : Datum}
    {items : List Datum}

/-- The document of a reply that is read decides about the results. -/
theorem repliedResults_eq
    (parsed : Json.parseBytes? answer.body = some document)
    (read : answer.status < 400 ∨ (errorOf? document).isSome) :
    repliedResults made (.ok answer) = resultsOfDocument made answer.status document := by
  have found : received batchSubject (.ok answer) = .ok (document, answer.status) :=
    received_eq_ok_iff.mpr ⟨answer, rfl, rfl, parsed, read⟩
  rw [repliedResults, found]
  rfl

/-- A reply with an error status and without an error fails as an exchange. -/
theorem repliedResults_of_unread
    (parsed : Json.parseBytes? answer.body = some document)
    (unread : ¬ (answer.status < 400 ∨ (errorOf? document).isSome)) :
    ∃ error, repliedResults made (.ok answer) = .error (.transport error) := by
  cases found : received batchSubject (.ok answer) with
  | ok pair =>
      obtain ⟨other, status⟩ := pair
      obtain ⟨_, same, rfl, again, read⟩ := received_eq_ok_iff.mp found
      cases same
      rw [parsed] at again
      cases again
      exact absurd read unread
  | error failure =>
      rcases failsOnlyWith_received _ found with ⟨error, rfl⟩ | ⟨misuse, -, ends⟩
      · refine ⟨error, ?_⟩
        rw [repliedResults, found]
        rfl
      · cases ends with
        | text unparsed _ =>
            rw [parsed] at unparsed
            cases unparsed

/-- The first stray item makes the batch fail. -/
theorem repliedResults_of_firstStray
    {failure : Failure}
    (parsed : Json.parseBytes? answer.body = some (.list items))
    (below : answer.status < 400)
    (first : FirstStray made items item)
    (fails : classify made answer.status item = .error failure) :
    repliedResults made (.ok answer) = .error failure := by
  rw [repliedResults_eq parsed (.inl below), resultsOfDocument, collect_of_firstStray first fails]
  rfl

/-- A request to which the items give no result fails properly, unless the last item for it brings
an error with an infinite code. -/
theorem FailsIn.endsProperly
    {records : List Entries}
    {request : Call}
    {failure : Failure}
    (fails : FailsIn records answer.status request failure) :
    (∀ count, EndsProperly count (.error failure)) ∨
      (failure = .misuse .tooLarge ∧ ∃ entries ∈ records, BringsInfiniteCode (.record entries)) := by
  cases fails with
  | missing _ => exact .inl fun _ => .transport _
  | @unanswered entries _ last fails =>
      cases fails with
      | remote _ _ => exact .inl fun _ => .remote _
      | infiniteCode found infinite =>
          have present : entries ∈ records := by
            cases last with
            | last split _ _ => simp [split]
          exact .inr ⟨rfl, entries, present, entries, _, rfl, found, infinite⟩
      | foreign _ _ _ => exact .inl fun _ => .transport _
      | noResult _ _ _ => exact .inl fun _ => .transport _

/-- Without stray items a batch ends properly, unless an item brings an error with an infinite
code. -/
theorem repliedResults_of_belong
    (parsed : Json.parseBytes? answer.body = some (.list items))
    (below : answer.status < 400)
    (belong : ∀ item ∈ items, Belongs made item) :
    EndsProperly made.length (repliedResults made (.ok answer)) ∨
      (repliedResults made (.ok answer) = .error (.misuse .tooLarge) ∧
        ∃ item ∈ items, BringsInfiniteCode item) := by
  obtain ⟨records, rfl, isFor⟩ := exists_records belong
  have brings : BringsItems answer made records := ⟨below, parsed, isFor⟩
  cases ends : repliedResults made (.ok answer) with
  | ok results =>
      have gives := (repliedResults_eq_ok_iff brings).mp ends
      exact .inl (.results gives.length_eq.symm)
  | error failure =>
      obtain ⟨before, request, after, -, -, fails⟩ := (repliedResults_eq_error_iff brings).mp ends
      rcases fails.endsProperly with proper | ⟨rfl, entries, present, infinite⟩
      · exact .inl (proper _)
      · exact .inr ⟨rfl, _, List.mem_map_of_mem present, infinite⟩

/-- What is no list fails properly, unless it brings an error with an infinite code. -/
theorem resultsOfDocument_of_ne_list
    {status : Nat}
    (showable : document.IsShowable)
    (notList : ∀ items, document ≠ .list items) :
    (∃ error, resultsOfDocument made status document = .error (.transport error)) ∨
      (∃ error, resultsOfDocument made status document = .error (.remote error)) ∨
      (resultsOfDocument made status document = .error (.misuse .tooLarge) ∧
        BringsInfiniteCode document) := by
  unfold resultsOfDocument
  split
  · exact absurd rfl (notList _)
  · split
    · next member entries _ found =>
        have errorShowable := isShowable_of_errorOf? showable found
        cases read : RemoteError.ofReply member batchSubject.method (Entries.getD entries "id") with
        | ok error => exact .inr (.inl ⟨error, rfl⟩)
        | error failure =>
            obtain ⟨rfl, infinite⟩ := (RemoteError.ofReply_eq_error_iff errorShowable).mp read
            exact .inr (.inr ⟨rfl, entries, member, rfl, found, infinite⟩)
    · exact .inl ⟨_, rfl⟩

/-- With a stray item among them, the items fail as an exchange if they come with an error status,
and as the first stray one says otherwise. -/
theorem repliedResults_of_not_belong
    (parsed : Json.parseBytes? answer.body = some (.list items))
    (stray : ¬ ∀ item ∈ items, Belongs made item) :
    (400 ≤ answer.status ∧
      ∃ error, repliedResults made (.ok answer) = .error (.transport error)) ∨
    ∃ item, FirstStray made items item ∧
      ((HasCompoundId item ∧
          repliedResults made (.ok answer) = .error (.misuse (.wrongKind none))) ∨
        ∃ shown, item.quoted? = some shown ∧
          repliedResults made (.ok answer) = .error (.transport ⟨Text.join
            ["unexpected item in batch response: ", shown], .text "batch", .null,
            .int answer.status⟩)) := by
  by_cases below : answer.status < 400
  · obtain ⟨item, first⟩ := exists_firstStray stray
    refine .inr ⟨item, first, ?_⟩
    by_cases compound : HasCompoundId item
    · exact .inl ⟨compound, repliedResults_of_firstStray parsed below first
        (classify_of_compound compound)⟩
    · have showable := Datum.isShowable_list_iff.mp (Json.isShowable_of_parseBytes parsed)
      obtain ⟨shown, quoted, fails⟩ := classify_of_stray (showable item first.mem) first.stray
        compound
      exact .inr ⟨shown, quoted, repliedResults_of_firstStray parsed below first fails⟩
  · have unread : ¬ (answer.status < 400 ∨ (errorOf? (.list items)).isSome) :=
      not_or_intro below Bool.noConfusion
    exact .inl ⟨Nat.le_of_not_lt below, repliedResults_of_unread parsed unread⟩

/-- A batch ends properly, or looks up an identifier that is a list or a record, or reads an error
with an infinite code. -/
theorem repliedResults_kind
    (parsed : Json.parseBytes? answer.body = some document) :
    EndsProperly made.length (repliedResults made (.ok answer)) ∨
      (repliedResults made (.ok answer) = .error (.misuse (.wrongKind none)) ∧
        answer.status < 400 ∧ ∃ items item, document = .list items ∧
          FirstStray made items item ∧ HasCompoundId item) ∨
      (repliedResults made (.ok answer) = .error (.misuse .tooLarge) ∧
        (BringsInfiniteCode document ∨
          ∃ items, document = .list items ∧ ∃ item ∈ items, BringsInfiniteCode item)) := by
  by_cases read : answer.status < 400 ∨ (errorOf? document).isSome
  · by_cases list : ∃ items, document = .list items
    · obtain ⟨items, rfl⟩ := list
      have below : answer.status < 400 := read.resolve_right Bool.noConfusion
      by_cases belong : ∀ item ∈ items, Belongs made item
      · rcases repliedResults_of_belong parsed below belong with proper | ⟨fails, infinite⟩
        · exact .inl proper
        · exact .inr (.inr ⟨fails, .inr ⟨items, rfl, infinite⟩⟩)
      · rcases repliedResults_of_not_belong parsed belong with
          ⟨above, -⟩ | ⟨item, first, ⟨compound, fails⟩ | ⟨shown, -, fails⟩⟩
        · exact absurd below (Nat.not_lt.mpr above)
        · exact .inr (.inl ⟨fails, below, items, item, rfl, first, compound⟩)
        · rw [fails]
          exact .inl (.transport _)
    · rw [repliedResults_eq parsed read]
      have showable := Json.isShowable_of_parseBytes parsed
      rcases resultsOfDocument_of_ne_list showable (not_exists.mp list) with
        ⟨error, ends⟩ | ⟨error, ends⟩ | ⟨ends, infinite⟩
      · rw [ends]
        exact .inl (.transport error)
      · rw [ends]
        exact .inl (.remote error)
      · exact .inr (.inr ⟨ends, .inl infinite⟩)
  · obtain ⟨error, ends⟩ := repliedResults_of_unread parsed read
    rw [ends]
    exact .inl (.transport error)

end

/-! ## Batches -/

/-- Whatever document a batch over an open link gets, it ends properly, but for two cases: the first
stray item has a list or a record for its identifier, or an error that is read has an infinite
code. A stray item of any other kind makes the batch fail as an exchange. -/
theorem batch_endsProperly
    {client : Client}
    {calls : List (Datum × Datum)}
    {trace : List (Exchange interface)}
    {outcome : Outcome (List Datum)}
    (nonempty : calls ≠ [])
    (taken : ∀ call ∈ calls, IsPositional call)
    (encodable : ∀ call ∈ calls, IsEncodable call)
    (yields : (batch client calls).outcome.Yields trace outcome)
    (neverClosed : foundOpen false ∉ trace) :
    ∃ made tail, List.Forall₂ Asks calls made ∧
      trace = (made.map Call.id).map drew ++ foundOpen true :: tail ∧
      ((∀ request ∈ made, Decimal.IsWritable request.id) →
        ∃ sent reply, tail = [exchanged sent reply]) ∧
      ∀ sent answer document, tail = [exchanged sent (.ok answer)] →
        Json.parseBytes? answer.body = some document →
        (EndsProperly calls.length outcome ∨ outcome = .error (.misuse (.wrongKind none)) ∨
          (outcome = .error (.misuse .tooLarge) ∧ (BringsInfiniteCode document ∨
            ∃ items, document = .list items ∧ ∃ item ∈ items, BringsInfiniteCode item))) ∧
        (outcome = .error (.misuse (.wrongKind none)) ↔ answer.status < 400 ∧
          ∃ items item, document = .list items ∧ FirstStray made items item ∧
            HasCompoundId item) ∧
        (∀ items, document = .list items → ¬ (∀ item ∈ items, Belongs made item) →
          (400 ≤ answer.status ∧ ∃ error, outcome = .error (.transport error)) ∨
          ∃ item, FirstStray made items item ∧
            ((HasCompoundId item ∧ outcome = .error (.misuse (.wrongKind none))) ∨
              ∃ shown, item.quoted? = some shown ∧ outcome = .error (.transport ⟨Text.join
                ["unexpected item in batch response: ", shown], .text "batch", .null,
                .int answer.status⟩))) := by
  obtain ⟨made, tail, asks, rfl, sends, receives⟩ :=
    exists_of_yields_batch nonempty taken yields neverClosed
  refine ⟨made, tail, asks, rfl, ?_, ?_⟩
  · exact fun writable => sends (isEncodable_of_forall₂ asks encodable writable)
  · intro sent answer document last parsed
    obtain rfl := receives sent _ last
    rw [asks.length_eq]
    have kind := @repliedResults_kind made answer document parsed
    refine ⟨?_, ⟨?_, ?_⟩, ?_⟩
    · rcases kind with proper | ⟨fails, -⟩ | infinite
      · exact .inl proper
      · exact .inr (.inl fails)
      · exact .inr (.inr infinite)
    · intro fails
      rcases kind with proper | ⟨-, compound⟩ | ⟨other, -⟩
      · rw [fails] at proper
        cases proper
      · exact compound
      · rw [fails] at other
        cases other
    · rintro ⟨below, items, item, rfl, first, compound⟩
      exact repliedResults_of_firstStray parsed below first (classify_of_compound compound)
    · rintro items rfl stray
      exact repliedResults_of_not_belong parsed stray

/-- The reply of a node that answers one request, and adds a null. -/
def paddedReply : Reply where
  status := 200
  body := utf8Body "[\x7b\"id\":2,\"result\":\"0x8\"\x7d,null]"

/-- The null belongs to no request. -/
theorem batch_endsProperly_padded :
    statusCalls ≠ [] ∧ (∀ call ∈ statusCalls, IsPositional call) ∧
      (∀ call ∈ statusCalls, IsEncodable call) ∧
      (batch localClient statusCalls).outcome.Yields
        [drew 1, drew 2, foundOpen true, exchanged statusRequest (.ok paddedReply)]
        (.error (.transport
          ⟨"unexpected item in batch response: None", .text "batch", .null, .int 200⟩)) := by
  have yields := yields_status (.ok paddedReply)
  obtain ⟨others, tail, asks, split, -, ends⟩ := batch_endsProperly (List.cons_ne_nil _ _)
    isPositional_status isEncodable_status yields (foundOpen_false_not_mem [1, 2] _)
  have made : List.Forall₂ Asks statusCalls statusMade := makesCalls_status.made_iff.1
  obtain ⟨rfl, same⟩ := eq_of_asks_of_append made asks split
  obtain ⟨-, rfl⟩ := List.cons.inj same
  let answered : Datum := .record [("id", .int 2), ("result", .text "0x8")]
  have parsed : Json.parseBytes? paddedReply.body = some (.list [answered, .null]) := by
    cbv
  have answers : Belongs statusMade answered := ⟨_, rfl, _, .tail _ (.head _), rfl⟩
  have apart : ¬ Belongs statusMade .null := by
    rintro ⟨_, same, -⟩
    cases same
  have first : FirstStray statusMade [answered, .null] .null :=
    ⟨⟨[answered], [], rfl, List.forall_mem_singleton.mpr answers⟩, apart⟩
  have stray : ¬ ∀ item ∈ [answered, .null], Belongs statusMade item :=
    fun all => apart (all _ (.tail _ (.head _)))
  obtain ⟨-, -, ends⟩ := ends _ _ _ rfl parsed
  rcases ends _ rfl stray with ⟨above, -⟩ | ⟨item, isFirst, ends⟩
  · exact absurd above (by decide)
  · obtain rfl := isFirst.unique first
    rcases ends with ⟨compound, -⟩ | ⟨shown, quoted, fails⟩
    · cases compound
    · cases quoted
      rw [fails] at yields
      exact ⟨List.cons_ne_nil _ _, isPositional_status, isEncodable_status, yields⟩

/-- The reply of a node that answers with a list for its identifier. -/
def compoundReply : Reply where
  status := 200
  body := utf8Body "[\x7b\"id\":[1],\"result\":1\x7d]"

/-- Not every document lets a batch end properly, even if no error has an infinite code. -/
theorem not_batch_endsProperly :
    ¬ ∀ (client : Client) (calls : List (Datum × Datum)) (trace : List (Exchange interface))
      (outcome : Outcome (List Datum)),
      calls ≠ [] → (∀ call ∈ calls, IsPositional call) → (∀ call ∈ calls, IsEncodable call) →
      (batch client calls).outcome.Yields trace outcome → foundOpen false ∉ trace →
      outcome ≠ .error (.misuse .tooLarge) → EndsProperly calls.length outcome := by
  intro closed
  let item : Datum := .record [("id", .list [.int 1]), ("result", .int 1)]
  have parsed : Json.parseBytes? compoundReply.body = some (.list [item]) := by
    cbv
  have compound : HasCompoundId item := .list rfl
  have first : FirstStray statusMade [item] item := by
    refine ⟨⟨[], [], rfl, List.forall_mem_nil _⟩, ?_⟩
    rintro ⟨entries, same, request, -, isFor⟩
    obtain rfl := Datum.record.inj same
    cases isFor
  have yields := yields_status (.ok compoundReply)
  rw [repliedResults_of_firstStray parsed (by decide) first (classify_of_compound compound)]
    at yields
  have proper := closed _ _ _ _ (List.cons_ne_nil _ _) isPositional_status isEncodable_status yields
    (foundOpen_false_not_mem [1, 2] _) (by simp)
  cases proper

end Rpc
end ChainClient
