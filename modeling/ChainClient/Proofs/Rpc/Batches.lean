import ChainClient.Proofs.Rpc.Matching

/-!
# How a batch ends

A batch over an open link sends its requests once, together. It brings the results that the items of
the reply give to its calls, in the order of the calls.
-/

namespace ChainClient
namespace Rpc

/-! ## Requests of a batch -/

/-- Calls and identifiers decide the requests. -/
theorem eq_of_asks
    {calls : List (Datum × Datum)}
    {made others : List Call}
    (asks : List.Forall₂ Asks calls made)
    (again : List.Forall₂ Asks calls others)
    (same : made.map Call.id = others.map Call.id) :
    made = others := by
  induction asks generalizing others with
  | nil =>
      cases again
      rfl
  | @cons call request calls made first asks inductionHypothesis =>
      cases again with
      | @cons _ other _ others second again =>
          obtain ⟨sameId, sameIds⟩ := List.cons.inj same
          rw [inductionHypothesis again sameIds]
          obtain ⟨method, params, id⟩ := request
          obtain ⟨otherMethod, otherParams, otherId⟩ := other
          obtain ⟨rfl, given⟩ := first
          obtain ⟨rfl, givenAgain⟩ := second
          rw [given, Except.ok.injEq] at givenAgain
          cases givenAgain
          cases sameId
          rfl

theorem drew_injective :
    Function.Injective drew := by
  intro first second same
  cases same
  rfl

/-- What was drawn for the requests tells them from what was asked behind. -/
theorem eq_of_asks_of_append
    {calls : List (Datum × Datum)}
    {made others : List Call}
    {behind tail : List (Exchange interface)}
    (asks : List.Forall₂ Asks calls made)
    (again : List.Forall₂ Asks calls others)
    (split : (made.map Call.id).map drew ++ behind = (others.map Call.id).map drew ++ tail) :
    made = others ∧ behind = tail := by
  have counted : ((made.map Call.id).map drew).length =
      ((others.map Call.id).map drew).length := by
    simp only [List.length_map]
    rw [← asks.length_eq, again.length_eq]
  obtain ⟨drawn, rest⟩ := List.append_inj split counted
  exact ⟨eq_of_asks asks again (List.map_injective_iff.mpr drew_injective drawn), rest⟩

/-! ## Batches -/

section

variable
    {client : Client}
    {calls : List (Datum × Datum)}
    {trace : List (Exchange interface)}
    {outcome : Outcome (List Datum)}

/-- The operation of a batch does what the batch does, and makes one datum of the results. -/
theorem yields_task_batch_iff :
    ((Operation.batch calls).task client).outcome.Yields trace (Datum.list <$> outcome) ↔
      (batch client calls).outcome.Yields trace outcome := by
  have task : ((Operation.batch calls).task client).outcome =
      (batch client calls).outcome.bind fun outcome => .done (Datum.list <$> outcome) := by
    unfold Operation.task
    dsimp only
    rw [ChainClient.Task.outcome_bind]
    congr 1
    funext outcome
    cases outcome with
    | ok results => rfl
    | error failure => rfl
  rw [task, Interaction.yields_bind_done_iff]
  constructor
  · rintro ⟨between, yields, same⟩
    rwa [map_right_injective (fun _ _ => Datum.list.inj) same]
  · exact fun yields => ⟨outcome, yields, rfl⟩

/-- A batch whose requests have a text brings what their reply brings. -/
theorem yields_batch
    {front : List (Exchange interface)}
    {first : Call}
    {requests : List Call}
    {body : Text}
    (makes : MakesCalls calls front (.ok (first :: requests)))
    (written : bodyOf (.list ((first :: requests).map Call.toDatum)) = .ok body)
    (reply : Except ExchangeFault Reply) :
    (batch client calls).outcome.Yields
      (front ++ [foundOpen true, exchanged (client.request body) reply])
      (repliedResults (first :: requests) reply) :=
  yields_task_batch_iff.mp
    (Operation.yields_batch_iff.mpr (.batch makes (.exchanged reply written)))

/-- What a batch does over a link that it does not find closed. -/
theorem exists_of_yields_batch
    (nonempty : calls ≠ [])
    (taken : ∀ call ∈ calls, IsPositional call)
    (yields : (batch client calls).outcome.Yields trace outcome)
    (neverClosed : foundOpen false ∉ trace) :
    ∃ made tail, List.Forall₂ Asks calls made ∧
      trace = (made.map Call.id).map drew ++ foundOpen true :: tail ∧
      ((Datum.list (made.map Call.toDatum)).IsEncodable →
        ∃ sent reply, tail = [exchanged sent reply]) ∧
      ∀ sent reply, tail = [exchanged sent reply] → outcome = repliedResults made reply := by
  have runs := Operation.yields_task_iff.mp (yields_task_batch_iff.mpr yields)
  generalize same : Datum.list <$> outcome = result at runs
  cases runs with
  | batchRefused makes =>
      obtain ⟨_, _, -, -, refused⟩ := makes.refused
      exact absurd taken refused.not_forall
  | batchEmpty makes =>
      obtain ⟨asks, -⟩ := makes.made_iff
      cases asks
      exact absurd rfl nonempty
  | batch makes posts =>
      obtain ⟨asks, rfl⟩ := makes.made_iff
      have opened := fun closed => neverClosed (List.mem_append_right _ closed)
      obtain ⟨tail, rfl, sends, receives⟩ := posts.of_open opened
      refine ⟨_, tail, asks, rfl, sends, ?_⟩
      intro sent reply last
      rw [receives sent reply last] at same
      exact map_right_injective (fun _ _ => Datum.list.inj) same

/-- A batch over an open link draws an identifier for each call and sends its request once. Of a
list of records that are for its requests it brings the last one for each, whatever their order. -/
theorem batch_outcome
    (nonempty : calls ≠ [])
    (taken : ∀ call ∈ calls, IsPositional call)
    (encodable : ∀ call ∈ calls, IsEncodable call)
    (yields : (batch client calls).outcome.Yields trace outcome)
    (neverClosed : foundOpen false ∉ trace) :
    ∃ made tail, List.Forall₂ Asks calls made ∧
      trace = (made.map Call.id).map drew ++ foundOpen true :: tail ∧
      ((∀ request ∈ made, Decimal.IsWritable request.id) →
        ∃ sent reply, tail = [exchanged sent reply]) ∧
      ∀ sent answer items, tail = [exchanged sent (.ok answer)] → BringsItems answer made items →
        ((∃ results, outcome = .ok results) ↔
          ∀ request ∈ made, ∃ result, Gives items request result) ∧
        (∀ results, outcome = .ok results ↔ List.Forall₂ (Gives items) made results) ∧
        (∀ failure, outcome = .error failure ↔
          ∃ before request after, made = before ++ request :: after ∧
            (∀ earlier ∈ before, ∃ result, Gives items earlier result) ∧
            FailsIn items answer.status request failure) ∧
        (items.Pairwise (fun first second =>
            (first.getD "id").equals (second.getD "id") = false) →
          ∀ other permuted otherOutcome, items.Perm permuted →
            Json.parseBytes? other.body = some (.list (permuted.map .record)) →
            other.status = answer.status →
            (batch client calls).outcome.Yields
              ((made.map Call.id).map drew ++ [foundOpen true, exchanged sent (.ok other)])
              otherOutcome →
            otherOutcome = outcome) := by
  obtain ⟨made, tail, asks, rfl, sends, receives⟩ :=
    exists_of_yields_batch nonempty taken yields neverClosed
  refine ⟨made, tail, asks, rfl, ?_, ?_⟩
  · exact fun writable => sends (isEncodable_of_forall₂ asks encodable writable)
  · intro sent answer items last brings
    obtain rfl := receives sent _ last
    refine ⟨?_, fun _ => repliedResults_eq_ok_iff brings,
      fun _ => repliedResults_eq_error_iff brings, ?_⟩
    · simp only [repliedResults_eq_ok_iff brings, exists_forall₂_iff]
    · intro distinct other permuted otherOutcome perm parsed sameStatus otherYields
      obtain ⟨others, otherTail, otherAsks, split, -, otherReceives⟩ :=
        exists_of_yields_batch nonempty taken otherYields (foundOpen_false_not_mem _ _)
      obtain ⟨rfl, rest⟩ := eq_of_asks_of_append asks otherAsks split
      obtain ⟨-, last⟩ := List.cons.inj rest
      rw [otherReceives sent _ last.symm]
      exact repliedResults_eq_of_perm brings distinct perm parsed sameStatus

end

/-- A request for the height of the chain, and one for the number of peers. -/
def statusCalls : List (Datum × Datum) :=
  [(.text "blockNumber", .null), (.text "peerCount", .list [])]

theorem isPositional_status :
    ∀ call ∈ statusCalls, IsPositional call := by
  simp only [statusCalls, List.forall_mem_cons]
  exact ⟨.inl rfl, .inr ⟨[], rfl⟩, List.forall_mem_nil _⟩

theorem isEncodable_status :
    ∀ call ∈ statusCalls, IsEncodable call := by
  have peerCount : (Datum.text "peerCount").IsEncodable := ⟨_, rfl, by decide⟩
  simp only [statusCalls, List.forall_mem_cons]
  exact ⟨isEncodable_height, ⟨peerCount, Datum.isEncodable_list (List.forall_mem_nil _)⟩,
    List.forall_mem_nil _⟩

/-- The requests of these calls, the first of a client. -/
def statusMade : List Call :=
  [⟨.text "blockNumber", [], 1⟩, ⟨.text "peerCount", [], 2⟩]

theorem makesCalls_status :
    MakesCalls statusCalls [drew 1, drew 2] (.ok statusMade) :=
  .made 1 rfl (.made 2 rfl .nil)

/-- The document of these requests. -/
def statusBody : Text :=
  Text.ofString <|
    "[\x7b\"jsonrpc\":\"2.0\",\"method\":\"blockNumber\",\"params\":[],\"id\":1\x7d," ++
    "\x7b\"jsonrpc\":\"2.0\",\"method\":\"peerCount\",\"params\":[],\"id\":2\x7d]"

/-- The request of a batch of both. -/
def statusRequest : Request :=
  localClient.request statusBody

/-- What the batch of the status calls makes of its reply. -/
theorem yields_status (reply : Except ExchangeFault Reply) :
    (batch localClient statusCalls).outcome.Yields
      ([drew 1, drew 2] ++ [foundOpen true, exchanged statusRequest reply])
      (repliedResults statusMade reply) := by
  have written : bodyOf (.list (statusMade.map Call.toDatum)) = .ok statusBody := by
    decide +kernel
  exact yields_batch makesCalls_status written reply

/-- The reply of a node that answers the first request twice, and last with a truth value for its
identifier. -/
def statusReply : Reply where
  status := 200
  body := utf8Body <|
    "[\x7b\"id\":2,\"result\":\"0x8\"\x7d,\x7b\"id\":1,\"result\":\"0x0\"\x7d," ++
    "\x7b\"id\":true,\"result\":\"0x7\",\"error\":null\x7d]"

/-- The items of that reply. -/
def statusItems : List Entries :=
  [[("id", .int 2), ("result", .text "0x8")],
    [("id", .int 1), ("result", .text "0x0")],
    [("id", .bool true), ("result", .text "0x7"), ("error", .null)]]

/-- The results come in the order of the calls, and the second answer to the first call counts. -/
theorem batch_outcome_disordered :
    (∀ call ∈ statusCalls, IsPositional call) ∧ (∀ call ∈ statusCalls, IsEncodable call) ∧
      (batch localClient statusCalls).outcome.Yields
        [drew 1, drew 2, foundOpen true, exchanged statusRequest (.ok statusReply)]
        (.ok [.text "0x7", .text "0x8"]) := by
  have yields := yields_status (.ok statusReply)
  obtain ⟨others, tail, asks, split, -, ends⟩ := batch_outcome (List.cons_ne_nil _ _)
    isPositional_status isEncodable_status yields (foundOpen_false_not_mem [1, 2] _)
  have made : List.Forall₂ Asks statusCalls statusMade := makesCalls_status.made_iff.1
  obtain ⟨rfl, same⟩ := eq_of_asks_of_append made asks split
  obtain ⟨-, rfl⟩ := List.cons.inj same
  have brings : BringsItems statusReply statusMade statusItems := {
    below := by decide
    parsed := by cbv
    belongs := by
      simp only [statusItems, List.forall_mem_cons]
      exact ⟨⟨_, .tail _ (.head _), rfl⟩, ⟨_, .head _, rfl⟩, ⟨_, .head _, rfl⟩,
        List.forall_mem_nil _⟩ }
  have first : Gives statusItems ⟨.text "blockNumber", [], 1⟩ (.text "0x7") := by
    have split : statusItems = statusItems.take 2 ++ _ :: [] := rfl
    exact ⟨_, .last split rfl (List.forall_mem_nil _), rfl, rfl, rfl⟩
  have second : Gives statusItems ⟨.text "peerCount", [], 2⟩ (.text "0x8") := by
    have split : statusItems = [] ++ _ :: statusItems.drop 1 := rfl
    exact ⟨_, .last split rfl (by decide), rfl, rfl, rfl⟩
  obtain ⟨-, results, -⟩ := ends _ _ _ rfl brings
  rw [(results _).mpr (.cons first (.cons second .nil))] at yields
  exact ⟨isPositional_status, isEncodable_status, yields⟩

end Rpc
end ChainClient
