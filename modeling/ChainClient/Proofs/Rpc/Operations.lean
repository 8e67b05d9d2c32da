import ChainClient.Proofs.Encoding.Documents
import ChainClient.Proofs.Results
import ChainClient.Proofs.Traces
import ChainClient.Rpc.Client

/-!
# Operations of a client

All that the operations of a client can do over their link: draw identifiers for the calls whose
parameters are a sequence, ask whether the link is open, and exchange one request.
-/

namespace ChainClient
namespace Rpc

variable {α : Type}

/-! ## Exchanges -/

/-- Asks for an identifier. -/
def askId (next : Nat → Interaction interface α) : Interaction interface α :=
  .ask Question.drawId next

/-- Asks whether the link is open. -/
def askOpen (next : Bool → Interaction interface α) : Interaction interface α :=
  .ask Question.isOpen next

/-- Sends a request. -/
def askExchange
    (request : Request)
    (next : Except ExchangeFault Reply → Interaction interface α) : Interaction interface α :=
  .ask (Question.exchange request) next

/-- An identifier was drawn. -/
def drew (id : Nat) : Exchange interface :=
  ⟨Question.drawId, id⟩

/-- The link was asked whether it is open. -/
def foundOpen (isOpen : Bool) : Exchange interface :=
  ⟨Question.isOpen, isOpen⟩

/-- A request was sent, for a reply or a fault. -/
def exchanged
    (request : Request)
    (reply : Except ExchangeFault Reply) : Exchange interface :=
  ⟨Question.exchange request, reply⟩

theorem yields_askId_iff
    {next : Nat → Interaction interface α}
    {trace : List (Exchange interface)}
    {result : α} :
    (askId next).Yields trace result ↔
      ∃ id rest, trace = drew id :: rest ∧ (next id).Yields rest result :=
  Interaction.yields_ask_iff

theorem yields_askOpen_iff
    {next : Bool → Interaction interface α}
    {trace : List (Exchange interface)}
    {result : α} :
    (askOpen next).Yields trace result ↔
      ∃ isOpen rest, trace = foundOpen isOpen :: rest ∧ (next isOpen).Yields rest result :=
  Interaction.yields_ask_iff

theorem yields_askExchange_iff
    {request : Request}
    {next : Except ExchangeFault Reply → Interaction interface α}
    {trace : List (Exchange interface)}
    {result : α} :
    (askExchange request next).Yields trace result ↔
      ∃ reply rest, trace = exchanged request reply :: rest ∧ (next reply).Yields rest result :=
  Interaction.yields_ask_iff

/-! ## Drawing -/

/-- All that the making of a request can do: refuse the parameters, or draw an identifier. -/
inductive MakesCall (method params : Datum) : List (Exchange interface) → Outcome Call → Prop
  | malformed
      {misuse : Misuse} :
      positional params = .error misuse →
      MakesCall method params [] (.error (.misuse misuse))
  | made
      {items : List Datum}
      (id : Nat) :
      positional params = .ok items →
      MakesCall method params [drew id] (.ok ⟨method, items, id⟩)

theorem makeCall_of_malformed
    {method params : Datum}
    {misuse : Misuse}
    (malformed : positional params = .error misuse) :
    (makeCall method params).outcome = .done (.error (.misuse misuse)) := by
  unfold makeCall
  rw [ChainClient.Task.outcome_bind, malformed]
  rfl

theorem makeCall_of_positional
    {method params : Datum}
    {items : List Datum}
    (given : positional params = .ok items) :
    (makeCall method params).outcome = askId fun id => .done (.ok ⟨method, items, id⟩) := by
  unfold makeCall
  rw [ChainClient.Task.outcome_bind, given]
  rfl

/-- To make a request does one of these things and no other. -/
theorem yields_makeCall_iff
    {method params : Datum}
    {trace : List (Exchange interface)}
    {outcome : Outcome Call} :
    (makeCall method params).outcome.Yields trace outcome ↔
      MakesCall method params trace outcome := by
  constructor
  · intro yields
    cases given : positional params with
    | error misuse =>
        rw [makeCall_of_malformed given, Interaction.yields_done_iff] at yields
        obtain ⟨rfl, rfl⟩ := yields
        exact .malformed given
    | ok items =>
        rw [makeCall_of_positional given, yields_askId_iff] at yields
        obtain ⟨id, rest, rfl, yields⟩ := yields
        obtain ⟨rfl, rfl⟩ := Interaction.yields_done_iff.mp yields
        exact .made id given
  · intro makes
    cases makes with
    | malformed given =>
        rw [makeCall_of_malformed given]
        exact .done _
    | made id given =>
        rw [makeCall_of_positional given, yields_askId_iff]
        exact ⟨id, [], rfl, .done _⟩

/-- Makes the requests of a batch, one after the other. -/
def makeCalls (calls : List (Datum × Datum)) : Task (List Call) :=
  calls.mapM fun (method, params) => makeCall method params

/-- All that the making of the requests of a batch can do: each call draws its identifier, and
the first one whose parameters are refused ends it. -/
inductive MakesCalls :
    List (Datum × Datum) → List (Exchange interface) → Outcome (List Call) → Prop
  | nil :
      MakesCalls [] [] (.ok [])
  | malformed
      {method params : Datum}
      {calls : List (Datum × Datum)}
      {misuse : Misuse} :
      positional params = .error misuse →
      MakesCalls ((method, params) :: calls) [] (.error (.misuse misuse))
  | failed
      {method params : Datum}
      {items : List Datum}
      {calls : List (Datum × Datum)}
      {trace : List (Exchange interface)}
      {failure : Failure}
      (id : Nat) :
      positional params = .ok items →
      MakesCalls calls trace (.error failure) →
      MakesCalls ((method, params) :: calls) (drew id :: trace) (.error failure)
  | made
      {method params : Datum}
      {items : List Datum}
      {calls : List (Datum × Datum)}
      {trace : List (Exchange interface)}
      {requests : List Call}
      (id : Nat) :
      positional params = .ok items →
      MakesCalls calls trace (.ok requests) →
      MakesCalls ((method, params) :: calls) (drew id :: trace)
        (.ok (⟨method, items, id⟩ :: requests))

theorem makeCalls_nil :
    (makeCalls []).outcome = .done (.ok []) := rfl

theorem makeCalls_cons_of_malformed
    {method params : Datum}
    {calls : List (Datum × Datum)}
    {misuse : Misuse}
    (malformed : positional params = .error misuse) :
    (makeCalls ((method, params) :: calls)).outcome = .done (.error (.misuse misuse)) := by
  unfold makeCalls
  rw [List.mapM_cons, ChainClient.Task.outcome_bind, makeCall_of_malformed malformed]
  rfl

/-- A batch goes on behind the first of its calls. -/
theorem makeCalls_cons_of_positional
    {method params : Datum}
    {calls : List (Datum × Datum)}
    {items : List Datum}
    (given : positional params = .ok items) :
    (makeCalls ((method, params) :: calls)).outcome = askId fun id =>
      (makeCalls calls).outcome.bind fun outcome =>
        .done (outcome.map fun requests => ⟨method, items, id⟩ :: requests) := by
  unfold makeCalls
  rw [List.mapM_cons, ChainClient.Task.outcome_bind, makeCall_of_positional given]
  change askId _ = askId _
  congr 1
  funext id
  change ChainClient.Task.outcome (_ >>= _) = _
  rw [ChainClient.Task.outcome_bind]
  congr 1
  funext outcome
  cases outcome with
  | ok requests => rfl
  | error failure => rfl

/-- A batch whose first call is refused makes nothing. -/
theorem makesCalls_cons_iff_of_malformed
    {method params : Datum}
    {calls : List (Datum × Datum)}
    {misuse : Misuse}
    {trace : List (Exchange interface)}
    {outcome : Outcome (List Call)}
    (malformed : positional params = .error misuse) :
    MakesCalls ((method, params) :: calls) trace outcome ↔
      trace = [] ∧ outcome = .error (.misuse misuse) := by
  constructor
  · intro makes
    cases makes with
    | malformed refused =>
        rw [malformed, Except.error.injEq] at refused
        exact ⟨rfl, by rw [refused]⟩
    | failed id taken | made id taken =>
        rw [malformed] at taken
        cases taken
  · rintro ⟨rfl, rfl⟩
    exact .malformed malformed

/-- A batch whose first call is taken goes on with the others. -/
theorem makesCalls_cons_iff_of_positional
    {method params : Datum}
    {calls : List (Datum × Datum)}
    {items : List Datum}
    {trace : List (Exchange interface)}
    {outcome : Outcome (List Call)}
    (given : positional params = .ok items) :
    MakesCalls ((method, params) :: calls) trace outcome ↔
      ∃ id rest, trace = drew id :: rest ∧ ∃ others, MakesCalls calls rest others ∧
        outcome = others.map fun requests => ⟨method, items, id⟩ :: requests := by
  constructor
  · intro makes
    cases makes with
    | malformed refused =>
        rw [given] at refused
        cases refused
    | failed id taken makes => exact ⟨id, _, rfl, _, makes, rfl⟩
    | made id taken makes =>
        rw [given, Except.ok.injEq] at taken
        subst taken
        exact ⟨id, _, rfl, _, makes, rfl⟩
  · rintro ⟨id, _, rfl, others, makes, rfl⟩
    cases others with
    | error failure => exact .failed id given makes
    | ok requests => exact .made id given makes

theorem yields_makeCalls_iff
    {calls : List (Datum × Datum)}
    {trace : List (Exchange interface)}
    {outcome : Outcome (List Call)} :
    (makeCalls calls).outcome.Yields trace outcome ↔ MakesCalls calls trace outcome := by
  induction calls generalizing trace outcome with
  | nil =>
      rw [makeCalls_nil, Interaction.yields_done_iff]
      constructor
      · rintro ⟨rfl, rfl⟩
        exact .nil
      · intro makes
        cases makes
        exact ⟨rfl, rfl⟩
  | cons call calls inductionHypothesis =>
      obtain ⟨method, params⟩ := call
      cases given : positional params with
      | error misuse =>
          rw [makeCalls_cons_of_malformed given, makesCalls_cons_iff_of_malformed given]
          exact Interaction.yields_done_iff
      | ok items =>
          rw [makeCalls_cons_of_positional given, makesCalls_cons_iff_of_positional given]
          simp only [yields_askId_iff, Interaction.yields_bind_done_iff, inductionHypothesis]

/-! ## Exchanging -/

/-- The failure of an exchange over a closed link. -/
def Subject.closed (subject : Subject) : Failure :=
  subject.failure "client is closed" none

/-- What comes of the reply to a request. -/
def received (subject : Subject) : Except ExchangeFault Reply → Outcome (Datum × Nat)
  | .error fault => .error (subject.lost fault)
  | .ok reply => (readReply subject reply).map fun document => (document, reply.status)

/-- All that an exchange can do: find the link closed, find no text for the request, or send it,
once. -/
inductive Posts (client : Client) (subject : Subject) (payload : Datum) :
    List (Exchange interface) → Outcome (Datum × Nat) → Prop
  | closed :
      Posts client subject payload [foundOpen false] (.error subject.closed)
  | unwritable
      {misuse : Misuse} :
      bodyOf payload = .error misuse →
      Posts client subject payload [foundOpen true] (.error (.misuse misuse))
  | exchanged
      {body : Text}
      (reply : Except ExchangeFault Reply) :
      bodyOf payload = .ok body →
      Posts client subject payload
        [foundOpen true, Rpc.exchanged (client.request body) reply]
        (received subject reply)

/-- Sends a request if it has a text. -/
def exchangeBody
    (client : Client)
    (subject : Subject) :
    Except Misuse Text → Interaction interface (Outcome (Datum × Nat))
  | .error misuse => .done (.error (.misuse misuse))
  | .ok body => askExchange (client.request body) fun reply => .done (received subject reply)

theorem post_eq
    (client : Client)
    (subject : Subject)
    (payload : Datum) :
    (post client subject payload).outcome = askOpen fun isOpen =>
      if isOpen then exchangeBody client subject (bodyOf payload)
      else .done (.error subject.closed) := by
  change askOpen _ = askOpen _
  congr 1
  funext isOpen
  cases isOpen with
  | false => rfl
  | true =>
      cases written : bodyOf payload with
      | error misuse => rfl
      | ok body =>
          change askExchange _ _ = askExchange _ _
          congr 1
          funext reply
          cases reply with
          | error fault => rfl
          | ok reply => rfl

/-- An exchange does one of these things and no other. -/
theorem yields_post_iff
    {client : Client}
    {subject : Subject}
    {payload : Datum}
    {trace : List (Exchange interface)}
    {outcome : Outcome (Datum × Nat)} :
    (post client subject payload).outcome.Yields trace outcome ↔
      Posts client subject payload trace outcome := by
  rw [post_eq, yields_askOpen_iff]
  constructor
  · rintro ⟨isOpen, rest, rfl, yields⟩
    cases isOpen with
    | false =>
        obtain ⟨rfl, rfl⟩ := Interaction.yields_done_iff.mp yields
        exact .closed
    | true =>
        rw [if_pos rfl] at yields
        cases written : bodyOf payload with
        | error misuse =>
            rw [written] at yields
            obtain ⟨rfl, rfl⟩ := Interaction.yields_done_iff.mp yields
            exact .unwritable written
        | ok body =>
            rw [written] at yields
            obtain ⟨reply, behind, rfl, settled⟩ := yields_askExchange_iff.mp yields
            obtain ⟨rfl, rfl⟩ := Interaction.yields_done_iff.mp settled
            exact .exchanged reply written
  · intro posts
    cases posts with
    | closed => exact ⟨false, [], rfl, .done _⟩
    | unwritable written =>
        refine ⟨true, [], rfl, ?_⟩
        rw [if_pos rfl, written]
        exact .done _
    | exchanged reply written =>
        refine ⟨true, _, rfl, ?_⟩
        rw [if_pos rfl, written]
        exact yields_askExchange_iff.mpr ⟨reply, [], rfl, .done _⟩

/-! ## Operations -/

/-- What a thread can ask of a client. -/
inductive Operation where
  | nextId
  | makePayload (method params : Datum)
  | call (method params : Datum)
  | batch (calls : List (Datum × Datum))

namespace Operation

/-- What an operation does over the link of a client. -/
def task (client : Client) : Operation → Task Datum
  | nextId => do
    let id ← drawId
    return .int id
  | makePayload method params => do
    let request ← makeCall method params
    return request.toDatum
  | call method params => Rpc.call client method params
  | batch calls => do
    let results ← Rpc.batch client calls
    return .list results

/-- The result that an exchange brings to a call. -/
def callResult
    (request : Call)
    (outcome : Outcome (Datum × Nat)) : Outcome Datum :=
  outcome >>= fun (document, status) => resultOfDocument request status document

/-- The results that an exchange brings to a batch. -/
def batchResult
    (requests : List Call)
    (outcome : Outcome (Datum × Nat)) : Outcome Datum :=
  Datum.list <$> (outcome >>= fun (document, status) => resultsOfDocument requests status document)

/-- All that an operation can do: draw its identifiers and, if all of them were drawn, exchange
its request. -/
inductive Runs (client : Client) :
    Operation → List (Exchange interface) → Outcome Datum → Prop
  | nextId
      (id : Nat) :
      Runs client nextId [drew id] (.ok (.int id))
  | makePayload
      {method params : Datum}
      {trace : List (Exchange interface)}
      {made : Outcome Call} :
      MakesCall method params trace made →
      Runs client (makePayload method params) trace (made.map Call.toDatum)
  | callRefused
      {method params : Datum}
      {trace : List (Exchange interface)}
      {failure : Failure} :
      MakesCall method params trace (.error failure) →
      Runs client (call method params) trace (.error failure)
  | call
      {method params : Datum}
      {front behind : List (Exchange interface)}
      {request : Call}
      {outcome : Outcome (Datum × Nat)} :
      MakesCall method params front (.ok request) →
      Posts client ⟨method, some request.id⟩ request.toDatum behind outcome →
      Runs client (call method params) (front ++ behind) (callResult request outcome)
  | batchRefused
      {calls : List (Datum × Datum)}
      {trace : List (Exchange interface)}
      {failure : Failure} :
      MakesCalls calls trace (.error failure) →
      Runs client (batch calls) trace (.error failure)
  | batchEmpty
      {calls : List (Datum × Datum)}
      {trace : List (Exchange interface)} :
      MakesCalls calls trace (.ok []) →
      Runs client (batch calls) trace (.ok (.list []))
  | batch
      {calls : List (Datum × Datum)}
      {front behind : List (Exchange interface)}
      {first : Call}
      {requests : List Call}
      {outcome : Outcome (Datum × Nat)} :
      MakesCalls calls front (.ok (first :: requests)) →
      Posts client batchSubject (.list ((first :: requests).map Call.toDatum)) behind outcome →
      Runs client (batch calls) (front ++ behind) (batchResult (first :: requests) outcome)

theorem task_nextId (client : Client) :
    (nextId.task client).outcome = askId fun id => .done (.ok (.int id)) := rfl

theorem task_makePayload
    (client : Client)
    (method params : Datum) :
    ((makePayload method params).task client).outcome =
      (makeCall method params).outcome.bind fun made => .done (made.map Call.toDatum) := by
  unfold task
  rw [ChainClient.Task.outcome_bind]
  congr 1
  funext made
  cases made with
  | ok request => rfl
  | error failure => rfl

theorem task_call
    (client : Client)
    (method params : Datum) :
    ((call method params).task client).outcome =
      (makeCall method params).outcome.bind fun
        | .error failure => .done (.error failure)
        | .ok request =>
          (post client ⟨method, some request.id⟩ request.toDatum).outcome.bind fun outcome =>
            .done (callResult request outcome) := by
  unfold task Rpc.call
  rw [ChainClient.Task.outcome_bind]
  congr 1
  funext made
  cases made with
  | error failure => rfl
  | ok request =>
      change ChainClient.Task.outcome (_ >>= _) = _
      rw [ChainClient.Task.outcome_bind]
      congr 1
      funext outcome
      cases outcome with
      | ok found => rfl
      | error failure => rfl

theorem task_batch
    (client : Client)
    (calls : List (Datum × Datum)) :
    ((batch calls).task client).outcome =
      (makeCalls calls).outcome.bind fun
        | .error failure => .done (.error failure)
        | .ok [] => .done (.ok (.list []))
        | .ok (first :: requests) =>
          (post client batchSubject (.list ((first :: requests).map Call.toDatum))).outcome.bind
            fun outcome => .done (batchResult (first :: requests) outcome) := by
  unfold task Rpc.batch
  rw [ChainClient.Task.outcome_bind, ChainClient.Task.outcome_bind, Interaction.bind_assoc]
  congr 1
  funext made
  cases made with
  | error failure => rfl
  | ok requests =>
      cases requests with
      | nil => rfl
      | cons first requests =>
          change (ChainClient.Task.outcome (_ >>= _)).bind _ = _
          rw [ChainClient.Task.outcome_bind, Interaction.bind_assoc]
          congr 1
          funext outcome
          cases outcome with
          | error failure => rfl
          | ok found =>
              obtain ⟨document, status⟩ := found
              change ChainClient.Task.afterwards _ (resultsOfDocument _ status document) =
                .done (Datum.list <$> resultsOfDocument _ status document)
              cases resultsOfDocument (first :: requests) status document with
              | error failure => rfl
              | ok results => rfl

section

variable
    {client : Client}
    {method params : Datum}
    {calls : List (Datum × Datum)}
    {trace : List (Exchange interface)}
    {outcome : Outcome Datum}

theorem yields_nextId_iff :
    (nextId.task client).outcome.Yields trace outcome ↔ Runs client nextId trace outcome := by
  rw [task_nextId, yields_askId_iff]
  constructor
  · rintro ⟨id, rest, rfl, yields⟩
    obtain ⟨rfl, rfl⟩ := Interaction.yields_done_iff.mp yields
    exact .nextId id
  · intro runs
    cases runs with
    | nextId id => exact ⟨id, [], rfl, .done _⟩

theorem yields_makePayload_iff :
    ((makePayload method params).task client).outcome.Yields trace outcome ↔
      Runs client (makePayload method params) trace outcome := by
  rw [task_makePayload, Interaction.yields_bind_done_iff]
  constructor
  · rintro ⟨made, makes, rfl⟩
    exact .makePayload (yields_makeCall_iff.mp makes)
  · intro runs
    cases runs with
    | makePayload makes => exact ⟨_, yields_makeCall_iff.mpr makes, rfl⟩

theorem yields_call_iff :
    ((call method params).task client).outcome.Yields trace outcome ↔
      Runs client (call method params) trace outcome := by
  rw [task_call, Interaction.yields_bind_iff]
  constructor
  · rintro ⟨front, made, behind, rfl, makes, yields⟩
    have makes := yields_makeCall_iff.mp makes
    cases made with
    | error failure =>
        obtain ⟨rfl, rfl⟩ := Interaction.yields_done_iff.mp yields
        rw [List.append_nil]
        exact .callRefused makes
    | ok request =>
        obtain ⟨found, posts, rfl⟩ := Interaction.yields_bind_done_iff.mp yields
        exact .call makes (yields_post_iff.mp posts)
  · intro runs
    cases runs with
    | callRefused makes =>
        exact ⟨_, _, [], (List.append_nil _).symm, yields_makeCall_iff.mpr makes, .done _⟩
    | call makes posts =>
        refine ⟨_, _, _, rfl, yields_makeCall_iff.mpr makes, ?_⟩
        exact Interaction.yields_bind_done_iff.mpr ⟨_, yields_post_iff.mpr posts, rfl⟩

theorem yields_batch_iff :
    ((batch calls).task client).outcome.Yields trace outcome ↔
      Runs client (batch calls) trace outcome := by
  rw [task_batch, Interaction.yields_bind_iff]
  constructor
  · rintro ⟨front, made, behind, rfl, makes, yields⟩
    have makes := yields_makeCalls_iff.mp makes
    cases made with
    | error failure =>
        obtain ⟨rfl, rfl⟩ := Interaction.yields_done_iff.mp yields
        rw [List.append_nil]
        exact .batchRefused makes
    | ok requests =>
        cases requests with
        | nil =>
            obtain ⟨rfl, rfl⟩ := Interaction.yields_done_iff.mp yields
            rw [List.append_nil]
            exact .batchEmpty makes
        | cons first requests =>
            obtain ⟨found, posts, rfl⟩ := Interaction.yields_bind_done_iff.mp yields
            exact .batch makes (yields_post_iff.mp posts)
  · intro runs
    cases runs with
    | batchRefused makes =>
        exact ⟨_, _, [], (List.append_nil _).symm, yields_makeCalls_iff.mpr makes, .done _⟩
    | batchEmpty makes =>
        exact ⟨_, _, [], (List.append_nil _).symm, yields_makeCalls_iff.mpr makes, .done _⟩
    | batch makes posts =>
        refine ⟨_, _, _, rfl, yields_makeCalls_iff.mpr makes, ?_⟩
        exact Interaction.yields_bind_done_iff.mpr ⟨_, yields_post_iff.mpr posts, rfl⟩

/-- An operation does one of these things and no other. -/
theorem yields_task_iff
    {operation : Operation} :
    (operation.task client).outcome.Yields trace outcome ↔
      Runs client operation trace outcome := by
  cases operation with
  | nextId => exact yields_nextId_iff
  | makePayload method params => exact yields_makePayload_iff
  | call method params => exact yields_call_iff
  | batch calls => exact yields_batch_iff

end

/-! ## Results -/

/-- A document that was received can be shown. -/
theorem isShowable_of_received
    {subject : Subject}
    {reply : Except ExchangeFault Reply}
    {document : Datum}
    {status : Nat}
    (found : received subject reply = .ok (document, status)) :
    document.IsShowable := by
  cases reply with
  | error fault => cases found
  | ok reply =>
      obtain ⟨read, opened, same⟩ := map_eq_ok_iff.mp found
      cases same
      unfold readReply at opened
      split at opened
      · cases opened
      · next parsed =>
          split at opened
          · cases opened
          · cases opened
            exact Json.isShowable_of_parseBytes parsed

/-- The result of a call is a member of its document. -/
theorem exists_of_resultOfDocument
    {request : Call}
    {status : Nat}
    {document result : Datum}
    (found : resultOfDocument request status document = .ok result) :
    ∃ entries, document = .record entries ∧ Entries.get? "result" entries = some result := by
  unfold resultOfDocument at found
  split at found
  · next entries =>
      refine ⟨entries, rfl, ?_⟩
      unfold resultOf at found
      dsimp only at found
      split at found
      · obtain ⟨error, -, thrown⟩ := bind_eq_ok_iff.mp found
        cases thrown
      · split at found
        · cases found
        · split at found
          · next member =>
              cases found
              exact member
          · cases found
  · cases found

/-- Whatever a call brings can be shown. -/
theorem isShowable_of_yields_call
    {client : Client}
    {method params result : Datum}
    {trace : List (Exchange interface)}
    (yields : (Rpc.call client method params).outcome.Yields trace (.ok result)) :
    result.IsShowable := by
  have runs : Runs client (call method params) trace (.ok result) := yields_task_iff.mp yields
  generalize same : Except.ok result = outcome at runs
  cases runs with
  | callRefused makes => cases same
  | call makes posts =>
      obtain ⟨⟨document, status⟩, exchanged, found⟩ := bind_eq_ok_iff.mp same.symm
      obtain ⟨entries, rfl, member⟩ := exists_of_resultOfDocument found
      refine Datum.IsShowable.get? ?_ member
      subst exchanged
      generalize brought : Except.ok (Datum.record entries, status) = outcome at posts
      cases posts with
      | closed => cases brought
      | unwritable written => cases brought
      | exchanged reply written => exact isShowable_of_received brought.symm

end Operation

end Rpc
end ChainClient
