import ChainClient.Proofs.Rpc.Encodable
import ChainClient.Proofs.Rpc.RemoteErrors

/-!
# How a call ends

A call over an open link sends its request once. Whatever comes back, the call brings the result of
the reply, or fails as an exchange without a usable reply, or as the error of the node that the
reply carries. Three things are exceptions, and none of the library's failures: an exchange that
breaks off in a way of its own, a body that is no JSON and no text either, and an error whose code
is an infinite number.
-/

namespace ChainClient
namespace Rpc

open RemoteError (IsReadAs HasInfiniteCode)

/-! ## Records of replies -/

/-- The error member of a reply is a member of its record, and not null. -/
theorem errorOf?_eq_some_iff
    {document member : Datum} :
    errorOf? document = some member ↔
      ∃ entries, document = .record entries ∧
        Entries.get? "error" entries = some member ∧ member ≠ .null := by
  cases document with
  | record entries =>
      unfold errorOf?
      dsimp only
      cases found : Entries.get? "error" entries with
      | none => simp [found]
      | some error => cases error <;> simp +contextual [found, eq_comm]
  | null | bool _ | int _ | float _ | text _ | bytes _ | list _ => simp [errorOf?]

/-- The error member of what can be shown can be shown as well. -/
theorem isShowable_of_errorOf?
    {document member : Datum}
    (showable : document.IsShowable)
    (found : errorOf? document = some member) :
    member.IsShowable := by
  obtain ⟨_, rfl, found, -⟩ := errorOf?_eq_some_iff.mp found
  exact showable.get? found

/-- The record is for the request of that identifier. -/
def IsFor (id : Nat) (entries : Entries) : Prop :=
  (entries.getD "id").equals (.int id) = true

instance (id : Nat) : DecidablePred (IsFor id) :=
  fun _ => inferInstanceAs (Decidable (_ = true))

/-- The record answers the request of that identifier, without an error. -/
structure Answers (id : Nat) (entries : Entries) (result : Datum) : Prop where
  quiet : errorOf? (.record entries) = none
  isFor : IsFor id entries
  result : entries.get? "result" = some result

/-- The identifier that an error of the node names: that of its record, else the request's. -/
def answeredId (id : Nat) (entries : Entries) : Datum :=
  (entries.get? "id").getD (.int id)

/-- The failure of a request to which a record is no answer. -/
inductive FailsBy (request : Call) (status : Nat) (entries : Entries) : Failure → Prop
  | remote
      {member : Datum}
      {error : RemoteError} :
      errorOf? (.record entries) = some member →
      IsReadAs request.method (answeredId request.id entries) member error →
      FailsBy request status entries (.remote error)
  | infiniteCode
      {member : Datum} :
      errorOf? (.record entries) = some member →
      HasInfiniteCode member →
      FailsBy request status entries (.misuse .tooLarge)
  | foreign
      {shown : Text} :
      errorOf? (.record entries) = none →
      ¬ IsFor request.id entries →
      (entries.getD "id").quoted? = some shown →
      FailsBy request status entries (.transport ⟨Text.join ["response id ", shown,
        " does not match request id ", Decimal.ofNat request.id], request.method, .int request.id,
        .int status⟩)
  | noResult :
      errorOf? (.record entries) = none →
      IsFor request.id entries →
      entries.get? "result" = none →
      FailsBy request status entries (.transport ⟨"malformed JSON-RPC response (no result)",
        request.method, .int request.id, .int status⟩)

section

variable
    {request : Call}
    {status : Nat}
    {entries : Entries}

theorem resultOf_of_error
    {member : Datum}
    (found : errorOf? (.record entries) = some member) :
    resultOf request status entries =
      RemoteError.ofReply member request.method (answeredId request.id entries) >>= fun error =>
        .error (.remote error) := by
  unfold resultOf
  dsimp only
  rw [found]
  rfl

theorem resultOf_of_foreign
    (quiet : errorOf? (.record entries) = none)
    (foreign : ¬ IsFor request.id entries) :
    resultOf request status entries =
      .error (Subject.failure? ⟨request.method, some request.id⟩
        ((entries.getD "id").quoted?.map fun shown => Text.join ["response id ", shown,
          " does not match request id ", Decimal.ofNat request.id]) (some status)) := by
  unfold resultOf
  dsimp only
  rw [quiet]
  exact if_pos foreign

theorem resultOf_of_isFor
    (quiet : errorOf? (.record entries) = none)
    (isFor : IsFor request.id entries) :
    resultOf request status entries =
      match entries.get? "result" with
      | some result => .ok result
      | none => .error (Subject.failure ⟨request.method, some request.id⟩
          "malformed JSON-RPC response (no result)" (some status)) := by
  unfold resultOf
  dsimp only
  rw [quiet]
  exact if_neg (not_not_intro isFor)

/-- A record brings a result exactly if it answers the request. -/
theorem resultOf_eq_ok_iff
    {result : Datum} :
    resultOf request status entries = .ok result ↔ Answers request.id entries result := by
  constructor
  · intro found
    cases member : errorOf? (.record entries) with
    | some error =>
        rw [resultOf_of_error member] at found
        obtain ⟨_, -, thrown⟩ := bind_eq_ok_iff.mp found
        cases thrown
    | none =>
        by_cases isFor : IsFor request.id entries
        · rw [resultOf_of_isFor member isFor] at found
          split at found
          · next given =>
              cases found
              exact ⟨member, isFor, given⟩
          · cases found
        · rw [resultOf_of_foreign member isFor] at found
          cases found
  · intro answers
    rw [resultOf_of_isFor answers.quiet answers.isFor, answers.result]

/-- A record that can be shown fails in no other way than these. -/
theorem failsBy_of_resultOf
    {failure : Failure}
    (showable : (Datum.record entries).IsShowable)
    (fails : resultOf request status entries = .error failure) :
    FailsBy request status entries failure := by
  cases member : errorOf? (.record entries) with
  | some error =>
      rw [resultOf_of_error member] at fails
      have errorShowable := isShowable_of_errorOf? showable member
      rcases bind_eq_error_iff.mp fails with unread | ⟨_, read, thrown⟩
      · obtain ⟨rfl, infinite⟩ := (RemoteError.ofReply_eq_error_iff errorShowable).mp unread
        exact .infiniteCode member infinite
      · cases thrown
        exact .remote member (RemoteError.ofReply_eq_ok_iff.mp read)
  | none =>
      by_cases isFor : IsFor request.id entries
      · rw [resultOf_of_isFor member isFor] at fails
        split at fails
        · cases fails
        · next missing =>
            cases fails
            exact .noResult member isFor missing
      · rw [resultOf_of_foreign member isFor] at fails
        obtain ⟨shown, quoted⟩ := Option.isSome_iff_exists.mp (showable.getD "id")
        rw [quoted] at fails
        cases fails
        exact .foreign member isFor quoted

/-- Each of these ways to fail is one in which a record that can be shown does fail. -/
theorem FailsBy.resultOf_eq
    {failure : Failure}
    (showable : (Datum.record entries).IsShowable)
    (fails : FailsBy request status entries failure) :
    resultOf request status entries = .error failure := by
  cases fails with
  | remote member reads =>
      rw [resultOf_of_error member, RemoteError.ofReply_eq_ok_iff.mpr reads]
      rfl
  | infiniteCode member infinite =>
      have errorShowable := isShowable_of_errorOf? showable member
      rw [resultOf_of_error member,
        (RemoteError.ofReply_eq_error_iff errorShowable).mpr ⟨rfl, infinite⟩]
      rfl
  | foreign member isFor quoted =>
      rw [resultOf_of_foreign member isFor, quoted]
      rfl
  | noResult member isFor missing =>
      rw [resultOf_of_isFor member isFor, missing]
      rfl

/-- A record that can be shown fails in one of these ways and no other. -/
theorem resultOf_eq_error_iff
    {failure : Failure}
    (showable : (Datum.record entries).IsShowable) :
    resultOf request status entries = .error failure ↔
      FailsBy request status entries failure :=
  ⟨failsBy_of_resultOf showable, fun fails => fails.resultOf_eq showable⟩

end

/-! ## Replies -/

/-- The body of a reply is the document of a record whose error is not null. -/
def BringsError
    (reply : Except ExchangeFault Reply)
    (entries : Entries)
    (member : Datum) : Prop :=
  ∃ answer, reply = .ok answer ∧ Json.parseBytes? answer.body = some (.record entries) ∧
    entries.get? "error" = some member ∧ member ≠ .null

/-- The body of a reply without an error status is the document of a record that answers the
request of that identifier. -/
def BringsResult
    (reply : Except ExchangeFault Reply)
    (id : Nat)
    (result : Datum) : Prop :=
  ∃ answer entries, reply = .ok answer ∧ answer.status < 400 ∧
    Json.parseBytes? answer.body = some (.record entries) ∧ Answers id entries result

/-- Nobody expects what happens: an exchange breaks off by neither a timeout nor an error of the
network, or the body of the reply is no JSON and has no text in its charset. -/
inductive EndsUnexpectedly : Except ExchangeFault Reply → Misuse → Prop
  | exchange
      (misuse : Misuse) :
      EndsUnexpectedly (.error (.other misuse)) misuse
  | text
      {answer : Reply}
      {misuse : Misuse} :
      Json.parseBytes? answer.body = none →
      answer.text = .error misuse →
      EndsUnexpectedly (.ok answer) misuse

section

variable
    {subject : Subject}
    {reply : Except ExchangeFault Reply}

/-- A document is received in a reply without an error status, or with an error member. -/
theorem received_eq_ok_iff
    {document : Datum}
    {status : Nat} :
    received subject reply = .ok (document, status) ↔
      ∃ answer, reply = .ok answer ∧ answer.status = status ∧
        Json.parseBytes? answer.body = some document ∧
        (status < 400 ∨ (errorOf? document).isSome) := by
  cases reply with
  | error fault => simp [received]
  | ok answer =>
      simp only [Except.ok.injEq, exists_eq_left', received, readReply]
      cases Json.parseBytes? answer.body with
      | none => simp [Except.map]
      | some read =>
          dsimp only
          split
          · next refused =>
              simp only [Except.map, reduceCtorEq, Option.some.injEq, false_iff]
              rintro ⟨rfl, rfl, below | error⟩
              · exact absurd refused.1 (Nat.not_le.mpr below)
              · rw [Option.isNone_iff_eq_none.mp refused.2] at error
                cases error
          · next taken =>
              simp only [Except.map, Except.ok.injEq, Prod.mk.injEq, Option.some.injEq]
              constructor
              · rintro ⟨rfl, rfl⟩
                refine ⟨rfl, rfl, ?_⟩
                by_contra! refused
                exact taken ⟨refused.1, by simpa using refused.2⟩
              · rintro ⟨rfl, rfl, -⟩
                exact ⟨rfl, rfl⟩

/-- Where no document is received, the exchange has failed, or something unexpected happened. -/
theorem failsOnlyWith_received :
    FailsOnlyWith
      (fun failure => (∃ error, failure = .transport error) ∨
        ∃ misuse, failure = .misuse misuse ∧ EndsUnexpectedly reply misuse)
      (received subject reply) := by
  cases reply with
  | error fault =>
      cases fault with
      | timeout _ | network _ => exact .error (.inl ⟨_, rfl⟩)
      | other misuse => exact .error (.inr ⟨misuse, rfl, .exchange misuse⟩)
  | ok answer =>
      refine FailsOnlyWith.map ?_
      unfold readReply
      split
      · next unparsed =>
          cases read : answer.text with
          | ok body =>
              rw [Subject.notJson, read]
              exact .error (.inl ⟨_, rfl⟩)
          | error misuse =>
              rw [Subject.notJson, read]
              exact .error (.inr ⟨misuse, rfl, .text unparsed read⟩)
      · split
        · exact .error (.inl ⟨_, rfl⟩)
        · exact .ok _

/-- What nobody expects goes to the caller as it is. -/
theorem EndsUnexpectedly.received_eq
    {misuse : Misuse}
    (ends : EndsUnexpectedly reply misuse) :
    received subject reply = .error (.misuse misuse) := by
  cases ends with
  | exchange _ => rfl
  | text unparsed read =>
      rw [received, readReply, unparsed]
      dsimp only
      rw [Subject.notJson, read]
      rfl

/-- The reply to a request that was sent over an open link decides what comes of it. -/
theorem Posts.of_open
    {client : Client}
    {payload : Datum}
    {trace : List (Exchange interface)}
    {outcome : Outcome (Datum × Nat)}
    (posts : Posts client subject payload trace outcome)
    (neverClosed : foundOpen false ∉ trace) :
    ∃ tail, trace = foundOpen true :: tail ∧
      (payload.IsEncodable → ∃ request reply, tail = [Rpc.exchanged request reply]) ∧
      ∀ request reply, tail = [Rpc.exchanged request reply] → outcome = received subject reply := by
  cases posts with
  | closed => exact absurd List.mem_cons_self neverClosed
  | unwritable fails =>
      refine ⟨[], rfl, ?_, fun _ _ sent => nomatch sent⟩
      intro encodable
      obtain ⟨body, written⟩ := isEncodable_iff.mp encodable
      rw [fails] at written
      cases written
  | exchanged reply written =>
      refine ⟨_, rfl, fun _ => ⟨_, _, rfl⟩, ?_⟩
      intro request other sent
      cases sent
      rfl

theorem foundOpen_false_not_mem
    (drawn : List Nat)
    (request : Request) :
    foundOpen false ∉ drawn.map drew ++ [foundOpen true, exchanged request reply] := by
  simp only [List.mem_append, List.mem_cons, List.not_mem_nil, or_false]
  rintro (drawn | same | same)
  · exact Operation.foundOpen_not_mem_map_drew false _ drawn
  · cases same
  · cases same

end

/-! ## Calls -/

namespace Operation

section

variable
    {request : Call}
    {subject : Subject}
    {reply : Except ExchangeFault Reply}

/-- Only a record can hold what a call asks for. -/
theorem resultOfDocument_of_ne_record
    {status : Nat}
    {document : Datum}
    (notRecord : ∀ entries, document ≠ .record entries) :
    ∃ error, resultOfDocument request status document = .error (.transport error) := by
  unfold resultOfDocument
  split
  · exact absurd rfl (notRecord _)
  · exact ⟨_, rfl⟩

/-- A call fails without a usable reply, or by something unexpected, or as the record of the reply
makes it fail. -/
theorem callResult_eq_error
    {failure : Failure}
    (fails : callResult request (received subject reply) = .error failure) :
    (∃ error, failure = .transport error) ∨
      (∃ misuse, failure = .misuse misuse ∧ EndsUnexpectedly reply misuse) ∨
      ∃ answer entries, reply = .ok answer ∧
        Json.parseBytes? answer.body = some (.record entries) ∧
        FailsBy request answer.status entries failure := by
  rcases bind_eq_error_iff.mp fails with unread | ⟨⟨document, status⟩, found, fails⟩
  · exact (failsOnlyWith_received _ unread).imp_right .inl
  · obtain ⟨answer, rfl, rfl, parsed, -⟩ := received_eq_ok_iff.mp found
    by_cases record : ∃ entries, document = .record entries
    · obtain ⟨entries, rfl⟩ := record
      have showable := Json.isShowable_of_parseBytes parsed
      exact .inr (.inr ⟨answer, entries, rfl, parsed, (resultOf_eq_error_iff showable).mp fails⟩)
    · obtain ⟨error, transport⟩ : ∃ error,
          resultOfDocument request answer.status document = .error (.transport error) :=
        resultOfDocument_of_ne_record (not_exists.mp record)
      dsimp only at fails
      rw [transport] at fails
      cases fails
      exact .inl ⟨error, rfl⟩

/-- The record of a reply that is read makes the call fail. -/
theorem callResult_of_failsBy
    {answer : Reply}
    {entries : Entries}
    {failure : Failure}
    (parsed : Json.parseBytes? answer.body = some (.record entries))
    (taken : answer.status < 400 ∨ (errorOf? (.record entries)).isSome)
    (fails : FailsBy request answer.status entries failure) :
    callResult request (received subject (.ok answer)) = .error failure := by
  have found : received subject (.ok answer) = .ok (.record entries, answer.status) :=
    received_eq_ok_iff.mpr ⟨answer, rfl, rfl, parsed, taken⟩
  rw [callResult, found]
  exact (resultOf_eq_error_iff (Json.isShowable_of_parseBytes parsed)).mpr fails

theorem bringsError_iff
    {entries : Entries}
    {member : Datum} :
    BringsError reply entries member ↔
      ∃ answer, reply = .ok answer ∧ Json.parseBytes? answer.body = some (.record entries) ∧
        errorOf? (.record entries) = some member := by
  have same : errorOf? (.record entries) = some member ↔
      entries.get? "error" = some member ∧ member ≠ .null := by
    simp [errorOf?_eq_some_iff]
  simp only [BringsError, same]

/-- A call brings a result exactly if the reply does. -/
theorem callResult_eq_ok_iff
    {result : Datum} :
    callResult request (received subject reply) = .ok result ↔
      BringsResult reply request.id result := by
  constructor
  · intro found
    obtain ⟨⟨document, status⟩, received, found⟩ := bind_eq_ok_iff.mp found
    obtain ⟨answer, rfl, rfl, parsed, taken⟩ := received_eq_ok_iff.mp received
    obtain ⟨entries, rfl, -⟩ := exists_of_resultOfDocument found
    have answers := resultOf_eq_ok_iff.mp found
    refine ⟨answer, entries, rfl, ?_, parsed, answers⟩
    rw [answers.quiet] at taken
    exact taken.resolve_right Bool.noConfusion
  · rintro ⟨answer, entries, rfl, below, parsed, answers⟩
    have found : received subject (.ok answer) = .ok (.record entries, answer.status) :=
      received_eq_ok_iff.mpr ⟨answer, rfl, rfl, parsed, .inl below⟩
    rw [callResult, found]
    exact resultOf_eq_ok_iff.mpr answers

/-- A call fails as an error of the node exactly if the reply brings one that can be read. -/
theorem callResult_eq_remote_iff
    {error : RemoteError} :
    callResult request (received subject reply) = .error (.remote error) ↔
      ∃ entries member, BringsError reply entries member ∧
        IsReadAs request.method (answeredId request.id entries) member error := by
  simp only [bringsError_iff]
  constructor
  · intro fails
    rcases callResult_eq_error fails with
      ⟨_, other⟩ | ⟨_, other, -⟩ | ⟨answer, entries, same, parsed, fails⟩
    · cases other
    · cases other
    · cases fails with
      | remote found reads => exact ⟨entries, _, ⟨answer, same, parsed, found⟩, reads⟩
  · rintro ⟨entries, member, ⟨answer, rfl, parsed, found⟩, reads⟩
    exact callResult_of_failsBy parsed (.inr (by rw [found]; rfl)) (.remote found reads)

/-- A call fails by a misuse exactly if something unexpected happens, or the reply brings an error
with an infinite code. -/
theorem callResult_eq_misuse_iff
    {misuse : Misuse} :
    callResult request (received subject reply) = .error (.misuse misuse) ↔
      EndsUnexpectedly reply misuse ∨
        misuse = .tooLarge ∧
          ∃ entries member, BringsError reply entries member ∧ HasInfiniteCode member := by
  simp only [bringsError_iff]
  constructor
  · intro fails
    rcases callResult_eq_error fails with
      ⟨_, other⟩ | ⟨_, same, ends⟩ | ⟨answer, entries, same, parsed, fails⟩
    · cases other
    · cases same
      exact .inl ends
    · cases fails with
      | infiniteCode found infinite =>
          exact .inr ⟨rfl, entries, _, ⟨answer, same, parsed, found⟩, infinite⟩
  · rintro (ends | ⟨rfl, entries, member, ⟨answer, rfl, parsed, found⟩, infinite⟩)
    · rw [callResult, ends.received_eq]
      rfl
    · exact callResult_of_failsBy parsed (.inr (by rw [found]; rfl)) (.infiniteCode found infinite)

/-- The failures of a call over an open link are of three kinds. -/
theorem callResult_kind
    {failure : Failure}
    (fails : callResult request (received subject reply) = .error failure) :
    (∃ error, failure = .transport error) ∨ (∃ error, failure = .remote error) ∨
      ∃ misuse, failure = .misuse misuse := by
  rcases callResult_eq_error fails with transport | ⟨misuse, rfl, -⟩ | ⟨_, _, _, _, fails⟩
  · exact .inl transport
  · exact .inr (.inr ⟨misuse, rfl⟩)
  · cases fails with
    | remote _ _ => exact .inr (.inl ⟨_, rfl⟩)
    | infiniteCode _ _ => exact .inr (.inr ⟨_, rfl⟩)
    | foreign _ _ _ => exact .inl ⟨_, rfl⟩
    | noResult _ _ _ => exact .inl ⟨_, rfl⟩

/-- An error that the reply brings is read unless its code is an infinite number. -/
theorem exists_callResult_eq_remote_iff :
    (∃ error, callResult request (received subject reply) = .error (.remote error)) ↔
      ∃ entries member, BringsError reply entries member ∧ ¬ HasInfiniteCode member := by
  simp only [callResult_eq_remote_iff]
  have readable : ∀ entries member, BringsError reply entries member →
      ((∃ error, IsReadAs request.method (answeredId request.id entries) member error) ↔
        ¬ HasInfiniteCode member) := by
    rintro entries member ⟨answer, rfl, parsed, found, -⟩
    exact RemoteError.exists_isReadAs_iff ((Json.isShowable_of_parseBytes parsed).get? found)
  constructor
  · rintro ⟨error, entries, member, brings, reads⟩
    exact ⟨entries, member, brings, (readable entries member brings).mp ⟨error, reads⟩⟩
  · rintro ⟨entries, member, brings, finite⟩
    obtain ⟨error, reads⟩ := (readable entries member brings).mpr finite
    exact ⟨error, entries, member, brings, reads⟩

/-- What a call does over a link that it does not find closed. -/
theorem exists_of_yields_call
    {client : Client}
    {method params : Datum}
    {trace : List (Exchange interface)}
    {outcome : Outcome Datum}
    (taken : IsPositional (method, params))
    (yields : (Rpc.call client method params).outcome.Yields trace outcome)
    (neverClosed : foundOpen false ∉ trace) :
    ∃ request tail, Asks (method, params) request ∧
      trace = drew request.id :: foundOpen true :: tail ∧
      (request.toDatum.IsEncodable → ∃ sent reply, tail = [exchanged sent reply]) ∧
      ∀ sent reply, tail = [exchanged sent reply] →
        outcome = callResult request (received ⟨method, some request.id⟩ reply) := by
  have runs : Runs client (.call method params) trace outcome := yields_task_iff.mp yields
  cases runs with
  | callRefused makes =>
      obtain ⟨_, _, -, -, refused⟩ := makes.makesCalls.refused
      exact absurd (List.forall_mem_singleton.mpr taken) refused.not_forall
  | call makes posts =>
      cases makes with
      | @made items id given =>
          have opened := List.not_mem_of_not_mem_cons neverClosed
          obtain ⟨tail, rfl, sends, receives⟩ := posts.of_open opened
          refine ⟨⟨method, items, id⟩, tail, ⟨rfl, given⟩, rfl, sends, ?_⟩
          intro sent reply same
          rw [receives sent reply same]

end

end Operation

open Operation

/-- A call over an open link draws one identifier and sends its request once. What the reply brings
decides how the call ends: with the result, as a failed exchange, or as the node's error. It ends in
no other way, unless the exchange breaks off by neither a timeout nor an error of the network, the
body is no JSON and has no text, or the code of the node's error is an infinite number. -/
theorem call_outcome
    {client : Client}
    {method params : Datum}
    {trace : List (Exchange interface)}
    {outcome : Outcome Datum}
    (taken : IsPositional (method, params))
    (encodable : IsEncodable (method, params))
    (yields : (call client method params).outcome.Yields trace outcome)
    (neverClosed : foundOpen false ∉ trace) :
    ∃ id tail, trace = drew id :: foundOpen true :: tail ∧
      (Decimal.IsWritable id → ∃ sent reply, tail = [exchanged sent reply]) ∧
      ∀ sent reply, tail = [exchanged sent reply] →
        ((∃ result, outcome = .ok result) ∨ (∃ error, outcome = .error (.transport error)) ∨
          (∃ error, outcome = .error (.remote error)) ∨
          ∃ misuse, outcome = .error (.misuse misuse)) ∧
        (∀ result, outcome = .ok result ↔ BringsResult reply id result) ∧
        (∀ error, outcome = .error (.remote error) ↔
          ∃ entries member, BringsError reply entries member ∧
            IsReadAs method (answeredId id entries) member error) ∧
        ((∃ error, outcome = .error (.remote error)) ↔
          ∃ entries member, BringsError reply entries member ∧ ¬ HasInfiniteCode member) ∧
        (∀ misuse, outcome = .error (.misuse misuse) ↔
          EndsUnexpectedly reply misuse ∨
            misuse = .tooLarge ∧
              ∃ entries member, BringsError reply entries member ∧ HasInfiniteCode member) := by
  obtain ⟨request, tail, asks, rfl, sends, receives⟩ :=
    exists_of_yields_call taken yields neverClosed
  refine ⟨request.id, tail, rfl, fun writable => sends (asks.isEncodable encodable writable), ?_⟩
  intro sent reply same
  obtain rfl := receives sent reply same
  have sameMethod : request.method = method := asks.method
  refine ⟨?_, fun _ => callResult_eq_ok_iff, ?_, exists_callResult_eq_remote_iff,
    fun _ => callResult_eq_misuse_iff⟩
  · cases ends : callResult request (received ⟨method, some request.id⟩ reply) with
    | ok result => exact .inl ⟨result, rfl⟩
    | error failure =>
        rcases callResult_kind ends with ⟨error, rfl⟩ | ⟨error, rfl⟩ | ⟨misuse, rfl⟩
        · exact .inr (.inl ⟨error, rfl⟩)
        · exact .inr (.inr (.inl ⟨error, rfl⟩))
        · exact .inr (.inr (.inr ⟨misuse, rfl⟩))
  · intro error
    rw [callResult_eq_remote_iff, sameMethod]

/-! ## Replies of a node -/

/-- The bytes of a body in UTF-8. -/
def utf8Body (body : String) : Bytes :=
  (Text.ofString body).flatMap Utf8.encodePoint

/-- A client of a node on the same machine. -/
def localClient : Client :=
  ⟨.text "http://127.0.0.1:1337", .int 30, []⟩

/-- The first request of a client that asks for the height of the chain. -/
def heightRequest : Request :=
  localClient.request
    "\x7b\"jsonrpc\":\"2.0\",\"method\":\"blockNumber\",\"params\":[],\"id\":1\x7d"

theorem isEncodable_height :
    IsEncodable (.text "blockNumber", .null) :=
  ⟨⟨_, rfl, by decide⟩, ⟨_, rfl, by decide⟩⟩

/-- To ask for the height is to send this request. -/
theorem yields_height (reply : Except ExchangeFault Reply) :
    (call localClient (.text "blockNumber") .null).outcome.Yields
      [drew 1, foundOpen true, exchanged heightRequest reply]
      (callResult ⟨.text "blockNumber", [], 1⟩ (received ⟨.text "blockNumber", some 1⟩ reply)) := by
  have written : bodyOf (Call.toDatum ⟨.text "blockNumber", [], 1⟩) = .ok heightRequest.body := by
    decide +kernel
  exact yields_call_iff.mpr (.call (.made 1 rfl) (.exchanged reply written))

/-- An error object with its code as text, and null for a message. -/
def unknownMethod : Datum :=
  .record [("code", .text " -32601"), ("message", .null)]

/-- The reply of a node that knows no heights. -/
def unknownMethodReply : Reply where
  status := 500
  body := utf8Body
    "\x7b\"id\":null,\"error\":\x7b\"code\":\" -32601\",\"message\":null\x7d\x7d"

/-- The code is read from the text, and the message is the text of null. -/
theorem call_outcome_unknownMethod :
    IsPositional (.text "blockNumber", .null) ∧ IsEncodable (.text "blockNumber", .null) ∧
      (call localClient (.text "blockNumber") .null).outcome.Yields
        [drew 1, foundOpen true, exchanged heightRequest (.ok unknownMethodReply)]
        (.error (.remote ⟨-32601, "None", .null, .text "blockNumber", .null⟩)) := by
  have taken : IsPositional (.text "blockNumber", .null) := .inl rfl
  have yields := yields_height (.ok unknownMethodReply)
  obtain ⟨id, tail, same, -, ends⟩ :=
    call_outcome taken isEncodable_height yields (foundOpen_false_not_mem [1] _)
  cases same
  let entries : Entries := [("id", .null), ("error", unknownMethod)]
  have parsed : Json.parseBytes? unknownMethodReply.body = some (.record entries) := by
    cbv
  have brings : BringsError (.ok unknownMethodReply) entries unknownMethod :=
    ⟨unknownMethodReply, rfl, parsed, rfl, Datum.noConfusion⟩
  have code : (Datum.text " -32601").toInt = .ok (-32601) := by
    cbv
  have reads : IsReadAs (.text "blockNumber") (answeredId 1 entries) unknownMethod
      ⟨-32601, "None", .null, .text "blockNumber", .null⟩ :=
    .record (.given code) (.given rfl)
  obtain ⟨-, -, remote, -⟩ := ends _ _ rfl
  rw [(remote _).mpr ⟨entries, unknownMethod, brings, reads⟩] at yields
  exact ⟨taken, isEncodable_height, yields⟩

/-- The reply of a node whose error has an infinite number for its code. -/
def infiniteCodeReply : Reply where
  status := 200
  body := utf8Body
    "\x7b\"error\":\x7b\"code\":Infinity,\"message\":\"boom\"\x7d,\"id\":1\x7d"

/-- Not every reply that a call gets brings a result or one of the library's failures. -/
theorem not_call_ok_or_transport_or_remote :
    ¬ ∀ (client : Client) (method params : Datum) (trace : List (Exchange interface))
      (outcome : Outcome Datum),
      IsPositional (method, params) → IsEncodable (method, params) →
      (call client method params).outcome.Yields trace outcome → foundOpen false ∉ trace →
      (∃ result, outcome = .ok result) ∨ (∃ error, outcome = .error (.transport error)) ∨
        ∃ error, outcome = .error (.remote error) := by
  intro closed
  have parsed : Json.parseBytes? infiniteCodeReply.body = some (.record [("error", .record
      [("code", .float (.infinite false)), ("message", .text "boom")]), ("id", .int 1)]) := by
    cbv
  have ends : callResult ⟨.text "blockNumber", [], 1⟩
      (received ⟨.text "blockNumber", some 1⟩ (.ok infiniteCodeReply)) =
      .error (.misuse .tooLarge) := by
    refine callResult_eq_misuse_iff.mpr
      (.inr ⟨rfl, _, _, ⟨_, rfl, parsed, rfl, Datum.noConfusion⟩, ?_⟩)
    exact ⟨_, false, rfl, rfl⟩
  have yields := yields_height (.ok infiniteCodeReply)
  rw [ends] at yields
  rcases closed _ _ _ _ _ (.inl rfl) isEncodable_height yields (foundOpen_false_not_mem [1] _)
    with ⟨_, same⟩ | ⟨_, same⟩ | ⟨_, same⟩
  · cases same
  · cases same
  · cases same

end Rpc
end ChainClient
