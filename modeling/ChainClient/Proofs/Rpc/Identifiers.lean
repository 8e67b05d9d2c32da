import ChainClient.Proofs.Rpc.Bodies
import ChainClient.Proofs.Rpc.Operations

/-!
# Identifiers and requests of an operation

An operation draws one identifier for each of its calls, up to the first one whose parameters are
refused. Only then does it look at the link and send its request, which carries the identifiers in
the order of the calls.
-/

namespace ChainClient
namespace Rpc

/-! ## Identifiers and requests along a trace -/

/-- The identifier that was drawn in an exchange, if there is one. -/
def idOf? : Exchange interface → Option Nat
  | ⟨Question.drawId, id⟩ => some id
  | ⟨Question.isOpen, _⟩ => none
  | ⟨Question.exchange _, _⟩ => none
  | ⟨Question.close, _⟩ => none

/-- The request that was sent in an exchange, if there is one. -/
def requestOf? : Exchange interface → Option Request
  | ⟨Question.drawId, _⟩ => none
  | ⟨Question.isOpen, _⟩ => none
  | ⟨Question.exchange request, _⟩ => some request
  | ⟨Question.close, _⟩ => none

/-- The identifiers that were drawn along a trace. -/
def ids (trace : List (Exchange interface)) : List Nat :=
  trace.filterMap idOf?

/-- The requests that were sent along a trace. -/
def requests (trace : List (Exchange interface)) : List Request :=
  trace.filterMap requestOf?

/-- Only an exchange sends a request. -/
theorem exists_reply
    {exchange : Exchange interface}
    {request : Request}
    (sends : requestOf? exchange = some request) :
    ∃ reply, exchange = exchanged request reply := by
  unfold requestOf? at sends
  split at sends
  · cases sends
  · cases sends
  · next reply =>
      cases sends
      exact ⟨reply, rfl⟩
  · cases sends

@[simp] theorem ids_append (front behind : List (Exchange interface)) :
    ids (front ++ behind) = ids front ++ ids behind :=
  List.filterMap_append

@[simp] theorem requests_append (front behind : List (Exchange interface)) :
    requests (front ++ behind) = requests front ++ requests behind :=
  List.filterMap_append

@[simp] theorem ids_map_drew (drawn : List Nat) :
    ids (drawn.map drew) = drawn := by
  rw [ids, List.filterMap_map]
  exact List.filterMap_some

@[simp] theorem requests_map_drew (drawn : List Nat) :
    requests (drawn.map drew) = [] := by
  rw [requests, List.filterMap_map, List.filterMap_eq_nil_iff]
  intro id _
  rfl

/-! ## Drawing -/

/-- The parameters of a call are none, or an ordered sequence. -/
def IsPositional (call : Datum × Datum) : Prop :=
  call.2 = .null ∨ ∃ items, call.2 = .list items

/-- These are the parameters that a client takes. -/
theorem isPositional_iff
    {call : Datum × Datum} :
    IsPositional call ↔ ∃ items, positional call.2 = .ok items := by
  constructor
  · rintro (absent | ⟨items, given⟩)
    · exact ⟨[], by rw [absent]; rfl⟩
    · exact ⟨items, by rw [given]; rfl⟩
  · rintro ⟨items, taken⟩
    unfold positional at taken
    split at taken
    · next absent => exact .inl absent
    · next given => exact .inr ⟨_, given⟩
    · cases taken

/-- A request is the one that a call asks for. -/
structure Asks (call : Datum × Datum) (request : Call) : Prop where
  method : request.method = call.1
  params : positional call.2 = .ok request.params

/-- Requests that were made belong to the calls, one to one, and each drew its identifier. -/
theorem MakesCalls.made_iff
    {calls : List (Datum × Datum)}
    {trace : List (Exchange interface)}
    {made : List Call}
    (makes : MakesCalls calls trace (.ok made)) :
    List.Forall₂ Asks calls made ∧ trace = (made.map Call.id).map drew := by
  generalize same : Except.ok made = outcome at makes
  induction makes generalizing made with
  | nil =>
      cases same
      exact ⟨.nil, rfl⟩
  | malformed given => cases same
  | failed id given makes inductionHypothesis => cases same
  | made id given makes inductionHypothesis =>
      cases same
      obtain ⟨asks, drawn⟩ := inductionHypothesis rfl
      exact ⟨.cons ⟨rfl, given⟩ asks, by rw [drawn]; rfl⟩

/-- The first call whose parameters are refused has so many others before it. -/
inductive RefusedBehind (misuse : Misuse) : (count : Nat) → List (Datum × Datum) → Prop
  | first
      {method params : Datum}
      {calls : List (Datum × Datum)} :
      positional params = .error misuse →
      RefusedBehind misuse 0 ((method, params) :: calls)
  | later
      {count : Nat}
      {call : Datum × Datum}
      {calls : List (Datum × Datum)} :
      IsPositional call →
      RefusedBehind misuse count calls →
      RefusedBehind misuse (count + 1) (call :: calls)

/-- Parameters that are refused are no sequence. -/
theorem not_isPositional
    {call : Datum × Datum}
    {misuse : Misuse}
    (refused : positional call.2 = .error misuse) :
    ¬ IsPositional call := by
  intro taken
  obtain ⟨items, given⟩ := isPositional_iff.mp taken
  rw [refused] at given
  cases given

/-- There is one first call whose parameters are refused. -/
theorem RefusedBehind.unique
    {misuse other : Misuse}
    {count place : Nat}
    {calls : List (Datum × Datum)}
    (refused : RefusedBehind misuse count calls)
    (same : RefusedBehind other place calls) :
    place = count ∧ other = misuse := by
  induction refused generalizing place with
  | first refused =>
      cases same with
      | first again => exact ⟨rfl, Except.error.inj (again.symm.trans refused)⟩
      | later taken _ => exact absurd taken (not_isPositional refused)
  | later taken refused inductionHypothesis =>
      cases same with
      | first again => exact absurd taken (not_isPositional again)
      | later _ again =>
          obtain ⟨rfl, rfl⟩ := inductionHypothesis again
          exact ⟨rfl, rfl⟩

/-- Some call is refused unless all have positional parameters. -/
theorem RefusedBehind.not_forall
    {misuse : Misuse}
    {count : Nat}
    {calls : List (Datum × Datum)}
    (refused : RefusedBehind misuse count calls) :
    ¬ ∀ call ∈ calls, IsPositional call := by
  induction refused with
  | first refused => exact fun all => not_isPositional refused (all _ List.mem_cons_self)
  | later _ _ inductionHypothesis =>
      exact fun all => inductionHypothesis (List.forall_mem_cons.mp all).2

theorem RefusedBehind.lt_length
    {misuse : Misuse}
    {count : Nat}
    {calls : List (Datum × Datum)}
    (refused : RefusedBehind misuse count calls) :
    count < calls.length := by
  induction refused with
  | first _ => exact Nat.succ_pos _
  | later _ _ inductionHypothesis => exact Nat.succ_lt_succ inductionHypothesis

/-- Where the parameters of a call are no sequence and those of all calls before it are one, the
call is the first that is refused. -/
theorem exists_refusedBehind
    {calls : List (Datum × Datum)}
    {count : Nat}
    {call : Datum × Datum}
    (earlier : ∀ call ∈ calls.take count, IsPositional call)
    (found : calls[count]? = some call)
    (malformed : ¬ IsPositional call) :
    ∃ misuse, positional call.2 = .error misuse ∧ RefusedBehind misuse count calls := by
  induction calls generalizing count with
  | nil => cases found
  | cons first calls inductionHypothesis =>
      cases count with
      | zero =>
          obtain rfl : first = call := Option.some.inj found
          cases given : positional first.2 with
          | error misuse => exact ⟨misuse, rfl, .first given⟩
          | ok items => exact absurd (isPositional_iff.mpr ⟨items, given⟩) malformed
      | succ count =>
          rw [List.take_succ_cons, List.forall_mem_cons] at earlier
          obtain ⟨misuse, given, refused⟩ := inductionHypothesis earlier.2 found
          exact ⟨misuse, given, .later earlier.1 refused⟩

/-- Requests that were not made draw identifiers up to the first call that is refused. -/
theorem MakesCalls.refused
    {calls : List (Datum × Datum)}
    {trace : List (Exchange interface)}
    {failure : Failure}
    (makes : MakesCalls calls trace (.error failure)) :
    ∃ drawn : List Nat, ∃ misuse, trace = drawn.map drew ∧ failure = .misuse misuse ∧
      RefusedBehind misuse drawn.length calls := by
  generalize same : Except.error failure = outcome at makes
  induction makes with
  | nil => cases same
  | malformed given =>
      cases same
      exact ⟨[], _, rfl, rfl, .first given⟩
  | failed id given makes inductionHypothesis =>
      cases same
      obtain ⟨drawn, misuse, rfl, rfl, refused⟩ := inductionHypothesis rfl
      exact ⟨id :: drawn, misuse, rfl, rfl, .later (isPositional_iff.mpr ⟨_, given⟩) refused⟩
  | made id given makes inductionHypothesis => cases same

/-- A single call is a batch of one. -/
theorem MakesCall.makesCalls
    {method params : Datum}
    {trace : List (Exchange interface)}
    {made : Outcome Call}
    (makes : MakesCall method params trace made) :
    MakesCalls [(method, params)] trace (made.map ([·])) := by
  cases makes with
  | malformed given => exact .malformed given
  | made id given => exact .made id given .nil

namespace Operation

/-! ## Complete runs -/

/-- The calls that an operation makes requests for. -/
def calls : Operation → List (Datum × Datum)
  | nextId => []
  | makePayload method params => [(method, params)]
  | call method params => [(method, params)]
  | batch calls => calls

/-- The operation is for an exchange, not for an identifier or a request alone. -/
def exchanges : Operation → Bool
  | nextId => false
  | makePayload _ _ => false
  | call _ _ => true
  | batch _ => true

/-- What an operation sends for the requests that it made: a call its one request, a batch the
list of them. -/
inductive Sends : Operation → List Call → Datum → Prop
  | call
      {method params : Datum}
      {request : Call} :
      Sends (call method params) [request] request.toDatum
  | batch
      {calls : List (Datum × Datum)}
      {made : List Call} :
      Sends (batch calls) made (.list (made.map Call.toDatum))

/-- The body that an operation makes of documents: a call sends its one document, a batch the list
of them. -/
inductive Wraps : Operation → List Text → Text → Prop
  | call
      {method params : Datum}
      {document : Text} :
      Wraps (call method params) [document] document
  | batch
      {calls : List (Datum × Datum)}
      {documents : List Text} :
      Wraps (batch calls) documents (bracketed documents)

theorem Sends.exists_wraps
    {operation : Operation}
    {made : List Call}
    {payload : Datum}
    {body : Text}
    (sends : Sends operation made payload)
    (written : bodyOf payload = .ok body) :
    ∃ documents, List.Forall₂ Writes made documents ∧ Wraps operation documents body := by
  have written := write_of_bodyOf written
  cases sends with
  | call => exact ⟨[body], .cons (writes_of_write written) .nil, .call⟩
  | batch =>
      obtain ⟨documents, writes, rfl⟩ := exists_documents written
      exact ⟨documents, writes, .batch⟩

/-- A request over the link carries these identifiers: its body is made of the documents of the
requests that the operation's calls ask for, in their order, and these have the identifiers. -/
def Carries
    (client : Client)
    (operation : Operation)
    (drawn : List Nat)
    (request : Request) : Prop :=
  ∃ made documents, List.Forall₂ Asks operation.calls made ∧ made.map Call.id = drawn ∧
    List.Forall₂ Writes made documents ∧ Wraps operation documents request.body ∧
    request = client.request request.body

/-- The request of an operation with these identifiers has no text. -/
def IsUnwritable
    (operation : Operation)
    (drawn : List Nat)
    (misuse : Misuse) : Prop :=
  ∃ made payload, List.Forall₂ Asks operation.calls made ∧ made.map Call.id = drawn ∧
    Sends operation made payload ∧ bodyOf payload = .error misuse

/-- What an operation without an exchange hands out: an identifier, or a request with it. -/
inductive HandsOut : Operation → List Nat → Outcome Datum → Prop
  | nextId
      (id : Nat) :
      HandsOut nextId [id] (.ok (.int id))
  | makePayload
      {method params : Datum}
      {request : Call} :
      Asks (method, params) request →
      HandsOut (makePayload method params) [request.id] (.ok request.toDatum)

/-- A complete run: the identifiers that it drew, what followed them, and how it ended. -/
inductive Completes (client : Client) (operation : Operation) :
    List Nat → List (Exchange interface) → Outcome Datum → Prop
  | refused
      {drawn : List Nat}
      {misuse : Misuse} :
      RefusedBehind misuse drawn.length operation.calls →
      Completes client operation drawn [] (.error (.misuse misuse))
  | handsOut
      {drawn : List Nat}
      {outcome : Outcome Datum} :
      HandsOut operation drawn outcome →
      Completes client operation drawn [] outcome
  | empty :
      operation = batch [] →
      Completes client operation [] [] (.ok (.list []))
  | posts
      {made : List Call}
      {payload : Datum}
      {subject : Subject}
      {tail : List (Exchange interface)}
      {found : Outcome (Datum × Nat)}
      {outcome : Outcome Datum} :
      List.Forall₂ Asks operation.calls made →
      Sends operation made payload →
      Posts client subject payload tail found →
      (∀ failure, found = .error failure → outcome = .error failure) →
      Completes client operation (made.map Call.id) tail outcome

/-- A run is complete: its identifiers come first. -/
theorem Runs.completes
    {client : Client}
    {operation : Operation}
    {trace : List (Exchange interface)}
    {outcome : Outcome Datum}
    (runs : Runs client operation trace outcome) :
    ∃ drawn tail, trace = drawn.map drew ++ tail ∧
      Completes client operation drawn tail outcome := by
  cases runs with
  | nextId id => exact ⟨[id], [], rfl, .handsOut (.nextId id)⟩
  | @makePayload method params _ _ makes =>
      cases makes with
      | malformed given => exact ⟨[], [], rfl, .refused (.first given)⟩
      | @made items id given =>
          have asks : Asks (method, params) ⟨method, items, id⟩ := ⟨rfl, given⟩
          exact ⟨[id], [], rfl, .handsOut (.makePayload asks)⟩
  | callRefused makes =>
      obtain ⟨drawn, misuse, rfl, rfl, refused⟩ := makes.makesCalls.refused
      exact ⟨drawn, [], (List.append_nil _).symm, .refused refused⟩
  | call makes posts =>
      obtain ⟨asks, rfl⟩ := makes.makesCalls.made_iff
      refine ⟨_, _, rfl, .posts asks .call posts ?_⟩
      rintro failure rfl
      rfl
  | batchRefused makes =>
      obtain ⟨drawn, misuse, rfl, rfl, refused⟩ := makes.refused
      exact ⟨drawn, [], (List.append_nil _).symm, .refused refused⟩
  | batchEmpty makes =>
      obtain ⟨asks, rfl⟩ := makes.made_iff
      cases asks
      exact ⟨[], [], rfl, .empty rfl⟩
  | batch makes posts =>
      obtain ⟨asks, rfl⟩ := makes.made_iff
      refine ⟨_, _, rfl, .posts asks .batch posts ?_⟩
      rintro failure rfl
      rfl

/-! ## What a run sends -/

/-- What stands in front of a request that ends a trace without another one. -/
theorem eq_of_append_request
    {pre front behind : List (Exchange interface)}
    {last exchange : Exchange interface}
    {request : Request}
    (split : pre ++ [last] = front ++ exchange :: behind)
    (silent : requests pre = [])
    (sends : requestOf? exchange = some request) :
    front = pre ∧ exchange = last ∧ behind = [] := by
  rcases List.eq_nil_or_concat behind with rfl | ⟨others, final, rfl⟩
  · obtain ⟨samePre, sameLast⟩ := List.append_inj' split rfl
    exact ⟨samePre.symm, (List.singleton_inj.mp sameLast).symm, rfl⟩
  · rw [List.concat_eq_append, ← List.cons_append, ← List.append_assoc] at split
    obtain ⟨rfl, -⟩ := List.append_inj' split rfl
    have spoken : request ∈ requests (front ++ exchange :: others) :=
      List.mem_filterMap.mpr ⟨exchange, by simp, sends⟩
    rw [silent] at spoken
    cases spoken

variable
    {client : Client}
    {operation : Operation}
    {drawn : List Nat}
    {tail : List (Exchange interface)}
    {outcome : Outcome Datum}

/-- A request is the last thing that a run does. Before it come its identifiers and an open
link, and it carries just these identifiers. -/
theorem Completes.sent
    {front behind : List (Exchange interface)}
    {exchange : Exchange interface}
    {request : Request}
    (completes : Completes client operation drawn tail outcome)
    (split : drawn.map drew ++ tail = front ++ exchange :: behind)
    (sends : requestOf? exchange = some request) :
    front = drawn.map drew ++ [foundOpen true] ∧ behind = [] ∧
      Carries client operation drawn request := by
  have spoken : request ∈ requests (drawn.map drew ++ tail) := by
    rw [split]
    exact List.mem_filterMap.mpr ⟨exchange, by simp, sends⟩
  rw [requests_append, requests_map_drew, List.nil_append] at spoken
  cases completes with
  | refused _ => cases spoken
  | handsOut _ => cases spoken
  | empty _ => cases spoken
  | @posts made payload subject _ found _ asks payloadSent posts _ =>
      cases posts with
      | closed => cases spoken
      | unwritable _ => cases spoken
      | exchanged reply written =>
          have silent : requests ((made.map Call.id).map drew ++ [foundOpen true]) = [] := by
            rw [requests_append, requests_map_drew]
            rfl
          rw [← List.singleton_append, ← List.append_assoc] at split
          obtain ⟨rfl, rfl, rfl⟩ := eq_of_append_request split silent sends
          cases sends
          obtain ⟨documents, writes, wraps⟩ := payloadSent.exists_wraps written
          exact ⟨rfl, rfl, made, documents, asks, rfl, writes, wraps, rfl⟩

/-! ## What a run does besides -/

theorem foundOpen_not_mem_map_drew
    (isOpen : Bool)
    (drawn : List Nat) :
    foundOpen isOpen ∉ drawn.map drew := by
  intro present
  obtain ⟨id, -, same⟩ := List.mem_map.mp present
  cases same

/-- What follows the identifiers draws no more of them. -/
theorem Completes.ids_eq
    (completes : Completes client operation drawn tail outcome) :
    ids (drawn.map drew ++ tail) = drawn := by
  have behind : ids tail = [] := by
    cases completes with
    | refused _ | handsOut _ | empty _ => rfl
    | posts _ _ posts _ =>
        cases posts with
        | closed | unwritable _ | exchanged _ _ => rfl
  rw [ids_append, ids_map_drew, behind, List.append_nil]

/-- Only an operation with an exchange looks at the link. -/
theorem Completes.exchanges
    {isOpen : Bool}
    (completes : Completes client operation drawn tail outcome)
    (found : foundOpen isOpen ∈ drawn.map drew ++ tail) :
    operation.exchanges := by
  have behind := (List.mem_append.mp found).resolve_left (foundOpen_not_mem_map_drew isOpen drawn)
  cases completes with
  | refused _ | handsOut _ | empty _ => cases behind
  | posts _ sends _ _ => cases sends <;> rfl

/-- No operation closes the link. -/
theorem Completes.question_ne_close
    {exchange : Exchange interface}
    (completes : Completes client operation drawn tail outcome)
    (present : exchange ∈ drawn.map drew ++ tail) :
    exchange.question ≠ Question.close := by
  rcases List.mem_append.mp present with draws | behind
  · obtain ⟨id, -, rfl⟩ := List.mem_map.mp draws
    exact Question.noConfusion
  · cases completes with
    | refused _ | handsOut _ | empty _ => cases behind
    | posts _ _ posts _ =>
        cases posts with
        | closed | unwritable _ =>
            obtain rfl := List.mem_singleton.mp behind
            exact Question.noConfusion
        | exchanged reply _ =>
            simp only [List.mem_cons, List.not_mem_nil, or_false] at behind
            rcases behind with rfl | rfl <;> exact Question.noConfusion

/-- A run has no more exchanges than its calls and two. -/
theorem Completes.length_le
    (completes : Completes client operation drawn tail outcome) :
    (drawn.map drew ++ tail).length ≤ operation.calls.length + 2 := by
  rw [List.length_append, List.length_map]
  cases completes with
  | refused refused =>
      have below := refused.lt_length
      simp only [List.length_nil]
      omega
  | handsOut handsOut => cases handsOut <;> simp [calls]
  | empty _ => simp
  | posts asks _ posts _ =>
      have counted := asks.length_eq
      cases posts with
      | closed | unwritable _ | exchanged _ _ =>
          simp only [List.length_map, List.length_cons, List.length_nil]
          omega

theorem isPositional_of_asks
    {calls : List (Datum × Datum)}
    {made : List Call}
    (asks : List.Forall₂ Asks calls made) :
    ∀ call ∈ calls, IsPositional call := by
  induction asks with
  | nil => simp
  | cons first _ inductionHypothesis =>
      exact List.forall_mem_cons.mpr ⟨isPositional_iff.mpr ⟨_, first.params⟩, inductionHypothesis⟩

/-- Behind a call whose parameters are refused nothing is drawn, and nothing is sent. -/
theorem Completes.of_refused
    {misuse : Misuse}
    {count : Nat}
    (completes : Completes client operation drawn tail outcome)
    (refused : RefusedBehind misuse count operation.calls) :
    tail = [] ∧ drawn.length = count ∧ outcome = .error (.misuse misuse) := by
  cases completes with
  | refused same =>
      obtain ⟨counted, rfl⟩ := refused.unique same
      exact ⟨rfl, counted, rfl⟩
  | handsOut handsOut =>
      cases handsOut with
      | nextId id => cases refused
      | makePayload asks =>
          exact absurd (isPositional_of_asks (.cons asks .nil)) refused.not_forall
  | empty same =>
      subst same
      cases refused
  | posts asks _ _ _ => exact absurd (isPositional_of_asks asks) refused.not_forall

/-- A complete run of an operation without an exchange hands out what it drew. -/
theorem Completes.handsOut_of
    (completes : Completes client operation drawn tail outcome)
    (quiet : operation.exchanges = false)
    (taken : ∀ call ∈ operation.calls, IsPositional call) :
    HandsOut operation drawn outcome := by
  cases completes with
  | refused refused => exact absurd taken refused.not_forall
  | handsOut handsOut => exact handsOut
  | empty same =>
      subst same
      cases quiet
  | posts _ sends _ _ => cases sends <;> cases quiet

/-- A complete run of an operation with calls to exchange comes to its request. -/
theorem Completes.exists_posts
    (completes : Completes client operation drawn tail outcome)
    (exchanges : operation.exchanges)
    (nonempty : operation.calls ≠ [])
    (taken : ∀ call ∈ operation.calls, IsPositional call) :
    ∃ made payload subject found, drawn = made.map Call.id ∧
      List.Forall₂ Asks operation.calls made ∧ Sends operation made payload ∧
      Posts client subject payload tail found ∧
      ∀ failure, found = .error failure → outcome = .error failure := by
  cases completes with
  | refused refused => exact absurd taken refused.not_forall
  | handsOut handsOut => cases handsOut <;> cases exchanges
  | empty same =>
      subst same
      exact absurd rfl nonempty
  | posts asks sends posts fails => exact ⟨_, _, _, _, rfl, asks, sends, posts, fails⟩

/-- An operation that does not find the link closed sends its request, if that has a text. -/
theorem Completes.of_open
    (completes : Completes client operation drawn tail outcome)
    (neverClosed : foundOpen false ∉ tail)
    (exchanges : operation.exchanges)
    (nonempty : operation.calls ≠ [])
    (taken : ∀ call ∈ operation.calls, IsPositional call) :
    (∃ request, request ∈ requests tail) ∨
      ∃ misuse, outcome = .error (.misuse misuse) ∧ IsUnwritable operation drawn misuse := by
  obtain ⟨made, payload, subject, found, rfl, asks, sends, posts, fails⟩ :=
    completes.exists_posts exchanges nonempty taken
  cases posts with
  | closed => exact absurd List.mem_cons_self neverClosed
  | unwritable written => exact .inr ⟨_, fails _ rfl, made, payload, asks, rfl, sends, written⟩
  | exchanged reply written => exact .inl ⟨_, List.mem_singleton_self _⟩

/-- An operation that does not find the link open draws its identifiers all the same, and fails
as an exchange that brought no reply. -/
theorem Completes.of_closed
    (completes : Completes client operation drawn tail outcome)
    (closed : foundOpen true ∉ tail)
    (exchanges : operation.exchanges)
    (nonempty : operation.calls ≠ [])
    (taken : ∀ call ∈ operation.calls, IsPositional call) :
    drawn.length = operation.calls.length ∧ ∃ error, outcome = .error (.transport error) := by
  obtain ⟨made, payload, subject, found, rfl, asks, -, posts, fails⟩ :=
    completes.exists_posts exchanges nonempty taken
  cases posts with
  | closed =>
      rw [List.length_map]
      exact ⟨asks.length_eq.symm, _, fails _ rfl⟩
  | unwritable _ => exact absurd List.mem_cons_self closed
  | exchanged _ _ => exact absurd List.mem_cons_self closed

end Operation

end Rpc
end ChainClient
