import ChainClient.Proofs.Rpc.Calls
import ChainClient.Proofs.Rpc.Sharing

/-!
# The result of a call

A call that a thread begins over an open link finds it open, whatever the other threads do, for
nobody closes a link while a call is in progress. So the call exchanges one request for one reply,
and brings a result only if this reply holds it under the identifier of the request.
-/

namespace ChainClient
namespace Rpc

open Operation (Carries)

/-- The error member of a record counts as none if it is absent or null. -/
theorem errorOf?_record_eq_none_iff
    {entries : Entries} :
    errorOf? (.record entries) = none ↔
      Entries.get? "error" entries = none ∨ Entries.get? "error" entries = some .null := by
  unfold errorOf?
  dsimp only
  cases found : Entries.get? "error" entries with
  | none => simp
  | some member => cases member <;> simp

/-- What it takes for a reply to bring a result, member by member. -/
theorem bringsResult_iff
    {reply : Except ExchangeFault Reply}
    {id : Nat}
    {result : Datum} :
    BringsResult reply id result ↔
      ∃ (answer : Reply) (entries : Entries), reply = .ok answer ∧ answer.status < 400 ∧
        Json.parseBytes? answer.body = some (.record entries) ∧
        (entries.get? "error" = none ∨ entries.get? "error" = some .null) ∧
        (entries.getD "id").equals (.int id) = true ∧
        entries.get? "result" = some result := by
  constructor
  · rintro ⟨answer, entries, same, below, parsed, answers⟩
    exact ⟨answer, entries, same, below, parsed,
      errorOf?_record_eq_none_iff.mp answers.quiet, answers.isFor, answers.result⟩
  · rintro ⟨answer, entries, same, below, parsed, quiet, isFor, found⟩
    exact ⟨answer, entries, same, below, parsed,
      errorOf?_record_eq_none_iff.mpr quiet, isFor, found⟩

namespace Pool

/-! ## Identifiers and turns -/

/-- A turn adds at most one exchange to the log. -/
theorem Steps.length_log_le
    {client : Client}
    {pool later : Pool}
    {turn : Turn}
    (steps : Steps client pool turn later) :
    later.log.length ≤ pool.log.length + 1 := by
  cases steps with
  | busy | idle | refused | started | closed => exact Nat.le_succ _
  | @answered index job question next reply found asks =>
      have grown : (pool.answered index job question next reply).log.length =
          pool.log.length + 1 := List.length_append
      exact Nat.le_of_eq grown

theorem length_log_run_le
    (client : Client)
    (pool : Pool)
    (turns : List Turn) :
    (pool.run client turns).log.length ≤ pool.log.length + turns.length := by
  induction turns generalizing pool with
  | nil => exact Nat.le_refl _
  | cons turn turns inductionHypothesis =>
      have first := (steps_step client pool turn).length_log_le
      have rest := inductionHypothesis (pool.step client turn)
      rw [List.length_cons]
      change ((pool.step client turn).run client turns).log.length ≤ _
      omega

/-- An identifier that was drawn is no larger than the number of exchanges. -/
theorem Consistent.id_le
    {client : Client}
    {pool : Pool}
    {index id : Nat}
    (consistent : pool.Consistent client)
    (drawn : id ∈ pool.drawnBy index) :
    id ≤ pool.log.length := by
  have present : id ∈ pool.drawn :=
    (Log.filterMap_traceOf_sublist idOf? index pool.log).subset drawn
  have counted : pool.drawn.length ≤ pool.log.length := by
    rw [Pool.drawn, List.length_map]
    exact List.length_filterMap_le _ _
  rw [consistent.drawn, List.mem_range'_1] at present
  omega

/-- A client that has taken so many turns has drawn no larger identifier. -/
theorem id_le_of_mem_drawnBy_run
    {client : Client}
    {turns : List Turn}
    {index id : Nat}
    (drawn : id ∈ (run client {} turns).drawnBy index) :
    id ≤ turns.length := by
  have consistent := (consistent_empty client).run turns
  have counted := length_log_run_le client {} turns
  rw [List.length_nil, Nat.zero_add] at counted
  exact (consistent.id_le drawn).trans counted

/-! ## Requests, replies and turns -/

/-- An operation that has just begun has asked for nothing. -/
theorem Consistent.trace_started
    {client : Client}
    {pool : Pool}
    (consistent : pool.Consistent client)
    (thread : Nat)
    (operation : Operation) :
    (pool.started client thread operation).trace pool.jobs.length = [] :=
  consistent.silent (Nat.le_refl _)

/-- A request in the trace of an operation carries the calls of this operation, under the
identifiers that it drew. -/
theorem Consistent.carries
    {client : Client}
    {pool : Pool}
    {index : Nat}
    {job : Job}
    {request : Request}
    (consistent : pool.Consistent client)
    (found : pool.jobs[index]? = some job)
    (sent : request ∈ requests (pool.trace index)) :
    Carries client job.operation (pool.drawnBy index) request := by
  obtain ⟨sender, same, carries, -⟩ := consistent.of_sent (Log.mem_tagged_iff.mpr sent)
  cases found.symm.trans same
  exact carries

/-- An exchange gets the reply of the turn that answers it. -/
theorem Steps.reply_eq
    {client : Client}
    {pool later : Pool}
    {index : Nat}
    {turn : Turn}
    {sent : Request}
    {reply : Except ExchangeFault Reply}
    (steps : Steps client pool turn later)
    (present : exchanged sent reply ∈ later.trace index) :
    exchanged sent reply ∈ pool.trace index ∨ turn = .answer index reply := by
  cases steps with
  | busy | idle | refused | started | closed => exact .inl present
  | @answered place asker question next given found asks =>
      by_cases same : place = index
      · subst same
        rcases mem_trace_answered present with before | now
        · exact .inl before
        · cases question with
          | exchange request =>
              obtain rfl : reply = given := eq_of_heq (Exchange.mk.inj now).2
              exact .inr rfl
          | drawId | isOpen | close => cases (Exchange.mk.inj now).1
      · rw [trace_answered_of_ne same] at present
        exact .inl present

/-- Every reply was given by some turn. -/
theorem mem_turns_of_exchanged
    {client : Client}
    {pool : Pool}
    {index : Nat}
    {turns : List Turn}
    {sent : Request}
    {reply : Except ExchangeFault Reply}
    (present : exchanged sent reply ∈ (pool.run client turns).trace index) :
    exchanged sent reply ∈ pool.trace index ∨ .answer index reply ∈ turns := by
  induction turns generalizing pool with
  | nil => exact .inl present
  | cons turn turns inductionHypothesis =>
      rcases inductionHypothesis present with before | given
      · rcases (steps_step client pool turn).reply_eq before with before | rfl
        · exact .inl before
        · exact .inr List.mem_cons_self
      · exact .inr (List.mem_cons_of_mem _ given)

/-- A reply to an operation was given after the operation began. -/
theorem Consistent.mem_turns_of_started
    {client : Client}
    {pool : Pool}
    {thread : Nat}
    {operation : Operation}
    {turns : List Turn}
    {sent : Request}
    {reply : Except ExchangeFault Reply}
    (consistent : pool.Consistent client)
    (present : exchanged sent reply ∈
      ((pool.started client thread operation).run client turns).trace pool.jobs.length) :
    .answer pool.jobs.length reply ∈ turns := by
  rcases mem_turns_of_exchanged present with before | given
  · rw [consistent.trace_started] at before
    cases before
  · exact given

/-! ## Exchanges in progress -/

/-- An operation that exchanges a request has not found the link closed, and as long as it is not
done the link is open. -/
structure KeepsOpen (client : Client) (index : Nat) (pool : Pool) : Prop where
  consistent : pool.Consistent client
  inProgress :
    ∃ job, pool.jobs[index]? = some job ∧ job.operation.exchanges ∧
      (job.isDone ∨ pool.link.isOpen)
  neverClosed : foundOpen false ∉ pool.trace index

namespace KeepsOpen

variable
    {client : Client}
    {index : Nat}
    {pool : Pool}

/-- An operation that is begun over an open link. -/
theorem begun
    {operation : Operation}
    (consistent : pool.Consistent client)
    (isOpen : pool.link.isOpen)
    (exchanges : operation.exchanges)
    (thread : Nat) :
    KeepsOpen client pool.jobs.length (pool.started client thread operation) where
  consistent := consistent.started thread operation
  inProgress := ⟨_, List.getElem?_concat_length, exchanges, .inr isOpen⟩
  neverClosed := by
    rw [consistent.trace_started]
    exact List.not_mem_nil

/-- An answer to any operation neither closes the link nor finds it closed. -/
theorem answered
    {place : Nat}
    {asker : Job}
    {question : interface.Question}
    {next : interface.Answer question → Interaction interface (Outcome Datum)}
    (keeps : KeepsOpen client index pool)
    (found : pool.jobs[place]? = some asker)
    (asks : asker.rest = .ask question next)
    (reply : Except ExchangeFault Reply) :
    KeepsOpen client index (pool.answered place asker question next reply) := by
  obtain ⟨job, present, exchanges, stillOpen⟩ := keeps.inProgress
  have stays := keeps.consistent.isOpen_answered found asks reply
  refine ⟨keeps.consistent.answered found asks reply, ?_, ?_⟩
  · by_cases same : place = index
    · subst same
      obtain rfl : asker = job := Option.some.inj (found.symm.trans present)
      have below : place < pool.jobs.length := (List.getElem?_eq_some_iff.mp found).1
      refine ⟨_, List.getElem?_set_self below, exchanges, .inr ?_⟩
      rw [stays]
      exact stillOpen.resolve_left (Job.not_isDone_of_ask asks)
    · exact ⟨job, (List.getElem?_set_ne same).trans present, exchanges, by rwa [stays]⟩
  · by_cases same : place = index
    · subst same
      obtain rfl : asker = job := Option.some.inj (found.symm.trans present)
      intro closed
      rcases mem_trace_answered closed with before | now
      · exact keeps.neverClosed before
      · have isClosed := isOpen_of_foundOpen now
        rw [stillOpen.resolve_left (Job.not_isDone_of_ask asks)] at isClosed
        cases isClosed
    · rw [trace_answered_of_ne same]
      exact keeps.neverClosed

theorem steps
    {turn : Turn}
    {later : Pool}
    (keeps : KeepsOpen client index pool)
    (steps : Steps client pool turn later) :
    KeepsOpen client index later := by
  have consistent := keeps.consistent.steps steps
  obtain ⟨job, present, exchanges, stillOpen⟩ := keeps.inProgress
  cases steps with
  | busy | idle | refused => exact keeps
  | started thread operation =>
      have below : index < pool.jobs.length := (List.getElem?_eq_some_iff.mp present).1
      have stays : (pool.started client thread operation).jobs[index]? = some job :=
        (List.getElem?_append_left below).trans present
      exact ⟨consistent, ⟨job, stays, exchanges, stillOpen⟩, keeps.neverClosed⟩
  | answered reply found asks => exact keeps.answered found asks reply
  | closed quiet =>
      have done := quiet job (List.mem_of_getElem? present) exchanges
      exact ⟨consistent, ⟨job, present, exchanges, .inl done⟩, keeps.neverClosed⟩

theorem run
    (keeps : KeepsOpen client index pool)
    (turns : List Turn) :
    KeepsOpen client index (pool.run client turns) :=
  run_induction (fun _ _ _ keeps steps => keeps.steps steps) keeps turns

end KeepsOpen

/-! ## Calls -/

/-- A thread that has nothing else in progress begins its operation. -/
theorem step_start
    {pool : Pool}
    {thread : Nat}
    (idle : ∀ job ∈ pool.jobs, job.thread = thread → job.isDone)
    (client : Client)
    (operation : Operation) :
    pool.step client (.start thread operation) = pool.started client thread operation :=
  if_pos idle

/-- What happens after an operation was begun happens to the pool that it was added to. -/
theorem run_append_start
    {pool : Pool}
    {turns : List Turn}
    {thread : Nat}
    {client : Client}
    (idle : ∀ job ∈ (pool.run client turns).jobs, job.thread = thread → job.isDone)
    (operation : Operation)
    (later : List Turn) :
    pool.run client (turns ++ .start thread operation :: later) =
      ((pool.run client turns).started client thread operation).run client later := by
  change List.foldl _ _ _ = _
  rw [List.foldl_append, List.foldl_cons]
  exact congrArg (fun pool => run client pool later) (step_start idle client operation)

/-- Whatever has happened at a link, a call that is begun while it is open is done after three
answers. It has then exchanged one request for one reply, and it brings a result exactly if the
reply has no error status, is a record without an error, is for the identifier of that request, and
holds the result. -/
theorem call_own_result
    {client : Client}
    {turns later : List Turn}
    {thread : Nat}
    {method params : Datum}
    (isOpen : (run client {} turns).link.isOpen)
    (idle : ∀ job ∈ (run client {} turns).jobs, job.thread = thread → job.isDone)
    (taken : IsPositional (method, params))
    (encodable : IsEncodable (method, params))
    (enough : 3 ≤ later.countP (Turn.answers (run client {} turns).jobs.length)) :
    let index := (run client {} turns).jobs.length
    let call : Operation := .call method params
    let history := turns ++ .start thread call :: later
    let pool := run client {} history
    ∃ id outcome, id ≤ history.length ∧
      pool.jobs[index]? = some ⟨thread, call, .done outcome⟩ ∧
      (Decimal.IsWritable id →
        ∃ sent reply, pool.trace index = [drew id, foundOpen true, exchanged sent reply] ∧
          Carries client call [id] sent ∧ .answer index reply ∈ later ∧
          ∀ result, outcome = .ok result ↔
            ∃ (answer : Reply) (entries : Entries), reply = .ok answer ∧ answer.status < 400 ∧
              Json.parseBytes? answer.body = some (.record entries) ∧
              (entries.get? "error" = none ∨ entries.get? "error" = some .null) ∧
              (entries.getD "id").equals (.int id) = true ∧
              entries.get? "result" = some result) := by
  intro index call history pool
  have before := (consistent_empty client).run turns
  have begins : pool = ((run client {} turns).started client thread call).run client later :=
    run_append_start idle call later
  have keeps : KeepsOpen client index pool := by
    rw [begins]
    exact (KeepsOpen.begun before isOpen rfl thread).run later
  have begun : ((run client {} turns).started client thread call).jobs[index]? =
      some ⟨thread, call, (call.task client).outcome⟩ :=
    List.getElem?_concat_length
  obtain ⟨outcome, done⟩ := (before.started thread call).finishes begun enough
  rw [← begins] at done
  have yields := (keeps.consistent.leaves done).yields (.done outcome)
  rw [List.append_nil] at yields
  obtain ⟨request, tail, asks, split, sends, receives⟩ :=
    Operation.exists_of_yields_call taken yields keeps.neverClosed
  have drawn : pool.drawnBy index = request.id :: ids tail := by
    rw [drawnBy, split]
    rfl
  refine ⟨request.id, outcome, ?_, done, ?_⟩
  · have present : request.id ∈ pool.drawnBy index := by
      rw [drawn]
      exact List.mem_cons_self
    exact id_le_of_mem_drawnBy_run present
  · intro writable
    obtain ⟨sent, reply, rfl⟩ := sends (asks.isEncodable encodable writable)
    refine ⟨sent, reply, split, ?_, ?_, ?_⟩
    · have isSent : sent ∈ requests (pool.trace index) := by
        rw [split]
        exact List.mem_singleton_self sent
      have carries := keeps.consistent.carries done isSent
      rw [drawn] at carries
      exact carries
    · have present : exchanged sent reply ∈ pool.trace index := by
        rw [split]
        exact List.mem_of_getElem? (i := 2) rfl
      rw [begins] at present
      exact before.mem_turns_of_started present
    · intro result
      rw [receives sent reply rfl, Operation.callResult_eq_ok_iff]
      exact bringsResult_iff

/-- The reply of a node that knows no such block: its result is null, and so is the error. -/
def noBlockReply : Reply where
  status := 200
  body := utf8Body "\x7b\"id\":2,\"error\":null,\"result\":null\x7d"

/-- The turns of a thread that draws an identifier. -/
def drawingTurns : List Turn :=
  [.start 0 .nextId, .answer 0 (.ok noBlockReply)]

/-- The turns of a thread that gets its answers to a call, while others try to close the client. -/
def answeringTurns : List Turn :=
  [.answer 1 (.ok noBlockReply), .close, .answer 1 (.ok noBlockReply),
    .answer 1 (.ok noBlockReply), .close]

/-- A null result is a result. -/
theorem call_own_result_null :
    let call : Operation := .call (.text "getBlockByHash") (.list [.text "0x0"])
    let pool := run localClient {} (drawingTurns ++ .start 0 call :: answeringTurns)
    (run localClient {} drawingTurns).link.isOpen ∧
      (∀ job ∈ (run localClient {} drawingTurns).jobs, job.thread = 0 → job.isDone) ∧
      IsPositional (.text "getBlockByHash", .list [.text "0x0"]) ∧
      IsEncodable (.text "getBlockByHash", .list [.text "0x0"]) ∧
      3 ≤ answeringTurns.countP (Turn.answers (run localClient {} drawingTurns).jobs.length) ∧
      pool.jobs[1]? = some ⟨0, call, .done (.ok .null)⟩ ∧ pool.link.isOpen = false := by
  intro call pool
  have isOpen : (run localClient {} drawingTurns).link.isOpen := by rfl
  have idle : ∀ job ∈ (run localClient {} drawingTurns).jobs, job.thread = 0 → job.isDone := by
    decide
  have taken : IsPositional (.text "getBlockByHash", .list [.text "0x0"]) := .inr ⟨_, rfl⟩
  have encodable : IsEncodable (.text "getBlockByHash", .list [.text "0x0"]) :=
    ⟨⟨_, rfl, by decide⟩, ⟨_, rfl, by decide⟩⟩
  have enough : 3 ≤ answeringTurns.countP
      (Turn.answers (run localClient {} drawingTurns).jobs.length) := by decide
  refine ⟨isOpen, idle, taken, encodable, enough, ?_, by decide +kernel⟩
  obtain ⟨id, outcome, bounded, done, ends⟩ :=
    call_own_result isOpen idle taken encodable enough
  have writable : Decimal.IsWritable id := by
    have few : id ≤ 8 := bounded
    have large : 10 ^ 1 ≤ 10 ^ Decimal.digitLimit := Nat.pow_le_pow_right (by decide) (by decide)
    rw [Decimal.IsWritable, Nat.pow_eq]
    -- the limit is far too large a number to be worked out
    generalize 10 ^ Decimal.digitLimit = limit at large ⊢
    omega
  obtain ⟨sent, reply, trace, carries, given, brings⟩ := ends writable
  obtain rfl : id = 2 := by
    have drawn : pool.drawnBy 1 = [2] := by decide +kernel
    have same : ids (pool.trace 1) = [id] := congrArg ids trace
    exact List.singleton_inj.mp (same.symm.trans drawn)
  obtain ⟨-, rfl⟩ : (run localClient {} drawingTurns).jobs.length = 1 ∧
      reply = .ok noBlockReply := by
    simpa [answeringTurns] using given
  have parsed : Json.parseBytes? noBlockReply.body = some (.record
      [("id", .int 2), ("error", .null), ("result", .null)]) := by
    cbv
  obtain rfl := (brings .null).mpr ⟨_, _, rfl, by decide, parsed, .inr rfl, rfl, rfl⟩
  exact done

end Pool

end Rpc
end ChainClient
