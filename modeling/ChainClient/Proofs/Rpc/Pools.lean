import ChainClient.Proofs.Rpc.Identifiers
import Mathlib.Data.List.Nodup
import Mathlib.Data.List.Range

/-!
# Operations that share a link

Threads that share a client take turns at its link. Whatever turns they take, and whatever the
node replies, what each operation has asked is the beginning of a run of its own, and the link
counts on behind all identifiers that were drawn.
-/

namespace ChainClient
namespace Rpc

/-! ## Logs -/

/-- All that was asked and answered over a link, each exchange with the index of its operation. -/
abbrev Log := List (Nat × Exchange interface)

namespace Log

variable {β : Type}

/-- The exchanges of one operation. -/
def traceOf (index : Nat) (log : Log) : List (Exchange interface) :=
  log.filterMap fun (place, exchange) => if place = index then some exchange else none

/-- What can be found along a log, with the index of its operation. -/
def tagged (find : Exchange interface → Option β) (log : Log) : List (Nat × β) :=
  log.filterMap fun (index, exchange) => (find exchange).map (index, ·)

theorem traceOf_append_self
    (index : Nat)
    (exchange : Exchange interface)
    (log : Log) :
    traceOf index (log ++ [(index, exchange)]) = traceOf index log ++ [exchange] := by
  simp [traceOf]

theorem traceOf_append_of_ne
    {index place : Nat}
    (other : place ≠ index)
    (exchange : Exchange interface)
    (log : Log) :
    traceOf index (log ++ [(place, exchange)]) = traceOf index log := by
  simp [traceOf, other]

theorem tagged_append_of_none
    {find : Exchange interface → Option β}
    {exchange : Exchange interface}
    (nothing : find exchange = none)
    (index : Nat)
    (log : Log) :
    tagged find (log ++ [(index, exchange)]) = tagged find log := by
  simp [tagged, nothing]

theorem tagged_append_of_some
    {find : Exchange interface → Option β}
    {exchange : Exchange interface}
    {found : β}
    (finds : find exchange = some found)
    (index : Nat)
    (log : Log) :
    tagged find (log ++ [(index, exchange)]) = tagged find log ++ [(index, found)] := by
  simp [tagged, finds]

/-- What is found with an index is found in the trace of the index. -/
theorem mem_tagged_iff
    {find : Exchange interface → Option β}
    {index : Nat}
    {found : β}
    {log : Log} :
    (index, found) ∈ tagged find log ↔ found ∈ (traceOf index log).filterMap find := by
  simp [tagged, traceOf]

/-- An index is found as often as its trace has something to find. -/
theorem count_tagged
    (find : Exchange interface → Option β)
    (index : Nat)
    (log : Log) :
    ((tagged find log).map Prod.fst).count index = ((traceOf index log).filterMap find).length := by
  induction log with
  | nil => rfl
  | cons entry log inductionHypothesis =>
      obtain ⟨place, exchange⟩ := entry
      unfold tagged traceOf at *
      cases finds : find exchange with
      | none => by_cases same : place = index <;> simp [finds, same, inductionHypothesis]
      | some found => by_cases same : place = index <;> simp [finds, same, inductionHypothesis]

/-- What is found in a trace is found along the log, in the same order. -/
theorem filterMap_traceOf_sublist
    (find : Exchange interface → Option β)
    (index : Nat)
    (log : Log) :
    ((traceOf index log).filterMap find).Sublist ((tagged find log).map Prod.snd) := by
  induction log with
  | nil => exact .slnil
  | cons entry log inductionHypothesis =>
      obtain ⟨place, exchange⟩ := entry
      unfold tagged traceOf at *
      cases finds : find exchange with
      | none => by_cases same : place = index <;> simp [finds, same, inductionHypothesis]
      | some found =>
          by_cases same : place = index
          · simp [finds, same, inductionHypothesis]
          · simp [finds, same, inductionHypothesis.cons]

/-- Where nothing is found twice, two traces have nothing in common. -/
theorem disjoint_of_nodup
    {find : Exchange interface → Option β}
    {log : Log}
    (nodup : ((tagged find log).map Prod.snd).Nodup)
    {one other : Nat}
    (apart : one ≠ other) :
    ((traceOf one log).filterMap find).Disjoint ((traceOf other log).filterMap find) := by
  intro found here there
  have same :=
    List.inj_on_of_nodup_map nodup (mem_tagged_iff.mpr here) (mem_tagged_iff.mpr there) rfl
  exact apart (Prod.mk.inj same).1

end Log

/-! ## Pools -/

/-- An operation that a thread has begun, and what is left of it. -/
structure Job where
  thread : Nat
  operation : Operation
  rest : Interaction interface (Outcome Datum)

/-- The operation has its outcome. -/
def Job.isDone (job : Job) : Bool :=
  match job.rest with
  | .done _ => true
  | .ask _ _ => false

theorem Job.isDone_of_done
    {job : Job}
    {outcome : Outcome Datum}
    (left : job.rest = .done outcome) :
    job.isDone := by
  unfold isDone
  rw [left]

theorem Job.not_isDone_of_ask
    {job : Job}
    {question : interface.Question}
    {next : interface.Answer question → Interaction interface (Outcome Datum)}
    (asks : job.rest = .ask question next) :
    ¬ job.isDone := by
  unfold isDone
  rw [asks]
  exact Bool.false_ne_true

/-- A link with all the operations that were begun on it, the oldest first. -/
structure Pool where
  link : LinkState := {}
  jobs : List Job := []
  log : Log := []

/-- A thread begins an operation, an operation gets its next answer, or the link is closed. -/
inductive Turn where
  | start (thread : Nat) (operation : Operation)
  /-- An exchange gets the reply. -/
  | answer (index : Nat) (reply : Except ExchangeFault Reply)
  | close

/-- The turn gives an answer to this operation. -/
def Turn.answers (index : Nat) : Turn → Bool
  | .start _ _ => false
  | .answer place _ => place = index
  | .close => false

/-- The link's answer to a question and its state afterwards, where an exchange gets the reply. -/
def react
    (reply : Except ExchangeFault Reply)
    (question : interface.Question)
    (state : LinkState) : interface.Answer question × LinkState :=
  match link (fun _ far => (far, far)) question (state, reply) with
  | (answer, state, _) => (answer, state)

/-- Only its closing closes a link. -/
theorem isOpen_react
    {question : interface.Question}
    (stays : question ≠ Question.close)
    (reply : Except ExchangeFault Reply)
    (state : LinkState) :
    (react reply question state).2.isOpen = state.isOpen := by
  cases question with
  | drawId => rfl
  | isOpen => rfl
  | exchange request => rfl
  | close => exact absurd rfl stays

/-- A link is found as it is. -/
theorem isOpen_of_foundOpen
    {isOpen : Bool}
    {question : interface.Question}
    {reply : Except ExchangeFault Reply}
    {state : LinkState}
    (found : foundOpen isOpen = ⟨question, (react reply question state).1⟩) :
    state.isOpen = isOpen := by
  cases question with
  | isOpen => exact (eq_of_heq (Exchange.mk.inj found).2).symm
  | drawId => cases (Exchange.mk.inj found).1
  | exchange request => cases (Exchange.mk.inj found).1
  | close => cases (Exchange.mk.inj found).1

/-- Whatever is left can come to an end. -/
theorem exists_yields
    {α : Type}
    (rest : Interaction interface α) :
    ∃ behind result, rest.Yields behind result := by
  let surroundings : LinkState × Except ExchangeFault Reply := ({}, .error (.network []))
  obtain ⟨behind, yields⟩ :=
    Interaction.exists_yields_run (link fun _ far => (far, far)) rest surroundings
  exact ⟨behind, _, yields⟩

namespace Pool

/-- What an operation has asked, and the answers. -/
def trace (pool : Pool) (index : Nat) : List (Exchange interface) :=
  pool.log.traceOf index

/-- The identifiers that were handed out, in this order. -/
def drawn (pool : Pool) : List Nat :=
  (pool.log.tagged idOf?).map Prod.snd

/-- The identifiers that an operation drew. -/
def drawnBy (pool : Pool) (index : Nat) : List Nat :=
  ids (pool.trace index)

/-- The requests that were sent, each with the index of its operation. -/
def sent (pool : Pool) : List (Nat × Request) :=
  pool.log.tagged requestOf?

/-- A thread has begun an operation. -/
def started (client : Client) (pool : Pool) (thread : Nat) (operation : Operation) : Pool :=
  { pool with jobs := pool.jobs ++ [⟨thread, operation, (operation.task client).outcome⟩] }

/-- An operation has got an answer. -/
def answered
    (pool : Pool)
    (index : Nat)
    (job : Job)
    (question : interface.Question)
    (next : interface.Answer question → Interaction interface (Outcome Datum))
    (reply : Except ExchangeFault Reply) : Pool :=
  let reaction := react reply question pool.link
  { link := reaction.2
    jobs := pool.jobs.set index { job with rest := next reaction.1 }
    log := pool.log ++ [(index, ⟨question, reaction.1⟩)] }

/-- The link has been closed. -/
def closed (pool : Pool) : Pool :=
  { pool with link := pool.link.close }

/-- A turn at the link. A thread begins nothing before its last operation is done, and nobody
closes the link while a call or a batch is in progress. -/
def step (client : Client) (pool : Pool) : Turn → Pool
  | .start thread operation =>
    if ∀ job ∈ pool.jobs, job.thread = thread → job.isDone then pool.started client thread operation
    else pool
  | .answer index reply =>
    match pool.jobs[index]? with
    | none => pool
    | some job => match job.rest with
      | .done _ => pool
      | .ask question next => pool.answered index job question next reply
  | .close =>
    if ∀ job ∈ pool.jobs, job.operation.exchanges → job.isDone then pool.closed else pool

/-- Turns at the link, one after the other. -/
def run (client : Client) (pool : Pool) (turns : List Turn) : Pool :=
  turns.foldl (step client) pool

/-- All that can come of a turn. -/
inductive Steps (client : Client) (pool : Pool) : Turn → Pool → Prop
  | busy
      (thread : Nat)
      (operation : Operation) :
      Steps client pool (.start thread operation) pool
  | started
      (thread : Nat)
      (operation : Operation) :
      Steps client pool (.start thread operation) (pool.started client thread operation)
  | idle
      {index : Nat}
      (reply : Except ExchangeFault Reply) :
      (∀ job, pool.jobs[index]? = some job → job.isDone) →
      Steps client pool (.answer index reply) pool
  | answered
      {index : Nat}
      {job : Job}
      {question : interface.Question}
      {next : interface.Answer question → Interaction interface (Outcome Datum)}
      (reply : Except ExchangeFault Reply) :
      pool.jobs[index]? = some job →
      job.rest = .ask question next →
      Steps client pool (.answer index reply) (pool.answered index job question next reply)
  | refused :
      Steps client pool .close pool
  | closed :
      (∀ job ∈ pool.jobs, job.operation.exchanges → job.isDone) →
      Steps client pool .close pool.closed

theorem steps_step
    (client : Client)
    (pool : Pool)
    (turn : Turn) :
    Steps client pool turn (pool.step client turn) := by
  cases turn with
  | start thread operation =>
      dsimp only [step]
      split
      · exact .started thread operation
      · exact .busy thread operation
  | answer index reply =>
      dsimp only [step]
      split
      · next absent =>
          apply Steps.idle
          intro job found
          rw [absent] at found
          cases found
      · next job found =>
          split
          · next outcome left =>
              apply Steps.idle
              intro other same
              rw [found] at same
              cases same
              exact Job.isDone_of_done left
          · next question next left => exact .answered reply found left
  | close =>
      dsimp only [step]
      split
      · next quiet => exact .closed quiet
      · exact .refused

/-- What every turn keeps, any number of turns keeps. -/
theorem run_induction
    {client : Client}
    {holds : Pool → Prop}
    (keeps : ∀ pool turn later, holds pool → Steps client pool turn later → holds later)
    {pool : Pool}
    (start : holds pool)
    (turns : List Turn) :
    holds (pool.run client turns) := by
  induction turns generalizing pool with
  | nil => exact start
  | cons turn turns inductionHypothesis =>
      exact inductionHypothesis (keeps _ turn _ start (steps_step client pool turn))

/-! ## One turn -/

section Answered

variable
    {pool : Pool}
    {index place : Nat}
    {job other : Job}
    {question : interface.Question}
    {next : interface.Answer question → Interaction interface (Outcome Datum)}
    {reply : Except ExchangeFault Reply}

theorem trace_answered_self :
    (pool.answered index job question next reply).trace index =
      pool.trace index ++ [⟨question, (react reply question pool.link).1⟩] :=
  Log.traceOf_append_self index _ pool.log

theorem trace_answered_of_ne
    (apart : index ≠ place) :
    (pool.answered index job question next reply).trace place = pool.trace place :=
  Log.traceOf_append_of_ne apart _ pool.log

/-- An answer adds one exchange to what has been asked and answered. -/
theorem mem_trace_answered
    {exchange : Exchange interface}
    (present : exchange ∈ (pool.answered index job question next reply).trace place) :
    exchange ∈ pool.trace place ∨ exchange = ⟨question, (react reply question pool.link).1⟩ := by
  by_cases same : index = place
  · subst same
    rw [trace_answered_self, List.mem_append, List.mem_singleton] at present
    exact present
  · rw [trace_answered_of_ne same] at present
    exact .inl present

/-- An answer matters to the operation that gets it, and to no other. -/
theorem getElem?_answered
    (found : (pool.answered index job question next reply).jobs[place]? = some other) :
    (place = index ∧ other = { job with rest := next (react reply question pool.link).1 }) ∨
      (index ≠ place ∧ pool.jobs[place]? = some other) := by
  change (pool.jobs.set index _)[place]? = some other at found
  rw [List.getElem?_set] at found
  split at found
  · next same =>
      split at found
      · exact .inl ⟨same.symm, (Option.some.inj found).symm⟩
      · cases found
  · next apart => exact .inr ⟨apart, found⟩

theorem drawn_answered_of_some
    {id : Nat}
    (draws : idOf? ⟨question, (react reply question pool.link).1⟩ = some id) :
    (pool.answered index job question next reply).drawn = pool.drawn ++ [id] := by
  change ((pool.log ++ [_]).tagged idOf?).map Prod.snd = _
  rw [Log.tagged_append_of_some draws, List.map_append]
  rfl

theorem drawn_answered_of_none
    (nothing : idOf? ⟨question, (react reply question pool.link).1⟩ = none) :
    (pool.answered index job question next reply).drawn = pool.drawn := by
  change ((pool.log ++ [_]).tagged idOf?).map Prod.snd = _
  rw [Log.tagged_append_of_none nothing]
  rfl

theorem sent_answered_of_none
    (nothing : requestOf? ⟨question, (react reply question pool.link).1⟩ = none) :
    (pool.answered index job question next reply).sent = pool.sent :=
  Log.tagged_append_of_none nothing index pool.log

end Answered

/-- What was begun comes last. -/
theorem getElem?_started
    {client : Client}
    {pool : Pool}
    {thread place : Nat}
    {operation : Operation}
    {other : Job}
    (found : (pool.started client thread operation).jobs[place]? = some other) :
    pool.jobs[place]? = some other ∨
      (pool.jobs.length ≤ place ∧ other = ⟨thread, operation, (operation.task client).outcome⟩) := by
  change (pool.jobs ++ [_])[place]? = some other at found
  rw [List.getElem?_append] at found
  split at found
  · exact .inl found
  · next beyond =>
      have present := List.mem_of_getElem? found
      exact .inr ⟨Nat.le_of_not_lt beyond, List.mem_singleton.mp present⟩

/-! ## Consistent pools -/

/-- The operations, the link and the log of a pool fit together. -/
structure Consistent (client : Client) (pool : Pool) : Prop where
  leaves :
    ∀ {index : Nat} {job : Job}, pool.jobs[index]? = some job →
      (job.operation.task client).outcome.Leaves (pool.trace index) job.rest
  silent : ∀ {index : Nat}, pool.jobs.length ≤ index → pool.trace index = []
  drawn : pool.drawn = List.range' 1 pool.drawn.length
  nextId : pool.link.nextId = pool.drawn.length + 1
  isOpen :
    ∀ {index : Nat} {job : Job}, pool.jobs[index]? = some job →
      foundOpen true ∈ pool.trace index → job.isDone ∨ pool.link.isOpen
  isClosed : ∀ {index : Nat}, foundOpen false ∈ pool.trace index → pool.link.isOpen = false

theorem consistent_empty
    (client : Client) :
    Consistent client {} where
  leaves := fun found => by cases found
  silent := fun _ => rfl
  drawn := rfl
  nextId := rfl
  isOpen := fun found => by cases found
  isClosed := fun found => by cases found

namespace Consistent

variable
    {client : Client}
    {pool : Pool}
    {index : Nat}
    {job : Job}

/-- What an operation has done is the beginning of a complete run. -/
theorem completes
    {behind : List (Exchange interface)}
    {outcome : Outcome Datum}
    (consistent : pool.Consistent client)
    (found : pool.jobs[index]? = some job)
    (yields : job.rest.Yields behind outcome) :
    ∃ drawn tail, pool.trace index ++ behind = drawn.map drew ++ tail ∧
      Operation.Completes client job.operation drawn tail outcome :=
  Operation.Runs.completes
    (Operation.yields_task_iff.mp ((consistent.leaves found).yields yields))

/-- A question that is asked has its place in a complete run, whatever the answer. -/
theorem completes_of_ask
    {question : interface.Question}
    {next : interface.Answer question → Interaction interface (Outcome Datum)}
    (consistent : pool.Consistent client)
    (found : pool.jobs[index]? = some job)
    (asks : job.rest = .ask question next)
    (answer : interface.Answer question) :
    ∃ behind drawn tail outcome,
      pool.trace index ++ ⟨question, answer⟩ :: behind = drawn.map drew ++ tail ∧
        Operation.Completes client job.operation drawn tail outcome := by
  obtain ⟨behind, outcome, yields⟩ := exists_yields (next answer)
  have whole : job.rest.Yields (⟨question, answer⟩ :: behind) outcome := by
    rw [asks]
    exact .ask answer yields
  obtain ⟨drawn, tail, split, completes⟩ := consistent.completes found whole
  exact ⟨behind, drawn, tail, outcome, split, completes⟩

theorem question_ne_close
    {question : interface.Question}
    {next : interface.Answer question → Interaction interface (Outcome Datum)}
    (consistent : pool.Consistent client)
    (found : pool.jobs[index]? = some job)
    (asks : job.rest = .ask question next)
    (answer : interface.Answer question) :
    question ≠ Question.close := by
  obtain ⟨behind, drawn, tail, outcome, split, completes⟩ :=
    consistent.completes_of_ask found asks answer
  have present : ⟨question, answer⟩ ∈ drawn.map drew ++ tail := by
    rw [← split]
    exact List.mem_append_right _ List.mem_cons_self
  exact completes.question_ne_close present

/-- A thread that begins an operation has asked nothing for it. -/
theorem started
    (consistent : pool.Consistent client)
    (thread : Nat)
    (operation : Operation) :
    (pool.started client thread operation).Consistent client where
  leaves := by
    intro place other found
    rcases getElem?_started found with found | ⟨beyond, rfl⟩
    · exact consistent.leaves found
    · have nothing : (pool.started client thread operation).trace place = [] :=
        consistent.silent beyond
      rw [nothing]
      exact .start _
  silent := by
    intro place beyond
    apply consistent.silent
    have grown : (pool.started client thread operation).jobs.length = pool.jobs.length + 1 :=
      List.length_append
    omega
  drawn := consistent.drawn
  nextId := consistent.nextId
  isOpen := by
    intro place other found foundIt
    rcases getElem?_started found with found | ⟨beyond, rfl⟩
    · exact consistent.isOpen found foundIt
    · have nothing : (pool.started client thread operation).trace place = [] :=
        consistent.silent beyond
      rw [nothing] at foundIt
      cases foundIt
  isClosed := consistent.isClosed

/-- The link counts on behind the identifiers that were drawn. -/
theorem counts
    (consistent : pool.Consistent client)
    {question : interface.Question}
    (next : interface.Answer question → Interaction interface (Outcome Datum))
    (reply : Except ExchangeFault Reply) :
    let later := pool.answered index job question next reply
    later.drawn = List.range' 1 later.drawn.length ∧
      later.link.nextId = later.drawn.length + 1 := by
  intro later
  cases question with
  | drawId =>
      have drawn : later.drawn = pool.drawn ++ [pool.link.nextId] := drawn_answered_of_some rfl
      have nextId : later.link.nextId = pool.link.nextId + 1 := rfl
      rw [nextId, drawn, consistent.nextId, List.length_append, List.length_singleton,
        List.range'_concat, ← consistent.drawn, Nat.one_mul, Nat.add_comm 1]
      exact ⟨rfl, rfl⟩
  | isOpen | exchange _ | close =>
      have drawn : later.drawn = pool.drawn := drawn_answered_of_none rfl
      rw [drawn]
      exact ⟨consistent.drawn, consistent.nextId⟩

/-- An answer neither opens nor closes the link. -/
theorem isOpen_answered
    {question : interface.Question}
    {next : interface.Answer question → Interaction interface (Outcome Datum)}
    (consistent : pool.Consistent client)
    (found : pool.jobs[index]? = some job)
    (asks : job.rest = .ask question next)
    (reply : Except ExchangeFault Reply) :
    (pool.answered index job question next reply).link.isOpen = pool.link.isOpen :=
  isOpen_react (consistent.question_ne_close found asks (react reply question pool.link).1)
    reply pool.link

/-- An answer leaves a pool consistent. -/
theorem answered
    {question : interface.Question}
    {next : interface.Answer question → Interaction interface (Outcome Datum)}
    (consistent : pool.Consistent client)
    (found : pool.jobs[index]? = some job)
    (asks : job.rest = .ask question next)
    (reply : Except ExchangeFault Reply) :
    (pool.answered index job question next reply).Consistent client where
  leaves := by
    intro place other present
    rcases getElem?_answered present with ⟨rfl, rfl⟩ | ⟨apart, present⟩
    · rw [trace_answered_self]
      have leaves := consistent.leaves found
      rw [asks] at leaves
      exact leaves.answer _
    · rw [trace_answered_of_ne apart]
      exact consistent.leaves present
  silent := by
    intro place beyond
    have kept : (pool.answered index job question next reply).jobs.length = pool.jobs.length :=
      List.length_set
    have below : index < pool.jobs.length := (List.getElem?_eq_some_iff.mp found).1
    rw [trace_answered_of_ne (by omega)]
    exact consistent.silent (by omega)
  drawn := (consistent.counts next reply).1
  nextId := (consistent.counts next reply).2
  isOpen := by
    intro place other present foundIt
    rw [consistent.isOpen_answered found asks reply]
    rcases mem_trace_answered foundIt with before | now
    · rcases getElem?_answered present with ⟨rfl, rfl⟩ | ⟨_, present⟩
      · exact .inr ((consistent.isOpen found before).resolve_left (Job.not_isDone_of_ask asks))
      · exact consistent.isOpen present before
    · exact .inr (isOpen_of_foundOpen now)
  isClosed := by
    intro place foundIt
    rw [consistent.isOpen_answered found asks reply]
    rcases mem_trace_answered foundIt with before | now
    · exact consistent.isClosed before
    · exact isOpen_of_foundOpen now

/-- Closing leaves a pool consistent while no exchange is in progress. -/
theorem closed
    (consistent : pool.Consistent client)
    (quiet : ∀ job ∈ pool.jobs, job.operation.exchanges → job.isDone) :
    pool.closed.Consistent client where
  leaves := consistent.leaves
  silent := consistent.silent
  drawn := consistent.drawn
  nextId := consistent.nextId
  isOpen := by
    intro place other present foundIt
    obtain ⟨behind, outcome, yields⟩ := exists_yields other.rest
    obtain ⟨drawn, tail, split, completes⟩ := consistent.completes present yields
    left
    apply quiet other (List.mem_of_getElem? present)
    apply completes.exchanges
    rw [← split]
    exact List.mem_append_left behind foundIt
  isClosed := fun _ => rfl

/-- Every turn leaves a pool consistent. -/
theorem steps
    {turn : Turn}
    {later : Pool}
    (consistent : pool.Consistent client)
    (steps : Steps client pool turn later) :
    later.Consistent client := by
  cases steps with
  | busy | idle | refused => exact consistent
  | started thread operation => exact consistent.started thread operation
  | answered reply found asks => exact consistent.answered found asks reply
  | closed quiet => exact consistent.closed quiet

theorem run
    (consistent : pool.Consistent client)
    (turns : List Turn) :
    (pool.run client turns).Consistent client :=
  run_induction (fun _ _ _ consistent steps => consistent.steps steps) consistent turns

end Consistent

end Pool

end Rpc
end ChainClient
