import ChainClient.Proofs.Rpc.Pools

/-!
# A client that is shared

Whatever turns threads take at the link that they share, no two requests have an identifier in
common, and each carries all those of its own operation. Nothing is sent over a link that is
closed.
-/

namespace ChainClient
namespace Rpc
namespace Pool

namespace Consistent

variable
    {client : Client}
    {pool : Pool}
    {index : Nat}
    {job : Job}

/-- An operation that is done has completed its run. -/
theorem of_done
    {outcome : Outcome Datum}
    (consistent : pool.Consistent client)
    (found : pool.jobs[index]? = some job)
    (left : job.rest = .done outcome) :
    ∃ tail, pool.trace index = (pool.drawnBy index).map drew ++ tail ∧
      Operation.Completes client job.operation (pool.drawnBy index) tail outcome := by
  have yields : job.rest.Yields [] outcome := by
    rw [left]
    exact .done outcome
  obtain ⟨drawn, tail, split, completes⟩ := consistent.completes found yields
  rw [List.append_nil] at split
  have drawnBy : pool.drawnBy index = drawn := by
    unfold Pool.drawnBy
    rw [split, completes.ids_eq]
  rw [drawnBy]
  exact ⟨tail, split, completes⟩

/-! ## What was sent -/

/-- A request is the last thing that its operation asked for, over a link that it had found open,
and carries all that the operation drew. -/
theorem of_sent
    {request : Request}
    (consistent : pool.Consistent client)
    (sent : (index, request) ∈ pool.sent) :
    ∃ job, pool.jobs[index]? = some job ∧
      Operation.Carries client job.operation (pool.drawnBy index) request ∧
      requests (pool.trace index) = [request] := by
  obtain ⟨exchange, present, sends⟩ := List.mem_filterMap.mp (Log.mem_tagged_iff.mp sent)
  have begun : index < pool.jobs.length := by
    by_contra beyond
    change exchange ∈ pool.trace index at present
    rw [consistent.silent (Nat.le_of_not_lt beyond)] at present
    cases present
  have found : pool.jobs[index]? = some pool.jobs[index] := List.getElem?_eq_getElem begun
  obtain ⟨front, after, before⟩ := List.append_of_mem present
  change pool.trace index = front ++ exchange :: after at before
  obtain ⟨behind, outcome, yields⟩ := exists_yields pool.jobs[index].rest
  obtain ⟨drawn, tail, split, completes⟩ := consistent.completes found yields
  rw [before, List.append_assoc, List.cons_append] at split
  obtain ⟨rfl, last, carries⟩ := completes.sent split.symm sends
  obtain ⟨rfl, rfl⟩ := List.append_eq_nil_iff.mp last
  obtain ⟨reply, rfl⟩ := exists_reply sends
  have drawnBy : pool.drawnBy index = drawn := by
    unfold Pool.drawnBy
    rw [before, ids_append, ids_append, ids_map_drew]
    simp [ids, idOf?, foundOpen, exchanged]
  refine ⟨_, found, by rwa [drawnBy], ?_⟩
  rw [before, requests_append, requests_append, requests_map_drew]
  rfl

/-- No operation sends twice. -/
theorem nodup_sent
    (consistent : pool.Consistent client) :
    (pool.sent.map Prod.fst).Nodup := by
  rw [List.nodup_iff_count_le_one]
  intro index
  unfold Pool.sent
  rw [Log.count_tagged]
  change (requests (pool.trace index)).length ≤ 1
  cases sends : requests (pool.trace index) with
  | nil => exact Nat.zero_le 1
  | cons request others =>
      have sent : (index, request) ∈ pool.sent := by
        apply Log.mem_tagged_iff.mpr
        change request ∈ requests (pool.trace index)
        rw [sends]
        exact List.mem_cons_self
      obtain ⟨job, found, carries, only⟩ := consistent.of_sent sent
      rw [sends] at only
      rw [only]
      exact Nat.le_refl 1

/-- Two requests have no identifier in common. -/
theorem pairwise_disjoint
    (consistent : pool.Consistent client) :
    pool.sent.Pairwise fun one other =>
      (pool.drawnBy one.1).Disjoint (pool.drawnBy other.1) := by
  have nodup : pool.drawn.Nodup := by
    rw [consistent.drawn]
    exact List.nodup_range'
  have apart := List.pairwise_map.mp consistent.nodup_sent
  exact apart.imp fun apart => Log.disjoint_of_nodup nodup apart

/-- Over an open link an operation is done once it has sent its request, unless that has no
text. -/
theorem of_open
    {outcome : Outcome Datum}
    (consistent : pool.Consistent client)
    (isOpen : pool.link.isOpen)
    (found : pool.jobs[index]? = some job)
    (left : job.rest = .done outcome)
    (exchanges : job.operation.exchanges)
    (nonempty : job.operation.calls ≠ [])
    (taken : ∀ call ∈ job.operation.calls, IsPositional call) :
    (∃ request, (index, request) ∈ pool.sent) ∨
      ∃ misuse, outcome = .error (.misuse misuse) ∧
        Operation.IsUnwritable job.operation (pool.drawnBy index) misuse := by
  obtain ⟨tail, split, completes⟩ := consistent.of_done found left
  have neverClosed : foundOpen false ∉ tail := by
    intro present
    have isClosed : pool.link.isOpen = false := by
      apply consistent.isClosed
      rw [split]
      exact List.mem_append_right _ present
    rw [isClosed] at isOpen
    cases isOpen
  rcases completes.of_open neverClosed exchanges nonempty taken with ⟨request, sent⟩ | unwritable
  · refine .inl ⟨request, Log.mem_tagged_iff.mpr ?_⟩
    change request ∈ requests (pool.trace index)
    rw [split, requests_append]
    exact List.mem_append_right _ sent
  · exact .inr unwritable

/-! ## Calls that are refused -/

/-- An operation with a call that is refused sends nothing, and draws identifiers for the calls
before it alone. -/
theorem of_refused
    {misuse : Misuse}
    {count : Nat}
    (consistent : pool.Consistent client)
    (found : pool.jobs[index]? = some job)
    (refused : RefusedBehind misuse count job.operation.calls) :
    (∀ request, (index, request) ∉ pool.sent) ∧ (pool.drawnBy index).length ≤ count ∧
      ∀ outcome, job.rest = .done outcome →
        (pool.drawnBy index).length = count ∧ outcome = .error (.misuse misuse) := by
  obtain ⟨behind, result, yields⟩ := exists_yields job.rest
  obtain ⟨drawn, tail, split, completes⟩ := consistent.completes found yields
  obtain ⟨rfl, rfl, rfl⟩ := completes.of_refused refused
  rw [List.append_nil] at split
  refine ⟨?_, ?_, ?_⟩
  · intro request sent
    have present : request ∈ requests (pool.trace index ++ behind) := by
      rw [requests_append]
      exact List.mem_append_left _ (Log.mem_tagged_iff.mp sent)
    rw [split, requests_map_drew] at present
    cases present
  · have whole : ids (pool.trace index ++ behind) = drawn := by rw [split, ids_map_drew]
    rw [← whole, ids_append, List.length_append]
    exact Nat.le_add_right _ _
  · intro outcome left
    obtain ⟨_, _, whole⟩ := consistent.of_done found left
    exact (whole.of_refused refused).2

/-! ## Closed links -/

/-- Nothing is about to be sent over a link that is closed. -/
theorem requestOf?_of_closed
    {question : interface.Question}
    {next : interface.Answer question → Interaction interface (Outcome Datum)}
    (consistent : pool.Consistent client)
    (closed : pool.link.isOpen = false)
    (found : pool.jobs[index]? = some job)
    (asks : job.rest = .ask question next)
    (answer : interface.Answer question) :
    requestOf? ⟨question, answer⟩ = none := by
  cases sends : requestOf? ⟨question, answer⟩ with
  | none => rfl
  | some request =>
      obtain ⟨behind, drawn, tail, outcome, split, completes⟩ :=
        consistent.completes_of_ask found asks answer
      obtain ⟨before, -, -⟩ := completes.sent split.symm sends
      have foundBefore : foundOpen true ∈ pool.trace index := by
        rw [before]
        exact List.mem_append_right _ (List.mem_singleton_self _)
      rcases consistent.isOpen found foundBefore with done | isOpen
      · exact absurd done (Job.not_isDone_of_ask asks)
      · rw [closed] at isOpen
        cases isOpen

end Consistent

/-- All that has happened since the link of a pool was closed. -/
structure ClosedSince (client : Client) (start pool : Pool) : Prop where
  consistent : pool.Consistent client
  closed : pool.link.isOpen = false
  sent : pool.sent = start.sent
  found : ∀ {index : Nat}, start.jobs.length ≤ index → foundOpen true ∉ pool.trace index

namespace ClosedSince

variable
    {client : Client}
    {start pool : Pool}

theorem refl
    (consistent : pool.Consistent client)
    (closed : pool.link.isOpen = false) :
    ClosedSince client pool pool where
  consistent := consistent
  closed := closed
  sent := rfl
  found := by
    intro index beyond
    rw [consistent.silent beyond]
    exact List.not_mem_nil

/-- An answer over a closed link: nothing is sent, and the link is not found open. -/
theorem answered
    {index : Nat}
    {job : Job}
    {question : interface.Question}
    {next : interface.Answer question → Interaction interface (Outcome Datum)}
    (since : ClosedSince client start pool)
    (found : pool.jobs[index]? = some job)
    (asks : job.rest = .ask question next)
    (reply : Except ExchangeFault Reply) :
    ClosedSince client start (pool.answered index job question next reply) where
  consistent := since.consistent.answered found asks reply
  closed := (since.consistent.isOpen_answered found asks reply).trans since.closed
  sent := by
    have nothing := since.consistent.requestOf?_of_closed since.closed found asks
    rw [sent_answered_of_none (nothing _), since.sent]
  found := by
    intro place beyond foundIt
    rcases mem_trace_answered foundIt with before | now
    · exact since.found beyond before
    · have isOpen := isOpen_of_foundOpen now
      rw [since.closed] at isOpen
      cases isOpen

/-- A closed link stays closed, whatever turn is taken at it. -/
theorem steps
    {turn : Turn}
    {later : Pool}
    (since : ClosedSince client start pool)
    (steps : Steps client pool turn later) :
    ClosedSince client start later := by
  have consistent := since.consistent.steps steps
  cases steps with
  | busy | idle | refused => exact since
  | started thread operation => exact ⟨consistent, since.closed, since.sent, since.found⟩
  | answered reply found asks => exact since.answered found asks reply
  | closed quiet => exact ⟨consistent, rfl, since.sent, since.found⟩

theorem run
    (since : ClosedSince client start pool)
    (turns : List Turn) :
    ClosedSince client start (pool.run client turns) :=
  run_induction (fun _ _ _ since steps => since.steps steps) since turns

/-- An operation that was begun over the closed link draws its identifiers, and fails. -/
theorem of_done
    {index : Nat}
    {job : Job}
    {outcome : Outcome Datum}
    (since : ClosedSince client start pool)
    (beyond : start.jobs.length ≤ index)
    (found : pool.jobs[index]? = some job)
    (left : job.rest = .done outcome)
    (exchanges : job.operation.exchanges)
    (nonempty : job.operation.calls ≠ [])
    (taken : ∀ call ∈ job.operation.calls, IsPositional call) :
    (pool.drawnBy index).length = job.operation.calls.length ∧
      ∃ error, outcome = .error (.transport error) := by
  obtain ⟨tail, split, completes⟩ := since.consistent.of_done found left
  have closed : foundOpen true ∉ tail := by
    intro present
    apply since.found beyond
    rw [split]
    exact List.mem_append_right _ present
  exact completes.of_closed closed exchanges nonempty taken

end ClosedSince

/-! ## Coming to an end -/

/-- After any turn an operation is still there. If it is done, it stays as it is; if it is not done
even then, it has one more answer for the turn that was its own. -/
theorem Steps.progress
    {client : Client}
    {pool later : Pool}
    {index : Nat}
    {job : Job}
    {turn : Turn}
    (steps : Steps client pool turn later)
    (found : pool.jobs[index]? = some job) :
    ∃ rest, later.jobs[index]? = some { job with rest := rest } ∧
      (job.isDone → rest = job.rest) ∧
      (∀ question next, rest = .ask question next →
        (pool.trace index).length + (if turn.answers index then 1 else 0) ≤
          (later.trace index).length) := by
  cases steps with
  | busy thread operation | refused | closed quiet =>
      exact ⟨job.rest, found, fun _ => rfl, fun _ _ _ => Nat.le_refl _⟩
  | started thread operation =>
      have below : index < pool.jobs.length := (List.getElem?_eq_some_iff.mp found).1
      refine ⟨job.rest, ?_, fun _ => rfl, fun _ _ _ => Nat.le_refl _⟩
      exact (List.getElem?_append_left below).trans found
  | @idle place reply done =>
      refine ⟨job.rest, found, fun _ => rfl, ?_⟩
      intro question next asks
      have other : place ≠ index := by
        rintro rfl
        exact Job.not_isDone_of_ask asks (done job found)
      simp [Turn.answers, other]
  | @answered place asker question next reply present asks =>
      by_cases same : place = index
      · subst same
        obtain rfl : asker = job := Option.some.inj (present.symm.trans found)
        have below : place < pool.jobs.length := (List.getElem?_eq_some_iff.mp found).1
        refine ⟨_, List.getElem?_set_self below, ?_, ?_⟩
        · intro done
          exact absurd done (Job.not_isDone_of_ask asks)
        · intro question next _
          rw [trace_answered_self, List.length_append]
          simp [Turn.answers]
      · refine ⟨job.rest, (List.getElem?_set_ne same).trans found, fun _ => rfl, ?_⟩
        intro question next _
        rw [trace_answered_of_ne same]
        simp [Turn.answers, same]

/-- As long as an operation is not done, every turn of its own brings it one more answer. -/
theorem run_progress
    {client : Client}
    {pool : Pool}
    {index : Nat}
    {job : Job}
    (found : pool.jobs[index]? = some job)
    (turns : List Turn) :
    ∃ rest, (pool.run client turns).jobs[index]? = some { job with rest := rest } ∧
      (job.isDone → rest = job.rest) ∧
      (∀ question next, rest = .ask question next →
        (pool.trace index).length + turns.countP (Turn.answers index) ≤
          ((pool.run client turns).trace index).length) := by
  induction turns generalizing pool job with
  | nil => exact ⟨job.rest, found, fun _ => rfl, fun _ _ _ => Nat.le_refl _⟩
  | cons turn turns inductionHypothesis =>
      obtain ⟨between, present, stays, grows⟩ := (steps_step client pool turn).progress found
      obtain ⟨rest, last, kept, more⟩ := inductionHypothesis present
      refine ⟨rest, last, ?_, ?_⟩
      · intro done
        have same := stays done
        subst same
        exact kept done
      · intro question next asks
        cases left : between with
        | done outcome =>
            have same := kept (Job.isDone_of_done left)
            dsimp only at same
            rw [asks, left] at same
            cases same
        | ask earlier onward =>
            have before := grows earlier onward left
            have behind := more question next asks
            rw [List.countP_cons]
            change _ ≤ (((pool.step client turn).run client turns).trace index).length
            omega

/-- An operation that gets so many answers is done. -/
theorem Consistent.finishes
    {client : Client}
    {pool : Pool}
    {index : Nat}
    {job : Job}
    {turns : List Turn}
    (consistent : pool.Consistent client)
    (found : pool.jobs[index]? = some job)
    (enough : job.operation.calls.length + 2 ≤ turns.countP (Turn.answers index)) :
    ∃ outcome, (pool.run client turns).jobs[index]? = some { job with rest := .done outcome } := by
  have later := consistent.run turns
  obtain ⟨rest, last, -, more⟩ := @run_progress client pool index job found turns
  cases left : rest with
  | done outcome =>
      subst left
      exact ⟨outcome, last⟩
  | ask question next =>
      -- One more answer would make the run longer than any run of the operation is.
      have asked := more question next left
      obtain ⟨behind, outcome, yields⟩ := exists_yields rest
      obtain ⟨drawn, tail, split, completes⟩ := later.completes last yields
      have bounded := completes.length_le
      rw [← split, List.length_append] at bounded
      rw [left, Interaction.yields_ask_iff] at yields
      obtain ⟨answer, others, rfl, -⟩ := yields
      rw [List.length_cons] at bounded
      dsimp only at bounded
      omega

/-! ## Orderly pools -/

/-- What a client that is shared keeps to, as far as its threads have come. -/
structure IsOrderly (client : Client) (pool : Pool) : Prop where
  /-- The identifiers are handed out as one, two, three and so on. -/
  drawn_eq : pool.drawn = List.range' 1 pool.drawn.length
  /-- An operation draws its identifiers among these, and in this order. -/
  drawnBy_sublist : ∀ index, (pool.drawnBy index).Sublist pool.drawn
  /-- Without an exchange, an operation returns what it drew. -/
  handsOut :
    ∀ {index : Nat} {job : Job} {outcome : Outcome Datum},
      pool.jobs[index]? = some job → job.rest = .done outcome →
      job.operation.exchanges = false → (∀ call ∈ job.operation.calls, IsPositional call) →
      Operation.HandsOut job.operation (pool.drawnBy index) outcome
  /-- A request carries the identifiers of its own operation, in the order of the calls. -/
  carries :
    ∀ {index : Nat} {request : Request}, (index, request) ∈ pool.sent →
      ∃ job, pool.jobs[index]? = some job ∧
        Operation.Carries client job.operation (pool.drawnBy index) request
  /-- Over an open link, an operation that is done has sent its request, if that has a text. -/
  sends :
    pool.link.isOpen →
    ∀ {index : Nat} {job : Job} {outcome : Outcome Datum},
      pool.jobs[index]? = some job → job.rest = .done outcome →
      job.operation.exchanges → job.operation.calls ≠ [] →
      (∀ call ∈ job.operation.calls, IsPositional call) →
      (∃ request, (index, request) ∈ pool.sent) ∨
        ∃ misuse, outcome = .error (.misuse misuse) ∧
          Operation.IsUnwritable job.operation (pool.drawnBy index) misuse
  /-- No identifier is in two requests. -/
  disjoint :
    pool.sent.Pairwise fun one other => (pool.drawnBy one.1).Disjoint (pool.drawnBy other.1)
  /-- With a call whose parameters are no sequence, an operation sends nothing, and keeps the
  identifiers of the calls before it. -/
  refused :
    ∀ {index count : Nat} {job : Job} {call : Datum × Datum},
      pool.jobs[index]? = some job → job.operation.calls[count]? = some call →
      ¬ IsPositional call → (∀ call ∈ job.operation.calls.take count, IsPositional call) →
      (∀ request, (index, request) ∉ pool.sent) ∧ (pool.drawnBy index).length ≤ count ∧
        ∀ outcome, job.rest = .done outcome → (pool.drawnBy index).length = count ∧
          ∃ misuse, positional call.2 = .error misuse ∧ outcome = .error (.misuse misuse)
  /-- Over a closed link nothing more is sent. -/
  silent :
    pool.link.isOpen = false → ∀ turns, (pool.run client turns).sent = pool.sent
  /-- What is begun over a closed link draws its identifiers and fails as an exchange. -/
  fails :
    pool.link.isOpen = false →
    ∀ {turns : List Turn} {index : Nat} {job : Job} {outcome : Outcome Datum},
      pool.jobs.length ≤ index → (pool.run client turns).jobs[index]? = some job →
      job.rest = .done outcome → job.operation.exchanges → job.operation.calls ≠ [] →
      (∀ call ∈ job.operation.calls, IsPositional call) →
      ((pool.run client turns).drawnBy index).length = job.operation.calls.length ∧
        ∃ error, outcome = .error (.transport error)
  /-- An operation is done after two answers more than it has calls, whatever else happens. -/
  finishes :
    ∀ {index : Nat} {job : Job} {turns : List Turn},
      pool.jobs[index]? = some job →
      job.operation.calls.length + 2 ≤ turns.countP (Turn.answers index) →
      ∃ outcome, (pool.run client turns).jobs[index]? = some { job with rest := .done outcome }

/-- Whatever threads ask of a client that they share, in whatever order they get their answers,
and whatever these are, its identifiers and its requests are in order. -/
theorem isOrderly_run
    (client : Client)
    (turns : List Turn) :
    (run client {} turns).IsOrderly client := by
  have consistent := (consistent_empty client).run turns
  constructor
  case drawn_eq => exact consistent.drawn
  case drawnBy_sublist => exact fun index => Log.filterMap_traceOf_sublist idOf? index _
  case handsOut =>
    intro index job outcome found left quiet taken
    obtain ⟨_, _, completes⟩ := consistent.of_done found left
    exact completes.handsOut_of quiet taken
  case carries =>
    intro index request sent
    obtain ⟨job, found, carries, -⟩ := consistent.of_sent sent
    exact ⟨job, found, carries⟩
  case sends =>
    intro isOpen index job outcome found left exchanges nonempty taken
    exact consistent.of_open isOpen found left exchanges nonempty taken
  case disjoint => exact consistent.pairwise_disjoint
  case refused =>
    intro index count job call found here malformed earlier
    obtain ⟨misuse, given, refused⟩ := exists_refusedBehind earlier here malformed
    obtain ⟨nothing, bounded, ends⟩ := consistent.of_refused found refused
    refine ⟨nothing, bounded, ?_⟩
    intro outcome left
    exact ⟨(ends outcome left).1, misuse, given, (ends outcome left).2⟩
  case silent =>
    intro closed later
    exact ((ClosedSince.refl consistent closed).run later).sent
  case fails =>
    intro closed later index job outcome beyond found left exchanges nonempty taken
    have since := (ClosedSince.refl consistent closed).run later
    exact since.of_done beyond found left exchanges nonempty taken
  case finishes =>
    intro index job later found enough
    exact consistent.finishes found enough

-- The call of one thread, which gets no reply, overtaken by the other thread. The batch behind the
-- closing keeps the identifier of its first call.
example :
    let client : Client := ⟨.text "http://127.0.0.1:1337", .int 30, []⟩
    let lost : Except ExchangeFault Reply := .error (.network "reset")
    let batch : Operation := .batch [(.text "peerCount", .null), (.text "call", .text "0x")]
    let pool := run client {} [.start 0 (.call (.text "blockNumber") .null), .start 1 .nextId,
      .answer 1 lost, .answer 0 lost, .answer 0 lost, .answer 0 lost, .close, .start 1 batch,
      .answer 2 lost]
    pool.drawn = [1, 2, 3] ∧ pool.drawnBy 2 = [3] ∧ pool.sent.map (fun (index, sent) =>
      (index, sent.body)) = [(0, Text.ofString
        "\x7b\"jsonrpc\":\"2.0\",\"method\":\"blockNumber\",\"params\":[],\"id\":2\x7d")] := by
  decide +kernel

end Pool

end Rpc
end ChainClient
