import ChainClient.Proofs.Confirmation.Submitting
import ChainClient.Proofs.FanOut.Accounts

/-!
# Items on their own

Clients that start alike and answer by one handler make what becomes of an item a matter of the item
alone: its task runs as it would with a fresh client and nothing around it. So a call that fans out
gives what doing one item after the other gives, whatever the number of workers.
-/

namespace ChainClient

namespace Interaction

variable {I : Interface} {α σ : Type}

/-- All that is asked and answered in given surroundings. -/
def traceIn (handle : Handler I σ) : Interaction I α → σ → List (Exchange I)
  | done _, _ => []
  | ask question next, state =>
    ⟨question, (handle question state).1⟩ ::
      (next (handle question state).1).traceIn handle (handle question state).2

/-- The surroundings after exchanges. -/
def stateAfter
    (handle : Handler I σ)
    (trace : List (Exchange I))
    (state : σ) : σ :=
  trace.foldl (fun state exchange => (handle exchange.question state).2) state

/-- The answers of a trace are those of the surroundings. -/
def Follows (handle : Handler I σ) : List (Exchange I) → σ → Prop
  | [], _ => True
  | exchange :: trace, state =>
    exchange.answer = (handle exchange.question state).1 ∧
      Follows handle trace (handle exchange.question state).2

theorem follows_append_iff
    {handle : Handler I σ}
    {front behind : List (Exchange I)}
    {state : σ} :
    Follows handle (front ++ behind) state ↔
      Follows handle front state ∧ Follows handle behind (stateAfter handle front state) := by
  induction front generalizing state with
  | nil => simp [Follows, stateAfter]
  | cons exchange front inductionHypothesis =>
      simp only [List.cons_append, Follows, inductionHypothesis, and_assoc]
      rfl

/-- A trace that follows surroundings is the trace in them, with the result that they lead to. -/
theorem Yields.eq_run
    {x : Interaction I α}
    {trace : List (Exchange I)}
    {result : α}
    (yields : x.Yields trace result)
    {handle : Handler I σ}
    {state : σ}
    (follows : Follows handle trace state) :
    trace = x.traceIn handle state ∧ result = (x.run handle state).1 := by
  induction yields generalizing state with
  | done result => exact ⟨rfl, rfl⟩
  | @ask question next answer trace result yields inductionHypothesis =>
      obtain ⟨same, follows⟩ := follows
      dsimp only at same follows
      subst same
      obtain ⟨sameTrace, sameResult⟩ := inductionHypothesis follows
      refine ⟨?_, sameResult⟩
      rw [traceIn, ← sameTrace]

end Interaction

namespace FanOut

variable {α σ : Type}

/-! ## Clients that start alike -/

/-- The answers of clients that all start in the same state and answer by the same handler. -/
def Replies.ofHandler
    (handle : Handler Node.interface σ)
    (fresh : σ) : Replies where
  allows history question answer :=
    answer = (handle question (Interaction.stateAfter handle history fresh)).1
  total := fun _ _ => ⟨_, rfl⟩

theorem Replies.Allows.follows
    {handle : Handler Node.interface σ}
    {fresh : σ}
    {trace : List (Exchange Node.interface)}
    (allowed : (Replies.ofHandler handle fresh).Allows trace) :
    Interaction.Follows handle trace fresh := by
  induction allowed with
  | nil => trivial
  | snoc _ reply inductionHypothesis =>
      exact Interaction.follows_append_iff.mpr ⟨inductionHypothesis, reply, trivial⟩

/-- What a task gives with a fresh client and nothing around it. -/
def resultAlone
    (handle : Handler Node.interface σ)
    (fresh : σ)
    (task : Node.Task α) : Outcome α :=
  (task.outcome.run handle fresh).1

/-- What a task asks of a fresh client with nothing around it, with the answers. -/
def requestsAlone
    (handle : Handler Node.interface σ)
    (fresh : σ)
    (task : Node.Task α) : List (Exchange Node.interface) :=
  task.outcome.traceIn handle fresh

/-- What becomes of each item on its own, in the order of the items. -/
def outcomesAlone
    (handle : Handler Node.interface σ)
    (fresh : σ)
    (task : Datum → Node.Task α)
    (items : List Datum) : List (ItemOutcome α) :=
  items.map fun item => ⟨item, resultAlone handle fresh (task item)⟩

/-- The surroundings of the work on one item: a client that answers by the handler. -/
def ownClient (handle : Handler Node.interface σ) : Handler interface (σ × Unit)
  | .openClient, state => ((), state)
  | .node question, (state, shared) =>
    ((handle question state).1, ((handle question state).2, shared))
  | .closeClient, state => ((), state)

/-! ## One item after the other -/

variable {handle : Handler Node.interface σ} {fresh : σ} {items : List Datum}
  {task : Datum → Node.Task α}

theorem run_finishing
    (item : Datum)
    (left : Interaction Node.interface (Outcome α))
    (state : σ) :
    (finishing item left).run (ownClient handle) (state, ()) =
      (ItemOutcome.of item (left.run handle state).1, (left.run handle state).2, ()) := by
  induction left generalizing state with
  | done result => rfl
  | ask question next inductionHypothesis => exact inductionHypothesis _ _

/-- Where all work is done one item after the other, each task runs on its own. -/
theorem runAll_map_withClient :
    (runAll (ownClient handle) fresh (items.map fun item => withClient item (task item)) ()).1.map
        Prod.fst =
      items.map fun item => ItemOutcome.of item (resultAlone handle fresh (task item)) := by
  induction items with
  | nil => rfl
  | cons item items inductionHypothesis =>
      have alone : (withClient item (task item)).run (ownClient handle) (fresh, ()) = _ :=
        run_finishing item (task item).outcome fresh
      simp only [List.map_cons, runAll, alone, inductionHypothesis]
      rfl

/-- Without misuse, what is gathered are the outcomes of the items on their own. -/
theorem gather_map_resultAlone
    (own : ∀ item ∈ items, FailsOnlyWith Failure.IsOwn (resultAlone handle fresh (task item))) :
    gather (items.map fun item => ItemOutcome.of item (resultAlone handle fresh (task item))) =
      .ok (outcomesAlone handle fresh task items) := by
  rw [outcomesAlone, ← gather_map_ok, List.map_map]
  congr 1
  refine List.map_congr_left fun item present => ?_
  exact ItemOutcome.of_eq_ok (own item present) item

/-! ## All items at a time -/

/-- Each task ran as it does on its own. -/
theorem Accounts.eq_alone
    {runs : List (Run α)}
    {outcome : Outcome (List (ItemOutcome α))}
    {clients : List Client}
    (accounts : Accounts (.ofHandler handle fresh) items task runs outcome clients) :
    runs = items.map fun item =>
      ⟨requestsAlone handle fresh (task item), resultAlone handle fresh (task item)⟩ := by
  obtain ⟨ran, -, -, -⟩ := accounts
  induction ran with
  | nil => rfl
  | @cons item run items runs ran _ inductionHypothesis =>
      obtain ⟨allowed, yields⟩ := ran
      obtain ⟨sameTrace, sameResult⟩ := yields.eq_run allowed.follows
      rw [List.map_cons, inductionHypothesis]
      obtain ⟨trace, result⟩ := run
      congr 1
      congr 1

/-- Without misuse, the outcomes are those of the items on their own. -/
theorem Accounts.outcome_eq
    (own : ∀ item ∈ items, FailsOnlyWith Failure.IsOwn (resultAlone handle fresh (task item)))
    {runs : List (Run α)}
    {outcome : Outcome (List (ItemOutcome α))}
    {clients : List Client}
    (accounts : Accounts (.ofHandler handle fresh) items task runs outcome clients) :
    outcome = .ok (outcomesAlone handle fresh task items) := by
  have alone := accounts.eq_alone
  cases accounts.reports with
  | all _ =>
      rw [alone, List.zipWith_map_right, List.zipWith_self]
      rfl
  | @first front behind run misuse split _ ended =>
      have present : run ∈ runs := by simp [split]
      rw [alone] at present
      obtain ⟨item, isItem, rfl⟩ := List.mem_map.mp present
      exact (own item isItem _ ended).elim

/-- What a client was asked is what its item asks on its own. -/
theorem Accounts.exchanges_eq
    {runs : List (Run α)}
    {outcome : Outcome (List (ItemOutcome α))}
    {clients : List Client}
    (accounts : Accounts (.ofHandler handle fresh) items task runs outcome clients)
    {client : Client}
    (present : client ∈ clients) :
    ∃ item, items[client.owner]? = some item ∧
      client.exchanges = requestsAlone handle fresh (task item) := by
  obtain ⟨run, isRun, events⟩ := accounts.histories client present
  rw [accounts.eq_alone, List.getElem?_map, Option.map_eq_some_iff] at isRun
  obtain ⟨item, isItem, rfl⟩ := isRun
  exact ⟨item, isItem, client.exchanges_of_events events⟩

/-- A call gives for each item what its task gives on its own, in the order of the items, and so
what doing one item after the other gives. It returns in the end, and whenever it does, each client
was asked what its item asks on its own. -/
structure MapsAlone
    (limit : Int)
    (handle : Handler Node.interface σ)
    (fresh : σ)
    (items : List Datum)
    (task : Datum → Node.Task α)
    (planned : Except Misuse (List (Work (ItemOutcome α)))) : Prop where
  sequential : ∃ works, planned = .ok works ∧
    Crew.Ends limit (.ofHandler handle fresh) (.start works) ∧
    gather ((runAll (ownClient handle) fresh works ()).1.map Prod.fst) =
      .ok (outcomesAlone handle fresh task items)
  returns : ∃ clients, Returns limit (.ofHandler handle fresh) planned
    (.ok (outcomesAlone handle fresh task items)) clients
  always : ∀ outcome clients, Returns limit (.ofHandler handle fresh) planned outcome clients →
    outcome = .ok (outcomesAlone handle fresh task items) ∧
    (clients.map Client.owner).Perm (List.range items.length) ∧
    ∀ client ∈ clients, ∃ item, items[client.owner]? = some item ∧
      client.exchanges = requestsAlone handle fresh (task item)

theorem mapsAlone_plan
    {limit : Int}
    (positive : 1 ≤ limit)
    (own : ∀ item ∈ items, FailsOnlyWith Failure.IsOwn (resultAlone handle fresh (task item))) :
    MapsAlone limit handle fresh items task (plan (.int limit) (.list items) task) := by
  have planned := plan_of_one_le positive items task
  have ends : Crew.Ends limit (.ofHandler handle fresh)
      (.start (items.map fun item => withClient item (task item))) :=
    Crew.isSound_start.ends positive
  refine ⟨⟨_, planned, ends, ?_⟩, ?_, ?_⟩
  · rw [runAll_map_withClient, gather_map_resultAlone own]
  · rw [planned]
    by_cases empty : items = []
    · subst empty
      exact ⟨[], .nothing⟩
    · obtain ⟨later, outcome, reaches, returned⟩ := ends.exists_returned
      have returns : Returns limit (.ofHandler handle fresh) _ outcome later.clients :=
        .worked (mt List.map_eq_nil_iff.mp empty) reaches returned
      obtain ⟨runs, accounts⟩ := returns.exists_accounts
      obtain rfl := accounts.outcome_eq own
      exact ⟨later.clients, returns⟩
  · intro outcome clients returns
    rw [planned] at returns
    obtain ⟨runs, accounts⟩ := returns.exists_accounts
    exact ⟨accounts.outcome_eq own, accounts.owners, fun _ => accounts.exchanges_eq⟩

/-- The call that submits an envelope. -/
def submitCall (envelope : Datum) : Node.Call :=
  ("sendRawTransaction", [envelope])

/-- A submission that is no misuse is one call, with the envelope as it was given. -/
theorem calls_requestsAlone_submit
    {envelope : Datum}
    (own : FailsOnlyWith Failure.IsOwn (resultAlone handle fresh (Node.submit envelope))) :
    ∃ reply, Node.calls (requestsAlone handle fresh (Node.submit envelope)) =
      [(submitCall envelope, reply)] := by
  cases envelope with
  | text t =>
      rw [requestsAlone, Node.submit_eq]
      exact ⟨_, rfl⟩
  | null | bool | int | float | bytes | list | record => exact (own _ rfl).elim

/-- Fanning out gives what the items give on their own: for every list of items, every number of
workers from one on, every order in which the jobs go on, and all clients that start alike and
answer by one handler, about the wish to stop as about all else, as long as no task ends with a
misuse. Outcomes stand in the order of the items, and neither an item's outcome nor what its client
is asked depends on the other items or on the number of workers. Each envelope is sent once, by the
client that was made for it. -/
theorem fanOut_eq_map
    {limit : Int}
    (positive : 1 ≤ limit)
    (handle : Handler Node.interface σ)
    (fresh : σ)
    (items : List Datum)
    (policy : Option ReceiptPolicy) :
    ((∀ item ∈ items, FailsOnlyWith Failure.IsOwn (resultAlone handle fresh (Node.submit item))) →
      MapsAlone limit handle fresh items Node.submit (submitMany (.int limit) (.list items)) ∧
      ∀ outcome clients,
        Returns limit (.ofHandler handle fresh) (submitMany (.int limit) (.list items)) outcome
          clients →
        ∀ client ∈ clients, ∃ envelope reply, items[client.owner]? = some envelope ∧
          Node.calls client.exchanges = [(submitCall envelope, reply)]) ∧
    ((∀ item ∈ items,
        FailsOnlyWith Failure.IsOwn (resultAlone handle fresh (Confirmation.wait item policy))) →
      MapsAlone limit handle fresh items (fun txHash => Confirmation.wait txHash policy)
        (confirmMany (.int limit) (.list items) policy)) := by
  refine ⟨fun own => ?_, mapsAlone_plan positive⟩
  have maps : MapsAlone limit handle fresh items Node.submit
      (submitMany (.int limit) (.list items)) := mapsAlone_plan positive own
  refine ⟨maps, fun outcome clients returns client present => ?_⟩
  obtain ⟨-, -, requests⟩ := maps.always outcome clients returns
  obtain ⟨envelope, isItem, asked⟩ := requests client present
  obtain ⟨reply, calls⟩ := calls_requestsAlone_submit (own envelope (List.mem_of_getElem? isItem))
  exact ⟨envelope, reply, isItem, by rw [asked, calls]⟩

/-- A client that counts its calls, refuses the second and every later one, and has no exchange
about "0xbb". -/
def counting : Handler Node.interface Nat
  | .call _ params, calls =>
    (match params with
      | [.text t] =>
        if t = "0xbb" then .error (.transport ⟨"no route", .null, .null, .null⟩)
        else if calls = 0 then .ok (.text t)
        else .error (.outcome ⟨.unusable, "refused", .null, .null⟩)
      | _ => .error (.misuse (.wrongKind none)), calls + 1)
  | .cancelled, calls => (false, calls)
  | .pause interval, calls => (Node.pauseAnswer interval false false, calls)

/-- Three items, the last of which is the first one again. -/
def countedItems : List Datum :=
  [.text "0xaa", .text "0xbb", .text "0xaa"]

theorem fanOut_eq_map_counted :
    MapsAlone 2 counting 0 countedItems Node.submit
      (submitMany (.int 2) (.list countedItems)) ∧
    MapsAlone 2 counting 0 countedItems
      (fun txHash => Confirmation.wait txHash (some ⟨.int 0, 2, by decide⟩))
      (confirmMany (.int 2) (.list countedItems) (some ⟨.int 0, 2, by decide⟩)) := by
  obtain ⟨submits, confirms⟩ :=
    fanOut_eq_map (by decide : (1 : Int) ≤ 2) counting 0 countedItems
      (some ⟨.int 0, 2, by decide⟩)
  refine ⟨(submits ?_).1, confirms ?_⟩
  · have sent : FailsOnlyWith Failure.IsOwn
        (resultAlone counting 0 (Node.submit (.text "0xaa"))) := .ok _
    have lost : FailsOnlyWith Failure.IsOwn
        (resultAlone counting 0 (Node.submit (.text "0xbb"))) := .error trivial
    exact List.forall_mem_cons.mpr ⟨sent, List.forall_mem_cons.mpr
      ⟨lost, List.forall_mem_singleton.mpr sent⟩⟩
  · have unusable : FailsOnlyWith Failure.IsOwn (resultAlone counting 0
        (Confirmation.wait (.text "0xaa") (some ⟨.int 0, 2, by decide⟩))) := .error trivial
    have timedOut : FailsOnlyWith Failure.IsOwn (resultAlone counting 0
        (Confirmation.wait (.text "0xbb") (some ⟨.int 0, 2, by decide⟩))) := .ok _
    exact List.forall_mem_cons.mpr ⟨unusable, List.forall_mem_cons.mpr
      ⟨timedOut, List.forall_mem_singleton.mpr unusable⟩⟩

end FanOut
end ChainClient
