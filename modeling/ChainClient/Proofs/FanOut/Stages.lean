import ChainClient.Proofs.FanOut.Crews

/-!
# Stages of a job

The work on an item makes a client, does the task with it, and closes it. What a job has done so
far is told by the events of its client, and no job touches the client of another.
-/

namespace ChainClient
namespace FanOut

variable {α : Type}

/-- The work on an item once its client was made, with what is left of the task. -/
def finishing
    (item : Datum)
    (left : Interaction Node.interface (Outcome α)) : Work (ItemOutcome α) :=
  (left.interpret fun question => .question (I := interface) (.node question)).bind fun result =>
    .ask Question.closeClient fun _ => .done (ItemOutcome.of item result)

/-- How far the job of an item has come. -/
inductive Stage
    (replies : Replies)
    (item : Datum)
    (task : Node.Task α)
    (index : Nat)
    (clients : List Client) : Job (ItemOutcome α) → Prop
  | ready :
      Stage replies item task index clients ⟨none, withClient item task⟩
  | working
      {place : Nat}
      {closable : Bool}
      {trace : List (Exchange Node.interface)}
      {left : Interaction Node.interface (Outcome α)} :
      clients[place]? = some ⟨index, closable, trace.map .asked⟩ →
      replies.Allows trace →
      task.outcome.Leaves trace left →
      Stage replies item task index clients ⟨some place, finishing item left⟩
  | finished
      {place : Nat}
      {closable : Bool}
      {trace : List (Exchange Node.interface)}
      {result : Outcome α} :
      clients[place]? = some ⟨index, closable, trace.map .asked ++ Client.closing closable⟩ →
      replies.Allows trace →
      task.outcome.Yields trace result →
      Stage replies item task index clients ⟨some place, .done (ItemOutcome.of item result)⟩

variable {replies : Replies} {item : Datum} {task : Node.Task α} {index : Nat}
  {clients made : List Client} {job after : Job (ItemOutcome α)}

theorem log_map_asked
    (owner : Nat)
    (closable : Bool)
    (trace : List (Exchange Node.interface))
    (exchange : Exchange Node.interface) :
    Client.log ⟨owner, closable, trace.map .asked⟩ exchange =
      ⟨owner, closable, (trace ++ [exchange]).map .asked⟩ := by
  rw [Client.log, List.map_append, List.map_singleton]

/-- The exchanges of a client that was only asked. -/
theorem exchanges_map_asked
    (owner : Nat)
    (closable : Bool)
    (trace : List (Exchange Node.interface)) :
    Client.exchanges ⟨owner, closable, trace.map .asked⟩ = trace := by
  rw [Client.exchanges, List.filterMap_map]
  exact List.filterMap_some

/-- What a client was asked, if all that happened behind it is that it was closed. -/
theorem Client.exchanges_of_events
    (client : Client)
    {trace : List (Exchange Node.interface)}
    {closable : Bool}
    (events : client.events = trace.map .asked ++ closing closable) :
    client.exchanges = trace := by
  have closed : (closing closable).filterMap Event.exchange? = [] := by
    cases closable with
    | true => rfl
    | false => rfl
  rw [exchanges, events, List.filterMap_append, closed, List.append_nil]
  exact exchanges_map_asked client.owner closable trace

theorem getElem?_set_self_of_getElem?_eq_some
    {β : Type}
    {l : List β}
    {place : Nat}
    {old : β}
    (present : l[place]? = some old)
    (new : β) :
    (l.set place new)[place]? = some new := by
  obtain ⟨within, -⟩ := List.getElem?_eq_some_iff.mp present
  exact List.getElem?_set_self within

/-- What a question of a job does to the clients: it makes the job's client, or something happens at
the client that the job has. -/
inductive Changes
    (index : Nat)
    (clients : List Client) : Option Nat → Option Nat → List Client → Prop
  | makes
      (closable : Bool) :
      Changes index clients none (some clients.length) (clients ++ [⟨index, closable, []⟩])
  | updates
      {place : Nat}
      {old new : Client} :
      clients[place]? = some old →
      old.owner = index →
      new.owner = index →
      Changes index clients (some place) (some place) (clients.set place new)

/-- What a job at a stage does next takes it to a stage, and changes no client but its own. -/
theorem Acts.keeps
    (acts : Acts replies index clients job after made)
    (stage : Stage replies item task index clients job) :
    Stage replies item task index made after ∧
      Changes index clients job.client after.client made := by
  cases stage with
  | ready =>
      change Acts replies index clients
        ⟨none, .ask Question.openClient fun _ => finishing item task.outcome⟩ after made at acts
      cases acts with
      | openClient closable =>
          have found : (clients ++ [⟨index, closable, []⟩])[clients.length]? =
              some ⟨index, closable, [].map .asked⟩ := List.getElem?_concat_length
          exact ⟨.working found .nil (.start _), .makes closable⟩
  | @working place closable trace left found allowed leaves =>
      cases left with
      | done result =>
          change Acts replies index clients
            ⟨some place, .ask Question.closeClient fun _ => .done (ItemOutcome.of item result)⟩
            after made at acts
          cases acts with
          | closeClient present =>
              obtain rfl := Option.some.inj (found.symm.trans present)
              have closed := getElem?_set_self_of_getElem?_eq_some present
                (⟨index, closable, trace.map .asked⟩ : Client).close
              have yields := leaves.yields (.done result)
              rw [List.append_nil] at yields
              exact ⟨.finished closed allowed yields, .updates found rfl rfl⟩
      | ask question next =>
          change Acts replies index clients
            ⟨some place, .ask (Question.node question) fun answer => finishing item (next answer)⟩
            after made at acts
          cases acts with
          | @answer _ _ _ _ given present reply =>
              obtain rfl := Option.some.inj (found.symm.trans present)
              rw [exchanges_map_asked] at reply
              have asked := getElem?_set_self_of_getElem?_eq_some present
                (Client.log ⟨index, closable, trace.map .asked⟩ ⟨question, given⟩)
              rw [log_map_asked] at asked ⊢
              exact ⟨.working asked (.snoc allowed reply) (leaves.answer given),
                .updates found rfl rfl⟩
  | finished => cases acts

namespace Changes

variable {before behind : Option Nat} {place : Nat} {client : Client}

/-- The clients of other jobs stay as they are. -/
theorem getElem?_of_ne
    (changes : Changes index clients before behind made)
    (present : clients[place]? = some client)
    (other : client.owner ≠ index) :
    made[place]? = some client := by
  cases changes with
  | makes closable =>
      obtain ⟨within, -⟩ := List.getElem?_eq_some_iff.mp present
      rw [List.getElem?_append_left within]
      exact present
  | @updates own old new found owned _ =>
      have apart : own ≠ place := by
        rintro rfl
        obtain rfl := Option.some.inj (found.symm.trans present)
        exact other owned
      rw [List.getElem?_set_ne apart]
      exact present

/-- A client there is now is the job's own, or was there before. -/
theorem eq_or_getElem?
    (changes : Changes index clients before behind made)
    (present : made[place]? = some client) :
    (client.owner = index ∧ behind = some place) ∨
      (clients[place]? = some client ∧ before ≠ some place) := by
  cases changes with
  | makes closable =>
      rw [List.getElem?_append] at present
      split at present
      · exact .inr ⟨present, nofun⟩
      · next outside =>
          obtain ⟨within, same⟩ := List.getElem?_eq_some_iff.mp present
          rw [List.length_singleton, Nat.lt_one_iff] at within
          refine .inl ⟨?_, ?_⟩
          · rw [← same, List.getElem_singleton]
          · rw [show clients.length = place by omega]
  | @updates own old new found owned keeps =>
      by_cases apart : own = place
      · subst apart
        rw [getElem?_set_self_of_getElem?_eq_some found] at present
        obtain rfl := Option.some.inj present
        exact .inl ⟨keeps, rfl⟩
      · rw [List.getElem?_set_ne apart] at present
        exact .inr ⟨present, fun same => apart (Option.some.inj same)⟩

end Changes

/-- A stage is a matter of the job's own client. -/
theorem Stage.of_clients
    (stage : Stage replies item task index clients job)
    (kept : ∀ (place : Nat) (client : Client), clients[place]? = some client →
      client.owner = index → made[place]? = some client) :
    Stage replies item task index made job := by
  cases stage with
  | ready => exact .ready
  | working found allowed leaves => exact .working (kept _ _ found rfl) allowed leaves
  | finished found allowed yields => exact .finished (kept _ _ found rfl) allowed yields

/-- A job that is not done can act. -/
theorem Stage.exists_acts
    (stage : Stage replies item task index clients job)
    (unfinished : job.isDone = false) :
    ∃ after made, Acts replies index clients job after made := by
  cases stage with
  | ready => exact ⟨_, _, .openClient true⟩
  | @working place closable trace left found allowed leaves =>
      cases left with
      | done result => exact ⟨_, _, .closeClient found⟩
      | ask question next =>
          obtain ⟨answer, reply⟩ := replies.total
            (Client.exchanges ⟨index, closable, trace.map .asked⟩) question
          exact ⟨_, _, .answer found reply⟩
  | finished => cases unfinished

/-- A job that is done has done its task to the end, and closed its client behind it. -/
theorem Stage.of_isDone
    (stage : Stage replies item task index clients job)
    (finished : job.isDone = true) :
    ∃ place closable trace result,
      job = ⟨some place, .done (ItemOutcome.of item result)⟩ ∧
      clients[place]? = some ⟨index, closable, trace.map .asked ++ Client.closing closable⟩ ∧
      replies.Allows trace ∧ task.outcome.Yields trace result := by
  cases stage with
  | ready => cases finished
  | @working place closable trace left found allowed leaves =>
      cases left with
      | done result => cases finished
      | ask question next => cases finished
  | @finished place closable trace result found allowed yields =>
      exact ⟨place, closable, trace, result, rfl, found, allowed, yields⟩

end FanOut
end ChainClient
