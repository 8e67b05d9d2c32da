import ChainClient.Proofs.FanOut.Progress
import ChainClient.Proofs.Results
import Mathlib.Data.List.Forall2
import Mathlib.Data.List.Nodup
import Mathlib.Data.List.Range

/-!
# What a call leaves behind

When a call that fans out returns, every task has run to its end, each with a client of its own that
was closed behind it. The call tells what became of all items, or the misuse of the first item that
has one.
-/

namespace ChainClient
namespace FanOut

variable {α : Type}

/-! ## Calls -/

/-- With a worker, each item is worked on with a client of its own. -/
theorem plan_of_one_le
    {limit : Int}
    (positive : 1 ≤ limit)
    (items : List Datum)
    (task : Datum → Node.Task α) :
    plan (.int limit) (.list items) task =
      .ok (items.map fun item => withClient item (task item)) := by
  have enough : (Datum.int limit).isBelow? 1 = some false :=
    congrArg some (decide_eq_false (Int.not_lt.mpr positive))
  rw [plan, checkWorkers, enough]
  rfl

/-! ## Outcomes -/

/-- How a task ran: all that was asked and answered, and the result. -/
structure Run (α : Type) where
  trace : List (Exchange Node.interface)
  result : Outcome α

/-- What became of an item whose task ran. -/
def Run.outcome
    (item : Datum)
    (run : Run α) : Outcome (ItemOutcome α) :=
  ItemOutcome.of item run.result

/-- What a call reports of runs: what became of each item, in the order of the items, or, if some
runs ended with a misuse, that of the first of them. -/
inductive Reports
    (items : List Datum)
    (runs : List (Run α)) : Outcome (List (ItemOutcome α)) → Prop
  | all :
      (∀ run ∈ runs, FailsOnlyWith Failure.IsOwn run.result) →
      Reports items runs (.ok (List.zipWith (fun item run => ⟨item, run.result⟩) items runs))
  | first
      {front behind : List (Run α)}
      {run : Run α}
      {misuse : Misuse} :
      runs = front ++ run :: behind →
      (∀ other ∈ front, FailsOnlyWith Failure.IsOwn other.result) →
      run.result = .error (.misuse misuse) →
      Reports items runs (.error (.misuse misuse))

/-- A result is a misuse, or no failure but the library's own. -/
theorem misuse_or_failsOnlyWith_isOwn (result : Outcome α) :
    (∃ misuse, result = .error (.misuse misuse)) ∨ FailsOnlyWith Failure.IsOwn result := by
  cases result with
  | ok a => exact .inr (.ok a)
  | error failure =>
      cases failure with
      | misuse misuse => exact .inl ⟨misuse, rfl⟩
      | _ => exact .inr (.error trivial)

/-- The library's own failures are part of an item's outcome. -/
theorem ItemOutcome.of_eq_ok
    {result : Outcome α}
    (own : FailsOnlyWith Failure.IsOwn result)
    (item : Datum) :
    ItemOutcome.of item result = .ok ⟨item, result⟩ := by
  cases result with
  | ok a => rfl
  | error failure =>
      cases failure with
      | misuse misuse => exact (own _ rfl).elim
      | _ => rfl

theorem gather_cons_ok
    (outcome : ItemOutcome α)
    (outcomes : List (Outcome (ItemOutcome α))) :
    gather (.ok outcome :: outcomes) = (outcome :: ·) <$> gather outcomes := by
  rw [gather, List.mapM_cons]
  rfl

theorem gather_cons_error
    (failure : Failure)
    (outcomes : List (Outcome (ItemOutcome α))) :
    gather (.error failure :: outcomes) = .error failure := by
  rw [gather, List.mapM_cons]
  rfl

theorem gather_map_ok (outcomes : List (ItemOutcome α)) :
    gather (outcomes.map .ok) = .ok outcomes := by
  induction outcomes with
  | nil => rfl
  | cons outcome outcomes inductionHypothesis =>
      rw [List.map_cons, gather_cons_ok, inductionHypothesis]
      rfl

/-- The first failure is what is gathered. -/
theorem gather_append_error
    (outcomes : List (ItemOutcome α))
    (failure : Failure)
    (behind : List (Outcome (ItemOutcome α))) :
    gather (outcomes.map .ok ++ .error failure :: behind) = .error failure := by
  induction outcomes with
  | nil => exact gather_cons_error failure behind
  | cons outcome outcomes inductionHypothesis =>
      rw [List.map_cons, List.cons_append, gather_cons_ok, inductionHypothesis]
      rfl

/-- The outcomes that are gathered are a report. -/
theorem reports_gather
    {items : List Datum}
    {runs : List (Run α)}
    (length : runs.length = items.length) :
    Reports items runs (gather (List.zipWith (fun item run => run.outcome item) items runs)) := by
  induction items generalizing runs with
  | nil =>
      obtain rfl := List.eq_nil_of_length_eq_zero length
      exact .all nofun
  | cons item items inductionHypothesis =>
      obtain ⟨run, runs, rfl⟩ := List.exists_cons_of_length_eq_add_one length
      have shorter := Nat.succ.inj length
      rw [List.zipWith_cons_cons]
      rcases misuse_or_failsOnlyWith_isOwn run.result with ⟨misuse, ended⟩ | own
      · rw [Run.outcome, ended]
        change Reports _ _ (gather (.error (.misuse misuse) :: _))
        rw [gather_cons_error]
        exact .first (List.nil_append _).symm nofun ended
      · rw [Run.outcome, ItemOutcome.of_eq_ok own, gather_cons_ok]
        have reports := inductionHypothesis shorter
        generalize gather _ = gathered at reports ⊢
        cases reports with
        | all others => exact .all (List.forall_mem_cons.mpr ⟨own, others⟩)
        | @first front behind last _ split others ended =>
            have longer : run :: runs = (run :: front) ++ last :: behind := by
              rw [split, List.cons_append]
            exact .first longer (List.forall_mem_cons.mpr ⟨own, others⟩) ended

theorem injective_ended :
    (ended : Outcome α → Work α).Injective :=
  fun _ _ same => Interaction.done.inj same

/-- What the caller says when all works are done is what is gathered from their outcomes. -/
theorem IsAnnounced.eq_gather
    {outcomes : List (Outcome (ItemOutcome α))}
    {outcome : Outcome (List (ItemOutcome α))}
    (announced : IsAnnounced (outcomes.map ended) outcome) :
    outcome = gather outcomes := by
  cases outcome with
  | ok results =>
      have same : outcomes.map ended = (results.map Except.ok).map ended := by
        rw [List.map_map]
        exact announced
      rw [injective_ended.list_map same, gather_map_ok]
  | error failure =>
      obtain ⟨results, initial⟩ := announced
      have same : (results.map Except.ok ++ [Except.error failure]).map ended <+:
          outcomes.map ended := by
        rw [List.map_append, List.map_map]
        exact initial
      obtain ⟨behind, rfl⟩ := (List.prefix_map_iff_of_injective injective_ended).mp same
      rw [List.append_assoc, List.singleton_append, gather_append_error]

/-! ## Accounts -/

/-- All that is left behind by a call: the runs of the tasks, one for each item, with one client for
each of them. All that happened at the client is what its run asked, and then that it was closed, if
it can be. -/
structure Accounts
    (replies : Replies)
    (items : List Datum)
    (task : Datum → Node.Task α)
    (runs : List (Run α))
    (outcome : Outcome (List (ItemOutcome α)))
    (clients : List Client) : Prop where
  ran : List.Forall₂ (fun item run =>
    replies.Allows run.trace ∧ (task item).outcome.Yields run.trace run.result) items runs
  owners : (clients.map Client.owner).Perm (List.range items.length)
  histories : ∀ client ∈ clients, ∃ run, runs[client.owner]? = some run ∧
    client.events = run.trace.map .asked ++ Client.closing client.closable
  reports : Reports items runs outcome

namespace Crew

variable {replies : Replies} {items : List Datum} {task : Datum → Node.Task α}
  {crew : Crew (ItemOutcome α)}

/-- The job with the index has done the task of the item along a run, with a client of its own. -/
structure DidRun
    (replies : Replies)
    (item : Datum)
    (task : Node.Task α)
    (crew : Crew (ItemOutcome α))
    (index : Nat)
    (run : Run α) : Prop where
  allowed : replies.Allows run.trace
  yields : task.outcome.Yields run.trace run.result
  isClient : ∃ (place : Nat) (closable : Bool),
    crew.jobs[index]? = some ⟨some place, ended (run.outcome item)⟩ ∧
    crew.clients[place]? = some ⟨index, closable, run.trace.map .asked ++ Client.closing closable⟩

/-- Where all jobs are done, each of them has done its task along some run. -/
theorem IsSound.exists_didRun
    (sound : crew.IsSound replies items task)
    (done : ∀ job ∈ crew.jobs, job.isDone = true)
    (index : Fin items.length) :
    ∃ run, crew.DidRun replies items[index] (task items[index]) index run := by
  have isItem := List.getElem?_eq_getElem index.isLt
  have isJob := List.getElem?_eq_getElem (index.isLt.trans_eq sound.length_jobs.symm)
  obtain ⟨place, closable, trace, result, same, found, allowed, yields⟩ :=
    (sound.stage index _ _ isItem isJob).of_isDone (done _ (List.mem_of_getElem? isJob))
  exact ⟨⟨trace, result⟩, allowed, yields, place, closable,
    isJob.trans (congrArg some same), found⟩

/-- No job has two clients. -/
theorem IsSound.nodup_owners
    (sound : crew.IsSound replies items task) :
    (crew.clients.map Client.owner).Nodup := by
  rw [List.nodup_iff_getElem?_ne_getElem?]
  intro place other before within
  rw [List.length_map] at within
  have found := List.getElem?_eq_getElem (before.trans within)
  have otherFound := List.getElem?_eq_getElem within
  rw [List.getElem?_map, List.getElem?_map, found, otherFound]
  intro same
  obtain ⟨job, isJob, held⟩ := sound.owned _ _ found
  obtain ⟨otherJob, isOtherJob, otherHeld⟩ := sound.owned _ _ otherFound
  rw [Option.some.inj same, isOtherJob] at isJob
  rw [Option.some.inj isJob, held] at otherHeld
  exact Nat.ne_of_lt before (Option.some.inj otherHeld)

/-- The jobs have a client each, if all are done. -/
theorem IsSound.perm_owners
    (sound : crew.IsSound replies items task)
    (done : ∀ job ∈ crew.jobs, job.isDone = true) :
    (crew.clients.map Client.owner).Perm (List.range items.length) := by
  refine (List.perm_ext_iff_of_nodup sound.nodup_owners List.nodup_range).mpr fun index => ?_
  rw [List.mem_range, List.mem_map]
  constructor
  · rintro ⟨client, present, rfl⟩
    obtain ⟨place, found⟩ := List.getElem?_of_mem present
    obtain ⟨job, isJob, -⟩ := sound.owned place client found
    obtain ⟨within, -⟩ := List.getElem?_eq_some_iff.mp isJob
    exact within.trans_eq sound.length_jobs
  · intro within
    obtain ⟨run, -, -, place, closable, -, found⟩ := sound.exists_didRun done ⟨index, within⟩
    exact ⟨_, List.mem_of_getElem? found, rfl⟩

/-- All that happened at a client is what the run of its owner asked, and then that it was
closed. -/
theorem IsSound.events_eq
    (sound : crew.IsSound replies items task)
    {client : Client}
    (present : client ∈ crew.clients)
    {item : Datum}
    {run : Run α}
    (did : crew.DidRun replies item (task item) client.owner run) :
    client.events = run.trace.map .asked ++ Client.closing client.closable := by
  obtain ⟨spot, isClient⟩ := List.getElem?_of_mem present
  obtain ⟨job, isOwner, held⟩ := sound.owned spot client isClient
  obtain ⟨place, closable, isJob, found⟩ := did.isClient
  obtain rfl := Option.some.inj (isJob.symm.trans isOwner)
  cases held
  have same := Option.some.inj (found.symm.trans isClient)
  have closes := congrArg Client.closable same
  rw [← closes]
  exact (congrArg Client.events same).symm

/-- When the caller has returned, the accounts are settled. -/
theorem IsSound.exists_accounts
    (sound : crew.IsSound replies items task)
    {outcome : Outcome (List (ItemOutcome α))}
    (returned : crew.caller = .returned outcome) :
    ∃ runs, Accounts replies items task runs outcome crew.clients := by
  obtain ⟨-, done, announced⟩ := sound.knows_of_caller returned
  choose run did using sound.exists_didRun done
  refine ⟨List.ofFn run, ?_, sound.perm_owners done, ?_, ?_⟩
  · rw [List.forall₂_iff_get]
    refine ⟨List.length_ofFn.symm, fun index within _ => ?_⟩
    rw [List.get_ofFn]
    exact ⟨(did ⟨index, within⟩).allowed, (did ⟨index, within⟩).yields⟩
  · intro client present
    have isOwner : client.owner ∈ List.range items.length :=
      (sound.perm_owners done).mem_iff.mp (List.mem_map_of_mem present)
    have within := List.mem_range.mp isOwner
    refine ⟨run ⟨client.owner, within⟩, ?_, sound.events_eq present (did ⟨client.owner, within⟩)⟩
    rw [List.getElem?_ofFn, dif_pos within]
  · have rests : crew.jobs.map Job.rest = (List.zipWith (fun item run => run.outcome item) items
        (List.ofFn run)).map ended := by
      refine List.ext_getElem (by simp [sound.length_jobs]) fun index before behind => ?_
      rw [List.length_map, sound.length_jobs] at before
      obtain ⟨place, closable, isJob, -⟩ := (did ⟨index, before⟩).isClient
      obtain ⟨_, same⟩ := List.getElem?_eq_some_iff.mp isJob
      rw [List.getElem_map, List.getElem_map, List.getElem_zipWith, List.getElem_ofFn, same]
      rfl
    rw [rests] at announced
    rw [announced.eq_gather]
    exact reports_gather List.length_ofFn

end Crew

/-! ## Returns -/

/-- A call with works returns what its crew returns. -/
theorem Returns.exists_accounts
    {limit : Int}
    {replies : Replies}
    {items : List Datum}
    {task : Datum → Node.Task α}
    {outcome : Outcome (List (ItemOutcome α))}
    {clients : List Client}
    (returns : Returns limit replies
      (.ok (items.map fun item => withClient item (task item))) outcome clients) :
    ∃ runs, Accounts replies items task runs outcome clients := by
  generalize planned : items.map (fun item => withClient item (task item)) = works at returns
  cases returns with
  | nothing =>
      obtain rfl := List.map_eq_nil_iff.mp planned
      exact ⟨[], .nil, .nil, nofun, .all nofun⟩
  | worked _ reaches returned =>
      subst planned
      exact (Crew.isSound_start.reaches reaches).exists_accounts returned

end FanOut
end ChainClient
