import ChainClient.Proofs.FanOut.Stages
import Mathlib.Data.List.Infix

/-!
# Crews on their way

What holds of a crew at any time: each job is at a stage, each client is the one client of the job
that it was made for, and the caller knows the results of the first jobs. From this it follows that
a crew with a worker never gets stuck.
-/

namespace ChainClient
namespace FanOut

variable {α : Type}

/-! ## What the caller knows -/

/-- What is left of a work that was done with an outcome. -/
def ended (outcome : Outcome α) : Work α :=
  .done outcome

/-- What is left of a work that was done without a failure. -/
def won (result : α) : Work α :=
  ended (.ok result)

/-- What the caller says of the works is so: all of them were done with these results, or this is
the failure of the first that failed. -/
def IsAnnounced (rests : List (Work α)) : Outcome (List α) → Prop
  | .ok results => rests = results.map won
  | .error failure => ∃ results : List α, results.map won ++ [ended (.error failure)] <+: rests

namespace Crew

/-- What the caller has come to know is so. -/
def Knows (crew : Crew α) : Caller α → Prop
  | .collecting results => results.map won <+: crew.jobs.map Job.rest
  | .leaving outcome =>
      crew.submitted = crew.jobs.length ∧ IsAnnounced (crew.jobs.map Job.rest) outcome
  | .returned outcome =>
      crew.begun = crew.jobs.length ∧ (∀ job ∈ crew.jobs, job.isDone = true) ∧
        IsAnnounced (crew.jobs.map Job.rest) outcome

end Crew

/-- A prefix of things of one kind is not touched where something of another kind is replaced. -/
theorem prefix_set
    {β : Type}
    {kind : β → Prop}
    {front l : List β}
    {index : Nat}
    {old : β}
    (initial : front <+: l)
    (all : ∀ b ∈ front, kind b)
    (present : l[index]? = some old)
    (other : ¬ kind old)
    (new : β) :
    front <+: l.set index new := by
  obtain ⟨behind, rfl⟩ := initial
  have outside : front.length ≤ index := by
    by_contra within
    rw [List.getElem?_append_left (Nat.lt_of_not_le within)] at present
    exact other (all old (List.mem_of_getElem? present))
  rw [List.set_append_right _ _ outside]
  exact List.prefix_append _ _

theorem isDone_of_mem_map_won
    {results : List α}
    {rest : Work α}
    (present : rest ∈ results.map won) :
    IsDone rest := by
  obtain ⟨result, -, rfl⟩ := List.mem_map.mp present
  exact ⟨_, rfl⟩

/-- What the caller says stays so when a work that is not done goes on. -/
theorem IsAnnounced.set
    {rests : List (Work α)}
    {outcome : Outcome (List α)}
    {index : Nat}
    {rest : Work α}
    (announced : IsAnnounced rests outcome)
    (present : rests[index]? = some rest)
    (unfinished : ¬ IsDone rest)
    (after : Work α) :
    IsAnnounced (rests.set index after) outcome := by
  cases outcome with
  | ok results =>
      rw [IsAnnounced] at announced
      subst announced
      exact absurd (isDone_of_mem_map_won (List.mem_of_getElem? present)) unfinished
  | error failure =>
      obtain ⟨results, initial⟩ := announced
      refine ⟨results, prefix_set initial ?_ present unfinished after⟩
      intro other isFirst
      rcases List.mem_append.mp isFirst with isWon | isLast
      · exact isDone_of_mem_map_won isWon
      · exact ⟨_, List.mem_singleton.mp isLast⟩

namespace Crew

/-! ## Sound crews -/

/-- What holds of a crew that works on items at any time. -/
structure IsSound
    (replies : Replies)
    (items : List Datum)
    (task : Datum → Node.Task α)
    (crew : Crew (ItemOutcome α)) : Prop where
  length_jobs : crew.jobs.length = items.length
  begun_le : crew.begun ≤ crew.submitted
  submitted_le : crew.submitted ≤ crew.jobs.length
  workers_pos : 0 < crew.submitted → 0 < crew.workers
  stage : ∀ index item job, items[index]? = some item → crew.jobs[index]? = some job →
    Stage replies item (task item) index crew.clients job
  owned : ∀ (place : Nat) (client : Client), crew.clients[place]? = some client →
    ∃ job, crew.jobs[client.owner]? = some job ∧ job.client = some place
  knows : crew.Knows crew.caller

variable {limit : Int} {replies : Replies} {items : List Datum} {task : Datum → Node.Task α}
  {crew next : Crew (ItemOutcome α)}

theorem isSound_start :
    (Crew.start (items.map fun item => withClient item (task item))).IsSound replies items
      task where
  length_jobs := by simp [start]
  begun_le := Nat.le_refl 0
  submitted_le := Nat.zero_le _
  workers_pos := nofun
  stage := by
    intro index item job isItem isJob
    simp only [start, List.map_map, List.getElem?_map, isItem, Option.map_some,
      Option.some.injEq] at isJob
    subst isJob
    exact .ready
  owned := nofun
  knows := List.nil_prefix

theorem IsSound.knows_of_caller
    (sound : crew.IsSound replies items task)
    {caller : Caller (ItemOutcome α)}
    (current : crew.caller = caller) :
    crew.Knows caller := by
  rw [← current]
  exact sound.knows

/-- The item of a job. -/
theorem IsSound.exists_item
    (sound : crew.IsSound replies items task)
    {index : Nat}
    {job : Job (ItemOutcome α)}
    (present : crew.jobs[index]? = some job) :
    ∃ item, items[index]? = some item := by
  obtain ⟨within, -⟩ := List.getElem?_eq_some_iff.mp present
  rw [sound.length_jobs] at within
  exact ⟨_, List.getElem?_eq_getElem within⟩

/-! ### Moves -/

theorem IsSound.submit
    (sound : crew.IsSound replies items task)
    (unsubmitted : crew.submitted < crew.jobs.length)
    {workers : Nat}
    (staffed : 0 < workers) :
    { crew with submitted := crew.submitted + 1, workers := workers }.IsSound replies items
      task where
  length_jobs := sound.length_jobs
  begun_le := Nat.le_succ_of_le sound.begun_le
  submitted_le := unsubmitted
  workers_pos := fun _ => staffed
  stage := sound.stage
  owned := sound.owned
  knows := by
    have order := sound.begun_le
    cases caller : crew.caller with
    | collecting results => exact sound.knows_of_caller caller
    | leaving outcome =>
        exact absurd (sound.knows_of_caller caller).1 (Nat.ne_of_lt unsubmitted)
    | returned outcome =>
        have all := (sound.knows_of_caller caller).1
        omega

theorem IsSound.begin
    (sound : crew.IsSound replies items task)
    (unbegun : crew.begun < crew.submitted) :
    { crew with begun := crew.begun + 1 }.IsSound replies items task where
  length_jobs := sound.length_jobs
  begun_le := unbegun
  submitted_le := sound.submitted_le
  workers_pos := sound.workers_pos
  stage := sound.stage
  owned := sound.owned
  knows := by
    have order := sound.submitted_le
    cases caller : crew.caller with
    | collecting results => exact sound.knows_of_caller caller
    | leaving outcome => exact sound.knows_of_caller caller
    | returned outcome =>
        have all := (sound.knows_of_caller caller).1
        omega

/-- The caller may go on with whatever it knows. -/
theorem IsSound.withCaller
    (sound : crew.IsSound replies items task)
    {caller : Caller (ItemOutcome α)}
    (knows : crew.Knows caller) :
    { crew with caller := caller }.IsSound replies items task where
  length_jobs := sound.length_jobs
  begun_le := sound.begun_le
  submitted_le := sound.submitted_le
  workers_pos := sound.workers_pos
  stage := sound.stage
  owned := sound.owned
  knows := knows

/-- What the caller knows stays so when a job acts. -/
theorem Knows.set
    {crew : Crew α}
    {caller : Caller α}
    {index : Nat}
    {job : Job α}
    (knows : crew.Knows caller)
    (present : crew.jobs[index]? = some job)
    (unfinished : ¬ IsDone job.rest)
    (after : Job α)
    (clients : List Client) :
    { crew with jobs := crew.jobs.set index after, clients := clients }.Knows caller := by
  have rest : (crew.jobs.map Job.rest)[index]? = some job.rest := by
    rw [List.getElem?_map, present]
    rfl
  cases caller with
  | collecting results =>
      rw [Knows, List.map_set]
      exact prefix_set knows (fun _ => isDone_of_mem_map_won) rest unfinished _
  | leaving outcome =>
      obtain ⟨all, announced⟩ := knows
      rw [Knows, List.map_set, List.length_set]
      exact ⟨all, announced.set rest unfinished _⟩
  | returned outcome =>
      obtain ⟨-, done, -⟩ := knows
      exact absurd (Job.isDone_iff.mp (done job (List.mem_of_getElem? present))) unfinished

theorem IsSound.act
    (sound : crew.IsSound replies items task)
    {index : Nat}
    {job after : Job (ItemOutcome α)}
    {made : List Client}
    (present : crew.jobs[index]? = some job)
    (acts : Acts replies index crew.clients job after made) :
    { crew with jobs := crew.jobs.set index after, clients := made }.IsSound replies items
      task := by
  obtain ⟨item, isItem⟩ := sound.exists_item present
  obtain ⟨stage, changes⟩ := acts.keeps (sound.stage index item job isItem present)
  have replaced := getElem?_set_self_of_getElem?_eq_some present after
  exact
    { length_jobs := List.length_set.trans sound.length_jobs
      begun_le := sound.begun_le
      submitted_le := sound.submitted_le.trans_eq List.length_set.symm
      workers_pos := sound.workers_pos
      stage := by
        intro place other atPlace isOther isAtPlace
        by_cases same : index = place
        · subst same
          obtain rfl := Option.some.inj (isItem.symm.trans isOther)
          obtain rfl := Option.some.inj (replaced.symm.trans isAtPlace)
          exact stage
        · rw [List.getElem?_set_ne same] at isAtPlace
          refine (sound.stage place other atPlace isOther isAtPlace).of_clients ?_
          rintro spot client found rfl
          exact changes.getElem?_of_ne found (Ne.symm same)
      owned := by
        intro place client found
        rcases changes.eq_or_getElem? found with ⟨rfl, held⟩ | ⟨old, apart⟩
        · exact ⟨after, replaced, held⟩
        · obtain ⟨owner, isOwner, held⟩ := sound.owned place client old
          -- If the job itself owned a client that it does not hold, it would hold two.
          have other : index ≠ client.owner := by
            rintro rfl
            obtain rfl := Option.some.inj (isOwner.symm.trans present)
            exact apart held
          refine ⟨owner, ?_, held⟩
          rw [List.getElem?_set_ne other]
          exact isOwner
      knows := sound.knows.set present acts.not_isDone after made }

/-- A crew stays sound, whatever it does. -/
theorem IsSound.moves
    (sound : crew.IsSound replies items task)
    (moves : Moves limit replies crew next) :
    next.IsSound replies items task := by
  cases moves with
  | submitToNewWorker unsubmitted _ => exact sound.submit unsubmitted (Nat.succ_pos _)
  | submit unsubmitted staffed => exact sound.submit unsubmitted staffed
  | begin unbegun _ => exact sound.begin unbegun
  | act _ present acts => exact sound.act present acts
  | @collect results held result collecting all _ present =>
      have knows := sound.knows_of_caller collecting
      have rest : (crew.jobs.map Job.rest)[(results.map won).length]? = some (.done result) := by
        rw [List.length_map, List.getElem?_map, present]
        rfl
      obtain ⟨within, same⟩ := List.getElem?_eq_some_iff.mp rest
      have further := List.concat_get_prefix knows within
      rw [List.get_eq_getElem, same] at further
      refine sound.withCaller ?_
      cases result with
      | ok result =>
          rw [Caller.take, Knows, List.map_append]
          exact further
      | error failure => exact ⟨all, results, further⟩
  | @collected results collecting all every =>
      refine sound.withCaller ⟨all, ?_⟩
      exact ((sound.knows_of_caller collecting).eq_of_length (by simpa using every)).symm
  | leave leaving all done =>
      exact sound.withCaller ⟨all, done, (sound.knows_of_caller leaving).2⟩

theorem IsSound.reaches
    (sound : crew.IsSound replies items task)
    (reaches : Reaches limit replies crew next) :
    next.IsSound replies items task := by
  induction reaches with
  | refl => exact sound
  | tail _ moves inductionHypothesis => exact inductionHypothesis.moves moves

/-! ### Progress -/

/-- No worker is at a job if all jobs that were begun are done. -/
theorem busy_eq_zero
    (done : ∀ job ∈ crew.jobs.take crew.begun, job.isDone = true) :
    crew.busy = 0 := by
  rw [busy, List.countP_eq_zero]
  intro job begun
  simp [done job begun]

/-- The caller submits until all jobs are submitted. -/
theorem exists_moves_of_unsubmitted
    (positive : 1 ≤ limit)
    (unsubmitted : crew.submitted < crew.jobs.length) :
    ∃ next, Moves limit replies crew next := by
  by_cases room : (crew.workers : Int) < limit
  · exact ⟨_, .submitToNewWorker unsubmitted room⟩
  · exact ⟨_, .submit unsubmitted (by omega)⟩

/-- A job that was begun acts until it is done. -/
theorem IsSound.exists_moves_of_unfinished
    (sound : crew.IsSound replies items task)
    (unfinished : ¬ ∀ job ∈ crew.jobs.take crew.begun, job.isDone = true) :
    ∃ next, Moves limit replies crew next := by
  push Not at unfinished
  obtain ⟨job, begun, unfinished⟩ := unfinished
  obtain ⟨index, isJob⟩ := List.getElem?_of_mem begun
  rw [List.getElem?_take] at isJob
  split at isJob
  · next within =>
      obtain ⟨item, isItem⟩ := sound.exists_item isJob
      obtain ⟨after, made, acts⟩ := (sound.stage index item job isItem isJob).exists_acts
        (Bool.eq_false_iff.mpr unfinished)
      exact ⟨_, .act within isJob acts⟩
  · cases isJob

/-- A worker that is at no job begins the next one. -/
theorem IsSound.exists_moves_of_unbegun
    (sound : crew.IsSound replies items task)
    (done : ∀ job ∈ crew.jobs.take crew.begun, job.isDone = true)
    (unbegun : crew.begun < crew.submitted) :
    ∃ next, Moves limit replies crew next := by
  have staffed := sound.workers_pos (Nat.zero_lt_of_lt unbegun)
  rw [← busy_eq_zero done] at staffed
  exact ⟨_, .begin unbegun staffed⟩

/-- When all jobs are done, the caller takes their outcomes, leaves and returns. -/
theorem IsSound.returned_or_moves_of_done
    (sound : crew.IsSound replies items task)
    (allSubmitted : crew.submitted = crew.jobs.length)
    (allBegun : crew.begun = crew.jobs.length)
    (done : ∀ job ∈ crew.jobs, job.isDone = true) :
    (∃ outcome, crew.caller = .returned outcome) ∨ ∃ next, Moves limit replies crew next := by
  cases caller : crew.caller with
  | collecting results =>
      have shorter : results.length ≤ crew.jobs.length := by
        simpa using (sound.knows_of_caller caller).length_le
      rcases Nat.lt_or_eq_of_le shorter with further | every
      · have present := List.getElem?_eq_getElem further
        obtain ⟨result, rest⟩ := Job.isDone_iff.mp (done _ (List.mem_of_getElem? present))
        have found : crew.jobs[results.length]? =
            some ⟨crew.jobs[results.length].client, .done result⟩ := by
          rw [present, ← rest]
        exact .inr ⟨_, .collect caller allSubmitted (further.trans_eq allBegun.symm) found⟩
      · exact .inr ⟨_, .collected caller allSubmitted every⟩
  | leaving outcome => exact .inr ⟨_, .leave caller allBegun done⟩
  | returned outcome => exact .inl ⟨outcome, rfl⟩

/-- A sound crew with a worker goes on until the caller has returned. -/
theorem IsSound.returned_or_moves
    (positive : 1 ≤ limit)
    (sound : crew.IsSound replies items task) :
    (∃ outcome, crew.caller = .returned outcome) ∨ ∃ next, Moves limit replies crew next := by
  -- Whoever can go on first is let go on: the caller submits, then a job that was begun acts, then
  -- a worker begins the next job. Where none of them can, all jobs are done, and the caller moves.
  by_cases unsubmitted : crew.submitted < crew.jobs.length
  · exact .inr (exists_moves_of_unsubmitted positive unsubmitted)
  by_cases done : ∀ job ∈ crew.jobs.take crew.begun, job.isDone = true
  · by_cases unbegun : crew.begun < crew.submitted
    · exact .inr (sound.exists_moves_of_unbegun done unbegun)
    have allSubmitted : crew.submitted = crew.jobs.length :=
      Nat.le_antisymm sound.submitted_le (Nat.le_of_not_lt unsubmitted)
    have allBegun : crew.begun = crew.jobs.length :=
      (Nat.le_antisymm sound.begun_le (Nat.le_of_not_lt unbegun)).trans allSubmitted
    rw [allBegun, List.take_length] at done
    exact sound.returned_or_moves_of_done allSubmitted allBegun done
  · exact .inr (sound.exists_moves_of_unfinished done)

/-- A crew with a worker ends, whatever its clients answer. -/
theorem IsSound.ends
    (positive : 1 ≤ limit)
    (sound : crew.IsSound replies items task) :
    Ends limit replies crew where
  finite := (wellFounded_moves limit replies).apply crew
  unstuck := fun _ reaches => (sound.reaches reaches).returned_or_moves positive

end Crew

end FanOut
end ChainClient
