import ChainClient.FanOut
import ChainClient.Proofs.Traces
import Mathlib.Data.Multiset.Basic
import Mathlib.Logic.Hydra
import Mathlib.Logic.Relation
import Mathlib.Tactic.Abel

/-!
# Crews

Works that are fanned out are done by a crew of workers. The caller submits them one by one, the
workers take them in the order in which they were submitted, and everything else may happen in any
order: which job goes on, what its client answers, and how far the caller has come. The caller takes
the results in the order of the works, up to the first failure, and returns once all jobs are done.
No crew goes on for ever.
-/

namespace ChainClient

namespace Interaction

variable {I : Interface} {α : Type}

/-- What is left of an interaction after an answer to its first question. -/
inductive IsBranch : Interaction I α → Interaction I α → Prop
  | intro
      (question : I.Question)
      (next : I.Answer question → Interaction I α)
      (answer : I.Answer question) :
      IsBranch (next answer) (.ask question next)

/-- There is no infinite way down an interaction. -/
theorem wellFounded_isBranch :
    WellFounded (IsBranch : Interaction I α → Interaction I α → Prop) := by
  refine ⟨fun x => ?_⟩
  induction x with
  | done result => exact ⟨_, fun _ branch => nomatch branch⟩
  | ask question next inductionHypothesis =>
      refine ⟨_, fun branch isBranch => ?_⟩
      cases isBranch with
      | intro _ _ answer => exact inductionHypothesis answer

end Interaction

namespace FanOut

variable {α : Type}

/-! ## Clients -/

/-- What happens at a client. -/
inductive Event where
  | asked (exchange : Exchange Node.interface)
  | closed

/-- The exchange of an event, if it is one. -/
def Event.exchange? : Event → Option (Exchange Node.interface)
  | asked exchange => some exchange
  | closed => none

/-- A client, with the number of the job that it was made for. -/
structure Client where
  owner : Nat
  /-- The client can be closed. -/
  closable : Bool
  events : List Event

namespace Client

/-- All that the client was asked, with its answers. -/
def exchanges (client : Client) : List (Exchange Node.interface) :=
  client.events.filterMap Event.exchange?

/-- The client after another exchange. -/
def log
    (client : Client)
    (exchange : Exchange Node.interface) : Client :=
  { client with events := client.events ++ [.asked exchange] }

/-- What closing a client adds to its events. -/
def closing (closable : Bool) : List Event :=
  if closable then [.closed] else []

/-- The client after it was closed, if it can be. -/
def close (client : Client) : Client :=
  { client with events := client.events ++ closing client.closable }

end Client

/-- What clients may answer, after all that they were asked before. There is always an answer.
Clients that may answer anything are among them. -/
structure Replies where
  allows : List (Exchange Node.interface) → (question : Node.Question) →
    Node.interface.Answer question → Prop
  total : ∀ history question, ∃ answer, allows history question answer

/-- A trace in which each answer is allowed after what was asked before. -/
inductive Replies.Allows (replies : Replies) : List (Exchange Node.interface) → Prop
  | nil : Allows replies []
  | snoc
      {trace : List (Exchange Node.interface)}
      {question : Node.Question}
      {answer : Node.interface.Answer question} :
      Allows replies trace →
      replies.allows trace question answer →
      Allows replies (trace ++ [⟨question, answer⟩])

/-! ## Jobs -/

/-- Nothing is left to do. -/
def IsDone (rest : Work α) : Prop :=
  ∃ result, rest = .done result

/-- The job of doing a work: what is left of it, and the number of its client once it has one. -/
structure Job (α : Type) where
  client : Option Nat
  rest : Work α

/-- Nothing is left to do for the job. -/
def Job.isDone : Job α → Bool
  | ⟨_, .done _⟩ => true
  | ⟨_, .ask _ _⟩ => false

theorem Job.isDone_iff {job : Job α} :
    job.isDone = true ↔ IsDone job.rest := by
  obtain ⟨held, rest⟩ := job
  cases rest with
  | done result => simp [isDone, IsDone]
  | ask question next => simp [isDone, IsDone]

/-- One question of a job, asked while these are the clients. A new client is made, the job's own
client answers, or the job's own client is closed. -/
inductive Acts
    (replies : Replies)
    (index : Nat)
    (clients : List Client) : Job α → Job α → List Client → Prop
  | openClient
      {held : Option Nat}
      {next : Unit → Work α}
      (closable : Bool) :
      Acts replies index clients
        ⟨held, .ask Question.openClient next⟩
        ⟨some clients.length, next ()⟩
        (clients ++ [⟨index, closable, []⟩])
  | answer
      {place : Nat}
      {client : Client}
      {question : Node.Question}
      {next : Node.interface.Answer question → Work α}
      {answer : Node.interface.Answer question} :
      clients[place]? = some client →
      replies.allows client.exchanges question answer →
      Acts replies index clients
        ⟨some place, .ask (Question.node question) next⟩
        ⟨some place, next answer⟩
        (clients.set place (client.log ⟨question, answer⟩))
  | closeClient
      {place : Nat}
      {client : Client}
      {next : Unit → Work α} :
      clients[place]? = some client →
      Acts replies index clients
        ⟨some place, .ask Question.closeClient next⟩
        ⟨some place, next ()⟩
        (clients.set place client.close)

/-- A job that acts is not done. -/
theorem Acts.not_isDone
    {replies : Replies}
    {index : Nat}
    {clients made : List Client}
    {job after : Job α}
    (acts : Acts replies index clients job after made) :
    ¬ IsDone job.rest := by
  rintro ⟨result, same⟩
  cases acts with
  | openClient => cases same
  | answer => cases same
  | closeClient => cases same

/-- A job that acts goes on with a branch of what was left of it. -/
theorem Acts.isBranch
    {replies : Replies}
    {index : Nat}
    {clients made : List Client}
    {job after : Job α}
    (acts : Acts replies index clients job after made) :
    Interaction.IsBranch after.rest job.rest := by
  cases acts with
  | @openClient _ next _ => exact .intro (I := interface) Question.openClient next ()
  | @answer _ _ question next answer =>
      exact .intro (I := interface) (Question.node question) next answer
  | @closeClient _ _ next => exact .intro (I := interface) Question.closeClient next ()

/-! ## Crews -/

/-- What the caller does: it takes results, waits for the workers on its way out, or has
returned. -/
inductive Caller (α : Type) where
  | collecting (results : List α)
  | leaving (outcome : Outcome (List α))
  | returned (outcome : Outcome (List α))

/-- The caller after the result of another job. A failure ends the collection. -/
def Caller.take
    (results : List α) : Outcome α → Caller α
  | .ok result => .collecting (results ++ [result])
  | .error failure => .leaving (.error failure)

/-- Works that are fanned out. Of the jobs, which stand in the order of the works, the first were
submitted, and of these the first were begun. -/
structure Crew (α : Type) where
  jobs : List (Job α)
  submitted : Nat
  begun : Nat
  workers : Nat
  /-- All clients that were made, in the order in which they were made. -/
  clients : List Client
  caller : Caller α

namespace Crew

/-- A crew that has not begun. -/
def start (works : List (Work α)) : Crew α where
  jobs := works.map (Job.mk none)
  submitted := 0
  begun := 0
  workers := 0
  clients := []
  caller := .collecting []

/-- How many workers are at a job. -/
def busy (crew : Crew α) : Nat :=
  (crew.jobs.take crew.begun).countP fun job => !job.isDone

/-- What can happen next, with at most `limit` workers. -/
inductive Moves
    (limit : Int)
    (replies : Replies)
    (crew : Crew α) : Crew α → Prop
  /-- The caller submits the next job, and there is one more worker. -/
  | submitToNewWorker :
      crew.submitted < crew.jobs.length →
      crew.workers < limit →
      Moves limit replies crew
        { crew with submitted := crew.submitted + 1, workers := crew.workers + 1 }
  /-- The caller submits the next job to the workers there are. -/
  | submit :
      crew.submitted < crew.jobs.length →
      0 < crew.workers →
      Moves limit replies crew { crew with submitted := crew.submitted + 1 }
  /-- An idle worker takes the first job that waits. -/
  | begin :
      crew.begun < crew.submitted →
      crew.busy < crew.workers →
      Moves limit replies crew { crew with begun := crew.begun + 1 }
  /-- A job that was begun goes on. -/
  | act
      {index : Nat}
      {job after : Job α}
      {clients : List Client} :
      index < crew.begun →
      crew.jobs[index]? = some job →
      Acts replies index crew.clients job after clients →
      Moves limit replies crew { crew with jobs := crew.jobs.set index after, clients := clients }
  /-- The caller takes the result of the next job, which is done. -/
  | collect
      {results : List α}
      {held : Option Nat}
      {result : Outcome α} :
      crew.caller = .collecting results →
      crew.submitted = crew.jobs.length →
      results.length < crew.begun →
      crew.jobs[results.length]? = some ⟨held, .done result⟩ →
      Moves limit replies crew { crew with caller := .take results result }
  /-- The caller has all results. -/
  | collected
      {results : List α} :
      crew.caller = .collecting results →
      crew.submitted = crew.jobs.length →
      results.length = crew.jobs.length →
      Moves limit replies crew { crew with caller := .leaving (.ok results) }
  /-- The caller returns when the workers have nothing left to do. -/
  | leave
      {outcome : Outcome (List α)} :
      crew.caller = .leaving outcome →
      crew.begun = crew.jobs.length →
      (∀ job ∈ crew.jobs, job.isDone = true) →
      Moves limit replies crew { crew with caller := .returned outcome }

/-! ## Ends -/

/-- How much the caller has still to do, with so many jobs. -/
def callerChores (jobs : Nat) : Caller α → Nat
  | .collecting results => 2 + (jobs - results.length)
  | .leaving _ => 1
  | .returned _ => 0

/-- How much is still to do besides the works themselves: jobs to submit and to begin, and what the
caller has still to do. -/
def chores (crew : Crew α) : Nat :=
  2 * (crew.jobs.length - crew.submitted) + (crew.submitted - crew.begun) +
    callerChores crew.jobs.length crew.caller

/-- All that is still to do: what is left of the works, and chores. -/
def remaining (crew : Crew α) : Multiset (Work α) × Nat :=
  (crew.jobs.map Job.rest, crew.chores)

/-- Less is left to do: a work has come closer to its end, or there are fewer chores. -/
def Advances : Multiset (Work α) × Nat → Multiset (Work α) × Nat → Prop :=
  -- No number bounds what is left of a work, since there are infinitely many answers to a question.
  Prod.Lex (Relation.CutExpand Interaction.IsBranch) (· < ·)

theorem wellFounded_advances :
    WellFounded (Advances : Multiset (Work α) × Nat → Multiset (Work α) × Nat → Prop) :=
  WellFounded.prod_lex Interaction.wellFounded_isBranch.cutExpand Nat.lt_wfRel.wf

/-- Among the rests of works, one is replaced by a branch of it. -/
theorem cutExpand_map_set
    {index : Nat}
    {jobs : List (Job α)}
    {job after : Job α}
    (present : jobs[index]? = some job)
    (branch : Interaction.IsBranch after.rest job.rest) :
    Relation.CutExpand Interaction.IsBranch
      ((jobs.set index after).map Job.rest : Multiset (Work α)) (jobs.map Job.rest) := by
  obtain ⟨within, same⟩ := List.getElem?_eq_some_iff.mp present
  obtain ⟨front, behind, split, -, replaced⟩ :
      ∃ front behind, jobs = front ++ jobs[index] :: behind ∧ front.length = index ∧
        jobs.set index after = front ++ after :: behind :=
    List.exists_of_set within
  refine ⟨{after.rest}, job.rest, ?_, ?_⟩
  · intro rest isAfter
    rw [Multiset.mem_singleton.mp isAfter]
    exact branch
  · rw [replaced, split, same]
    simp only [List.map_append, List.map_cons, ← Multiset.coe_add, ← Multiset.cons_coe,
      ← Multiset.singleton_add]
    abel

theorem advances_of_chores_lt
    {works : Multiset (Work α)}
    {left before : Nat}
    (fewer : left < before) :
    Advances (works, left) (works, before) :=
  .right _ fewer

theorem Moves.advances
    {limit : Int}
    {replies : Replies}
    {crew next : Crew α}
    (moves : Moves limit replies crew next) :
    Advances next.remaining crew.remaining := by
  cases moves with
  | submitToNewWorker unsubmitted _ =>
      refine advances_of_chores_lt ?_
      simp only [chores]
      omega
  | submit unsubmitted _ =>
      refine advances_of_chores_lt ?_
      simp only [chores]
      omega
  | begin unbegun _ =>
      refine advances_of_chores_lt ?_
      simp only [chores]
      omega
  | act _ present acts => exact .left _ _ (cutExpand_map_set present acts.isBranch)
  | @collect results held result collecting _ _ present =>
      obtain ⟨within, -⟩ := List.getElem?_eq_some_iff.mp present
      refine advances_of_chores_lt ?_
      simp only [chores, collecting]
      cases result with
      | ok result =>
          simp only [Caller.take, callerChores, List.length_append, List.length_singleton]
          omega
      | error failure =>
          simp only [Caller.take, callerChores]
          omega
  | collected collecting _ _ =>
      refine advances_of_chores_lt ?_
      simp only [chores, collecting, callerChores]
      omega
  | leave leaving _ _ =>
      refine advances_of_chores_lt ?_
      simp only [chores, leaving, callerChores]
      omega

/-- No crew goes on for ever, whatever its clients answer. -/
theorem wellFounded_moves
    (limit : Int)
    (replies : Replies) :
    WellFounded fun next crew : Crew α => Moves limit replies crew next :=
  Subrelation.wf Moves.advances (InvImage.wf remaining wellFounded_advances)

/-- A crew comes to be another one by any number of moves. -/
def Reaches
    (limit : Int)
    (replies : Replies) : Crew α → Crew α → Prop :=
  Relation.ReflTransGen (Moves limit replies)

/-- Whatever happens, the caller returns in the end: no run of the crew is infinite, and none stops
before the caller has returned. -/
structure Ends
    (limit : Int)
    (replies : Replies)
    (crew : Crew α) : Prop where
  finite : Acc (fun next crew : Crew α => Moves limit replies crew next) crew
  unstuck : ∀ later, Reaches limit replies crew later →
    (∃ outcome, later.caller = .returned outcome) ∨ ∃ next, Moves limit replies later next

theorem Ends.exists_returned
    {limit : Int}
    {replies : Replies}
    {crew : Crew α}
    (ends : Ends limit replies crew) :
    ∃ later outcome, Reaches limit replies crew later ∧ later.caller = .returned outcome := by
  obtain ⟨finite, unstuck⟩ := ends
  induction finite with
  | intro crew _ inductionHypothesis =>
      rcases unstuck crew .refl with ⟨outcome, returned⟩ | ⟨next, moves⟩
      · exact ⟨crew, outcome, .refl, returned⟩
      · obtain ⟨later, outcome, reaches, returned⟩ :=
          inductionHypothesis next moves fun later reaches => unstuck later (reaches.head moves)
        exact ⟨later, outcome, reaches.head moves, returned⟩

end Crew

/-- What a call that fans out returns, and the clients that were made until then. A call that is
refused and a call without works make no client. -/
inductive Returns
    (limit : Int)
    (replies : Replies) :
    Except Misuse (List (Work α)) → Outcome (List α) → List Client → Prop
  | refused (misuse : Misuse) :
      Returns limit replies (.error misuse) (.error (.misuse misuse)) []
  | nothing :
      Returns limit replies (.ok []) (.ok []) []
  | worked
      {works : List (Work α)}
      {crew : Crew α}
      {outcome : Outcome (List α)} :
      works ≠ [] →
      Crew.Reaches limit replies (.start works) crew →
      crew.caller = .returned outcome →
      Returns limit replies (.ok works) outcome crew.clients

end FanOut
end ChainClient
