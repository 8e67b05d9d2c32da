import ChainClient.Proofs.Confirmation.Polling
import ChainClient.Proofs.Receipts

/-!
# Waiting for a receipt

A node that answers the polls one after the other, and a wish to stop that is expressed
once and stands from then on. The first poll whose reply decides, the budget and the
moment of the wish determine how the wait ends, unless the interval of the policy is too
long to be waited for: then the first pause that is reached breaks the wait off.
-/

namespace ChainClient

open Node

/-- The moment at which the wish to stop is expressed, if ever. The polls are counted from
one. -/
inductive Stop where
  | never
  | beforeStart
  | duringPoll (poll : Nat)
  | duringPause (poll : Nat)
  /-- When the pause after a poll is over, and before the next poll. -/
  | afterPause (poll : Nat)

namespace Stop

/-- How many polls were begun before the wish. -/
def polls? : Stop → Option Nat
  | never => none
  | beforeStart => some 0
  | duringPoll poll | duringPause poll | afterPause poll => some poll

/-- The wish stands once so many polls were made. -/
def isSeen
    (stop : Stop)
    (polls : Nat) : Bool :=
  match stop.polls? with
  | none => false
  | some before => before ≤ polls

/-- The wish stands when the pause after so many polls begins. -/
def isSeenBeforePause
    (stop : Stop)
    (polls : Nat) : Bool :=
  match stop with
  | duringPause poll | afterPause poll => poll < polls
  | _ => stop.isSeen polls

/-- The pause after so many polls ends with the wish. -/
def isSeenInPause
    (stop : Stop)
    (polls : Nat) : Bool :=
  match stop with
  | afterPause poll => poll < polls
  | _ => stop.isSeen polls

theorem isSeen_iff
    {stop : Stop}
    {polls : Nat} :
    stop.isSeen polls = true ↔ ∃ before, stop.polls? = some before ∧ before ≤ polls := by
  unfold isSeen
  cases stop.polls? <;> simp

theorem isSeen_of_isSeenInPause
    {stop : Stop}
    {polls : Nat}
    (seen : stop.isSeenInPause polls = true) :
    stop.isSeen polls = true := by
  cases stop with
  | afterPause poll =>
      simp only [isSeenInPause, decide_eq_true_eq] at seen
      exact isSeen_iff.mpr ⟨poll, rfl, Nat.le_of_lt seen⟩
  | never => exact seen
  | beforeStart => exact seen
  | duringPoll poll => exact seen
  | duringPause poll => exact seen

theorem isSeen_of_isSeenBeforePause
    {stop : Stop}
    {polls : Nat}
    (seen : stop.isSeenBeforePause polls = true) :
    stop.isSeen polls = true := by
  cases stop with
  | duringPause poll | afterPause poll =>
      simp only [isSeenBeforePause, decide_eq_true_eq] at seen
      exact isSeen_iff.mpr ⟨poll, rfl, Nat.le_of_lt seen⟩
  | never | beforeStart | duringPoll => exact seen

/-- What is seen by a poll is seen before the pause behind it. -/
theorem isSeenBeforePause_succ
    {stop : Stop}
    {polls : Nat}
    (seen : stop.isSeen polls = true) :
    stop.isSeenBeforePause (polls + 1) = true := by
  obtain ⟨before, wish, notLater⟩ := isSeen_iff.mp seen
  cases stop with
  | duringPause poll | afterPause poll =>
      cases wish
      exact decide_eq_true (Nat.lt_succ_of_le notLater)
  | never | beforeStart | duringPoll =>
      exact isSeen_iff.mpr ⟨before, wish, Nat.le_succ_of_le notLater⟩

end Stop

/-! ## Pauses -/

namespace Node

variable
    {interval : Datum}
    {before after : Bool}

/-- A pause fails if the wish does not stand by then and the interval cannot be waited for. -/
theorem pauseAnswer_eq_error_iff
    {misuse : Misuse} :
    pauseAnswer interval before after = .error misuse ↔
      before = false ∧ pauseFault? interval = some misuse := by
  cases before with
  | true => simp [pauseAnswer]
  | false => cases fault : pauseFault? interval <;> simp [pauseAnswer, fault]

/-- A pause ends with a wish that stands at its beginning, or at its end if the interval can be
waited for. -/
theorem pauseAnswer_eq_ok_iff
    {cancelled : Bool} :
    pauseAnswer interval before after = .ok cancelled ↔
      (before = true ∧ cancelled = true) ∨
        before = false ∧ pauseFault? interval = none ∧ after = cancelled := by
  cases before with
  | true => simp [pauseAnswer, eq_comm]
  | false => cases fault : pauseFault? interval <;> simp [pauseAnswer, fault]

theorem pauseFault?_float_eq_none_iff
    {seconds : Binary64} :
    pauseFault? (.float seconds) = none ↔ isTooLong seconds = false := by
  cases tooLong : isTooLong seconds <;> simp [pauseFault?, tooLong]

end Node

/-! ## Surroundings -/

/-- A node that gives the replies one by one, with a log of the calls. -/
def Node.surroundings
    (replies : Nat → Outcome Datum)
    (stop : Stop) : Handler Node.interface (List Call)
  | Question.call method params, log => (replies (log.length + 1), log ++ [(method, params)])
  | Question.cancelled, log => (stop.isSeen log.length, log)
  | Question.pause interval, log =>
      (pauseAnswer interval (stop.isSeenBeforePause log.length) (stop.isSeenInPause log.length),
        log)

/-- The poll is the first one whose reply is a receipt or a failure for the caller. -/
def Node.IsDecisive
    (txHash : Datum)
    (replies : Nat → Outcome Datum)
    (poll : Nat) : Prop :=
  0 < poll ∧ Finding.of txHash (replies poll) ≠ .nothing ∧
    ∀ earlier, 0 < earlier → earlier < poll → Finding.of txHash (replies earlier) = .nothing

theorem Node.IsDecisive.unique
    {txHash : Datum}
    {replies : Nat → Outcome Datum}
    {poll other : Nat}
    (decisive : IsDecisive txHash replies poll)
    (otherDecisive : IsDecisive txHash replies other) :
    poll = other := by
  rcases Nat.lt_trichotomy poll other with less | same | greater
  · exact absurd (otherDecisive.2.2 poll decisive.1 less) decisive.2.1
  · exact same
  · exact absurd (decisive.2.2 other otherDecisive.1 greater) otherDecisive.2.1

namespace Confirmation

/-- How a wait ends, and with which calls: at the poll that decides, if it is within the
budget and the wish to stop does not come before it; at the wish, if it comes before that
poll and before the last one; else when the budget is used up. -/
structure EndsAsAsked
    (txHash : Datum)
    (policy : ReceiptPolicy)
    (replies : Nat → Outcome Datum)
    (stop : Stop)
    (outcome : Outcome ConfirmationResult)
    (log : List Call) : Prop where
  decided
      {poll : Nat} :
      IsDecisive txHash replies poll →
      poll ≤ policy.maxAttempts →
      (∀ before, stop.polls? = some before → poll ≤ before) →
      log = List.replicate poll (receiptCall txHash) ∧
        (∀ receipt, Finding.of txHash (replies poll) = .receipt receipt →
          outcome = .ok {
            state := if receipt.isFailure then .failed else .confirmed
            txHash := txHash
            receipt := some receipt
            errorMessage := receipt.errorMessage
            attempts := poll }) ∧
        ∀ failure, Finding.of txHash (replies poll) = .failure failure → outcome = .error failure
  cancelled
      {before : Nat} :
      stop.polls? = some before →
      before < policy.maxAttempts →
      (∀ poll, IsDecisive txHash replies poll → before < poll) →
      log = List.replicate before (receiptCall txHash) ∧
        outcome = .ok ⟨.cancelled, txHash, none, none, before⟩
  timedOut :
      (∀ poll, IsDecisive txHash replies poll → poll ≤ policy.maxAttempts →
        ∃ before, stop.polls? = some before ∧ before < poll) →
      (∀ before, stop.polls? = some before → before < policy.maxAttempts →
        ∃ poll, IsDecisive txHash replies poll ∧ poll ≤ before) →
      log = List.replicate policy.maxAttempts (receiptCall txHash) ∧
        outcome = .ok ⟨.timedOut, txHash, none, none, policy.maxAttempts⟩

/-- The pause after a poll breaks a wait off: its interval cannot be waited for, the poll brought
nothing and was not the last one, and the wish to stop does not stand by then. -/
structure BreaksOff
    (txHash : Datum)
    (policy : ReceiptPolicy)
    (replies : Nat → Outcome Datum)
    (stop : Stop)
    (poll : Nat)
    (misuse : Misuse) : Prop where
  unwaitable : pauseFault? policy.pollInterval = some misuse
  further : poll < policy.maxAttempts
  undecided : Finding.of txHash (replies poll) = .nothing
  unseen : stop.isSeenBeforePause poll = false

section Ends

variable {txHash : Datum}
variable {policy : ReceiptPolicy}
variable {replies : Nat → Outcome Datum}
variable {stop : Stop}
variable {outcome : Outcome ConfirmationResult}

/-- A poll beyond all those that brought nothing comes after them. -/
theorem lt_of_isDecisive
    {polls poll : Nat}
    (undecided : ∀ earlier, 0 < earlier → earlier ≤ polls →
      Finding.of txHash (replies earlier) = .nothing)
    (decisive : IsDecisive txHash replies poll) :
    polls < poll := by
  by_contra notLater
  exact decisive.2.1 (undecided poll decisive.1 (Nat.le_of_not_lt notLater))

theorem EndsAsAsked.of_cancelled
    {polls : Nat}
    (wish : stop.polls? = some polls)
    (budget : polls < policy.maxAttempts)
    (undecided : ∀ earlier, 0 < earlier → earlier ≤ polls →
      Finding.of txHash (replies earlier) = .nothing) :
    EndsAsAsked txHash policy replies stop (.ok ⟨.cancelled, txHash, none, none, polls⟩)
      (List.replicate polls (receiptCall txHash)) where
  decided := by
    intro poll decisive _ inTime
    have later := lt_of_isDecisive undecided decisive
    exact absurd (inTime polls wish) (Nat.not_le_of_lt later)
  cancelled := by
    intro before sameWish _ _
    cases wish.symm.trans sameWish
    exact ⟨rfl, rfl⟩
  timedOut := by
    intro _ decidedFirst
    obtain ⟨poll, decisive, first⟩ := decidedFirst polls wish budget
    exact absurd first (Nat.not_le_of_lt (lt_of_isDecisive undecided decisive))

/-- What the decisive poll brings ends the wait. -/
theorem EndsAsAsked.of_isDecisive
    {poll : Nat}
    (decisive : IsDecisive txHash replies poll)
    (budget : poll ≤ policy.maxAttempts)
    (inTime : ∀ before, stop.polls? = some before → poll ≤ before)
    (ended : (∀ receipt, Finding.of txHash (replies poll) = .receipt receipt →
        outcome = .ok {
          state := if receipt.isFailure then .failed else .confirmed
          txHash := txHash
          receipt := some receipt
          errorMessage := receipt.errorMessage
          attempts := poll }) ∧
      ∀ failure, Finding.of txHash (replies poll) = .failure failure → outcome = .error failure) :
    EndsAsAsked txHash policy replies stop outcome
      (List.replicate poll (receiptCall txHash)) where
  decided := by
    intro other otherDecisive _ _
    cases decisive.unique otherDecisive
    exact ⟨rfl, ended⟩
  cancelled := by
    intro before wish _ first
    exact absurd (inTime before wish) (Nat.not_le_of_lt (first poll decisive))
  timedOut := by
    intro stoppedFirst _
    obtain ⟨before, wish, first⟩ := stoppedFirst poll decisive budget
    exact absurd (inTime before wish) (Nat.not_le_of_lt first)

theorem EndsAsAsked.of_receipt
    {poll : Nat}
    {receipt : Receipt}
    (decisive : IsDecisive txHash replies poll)
    (found : Finding.of txHash (replies poll) = .receipt receipt)
    (budget : poll ≤ policy.maxAttempts)
    (inTime : ∀ before, stop.polls? = some before → poll ≤ before) :
    EndsAsAsked txHash policy replies stop
      (.ok {
        state := if receipt.isFailure then .failed else .confirmed
        txHash := txHash
        receipt := some receipt
        errorMessage := receipt.errorMessage
        attempts := poll })
      (List.replicate poll (receiptCall txHash)) := by
  refine .of_isDecisive decisive budget inTime ⟨?_, ?_⟩
  · intro other same
    cases found.symm.trans same
    rfl
  · intro failure other
    cases found.symm.trans other

theorem EndsAsAsked.of_failure
    {poll : Nat}
    {failure : Failure}
    (decisive : IsDecisive txHash replies poll)
    (found : Finding.of txHash (replies poll) = .failure failure)
    (budget : poll ≤ policy.maxAttempts)
    (inTime : ∀ before, stop.polls? = some before → poll ≤ before) :
    EndsAsAsked txHash policy replies stop (.error failure)
      (List.replicate poll (receiptCall txHash)) := by
  refine .of_isDecisive decisive budget inTime ⟨?_, ?_⟩
  · intro receipt other
    cases found.symm.trans other
  · intro other same
    cases found.symm.trans same
    rfl

theorem EndsAsAsked.of_timedOut
    {polls : Nat}
    (spent : policy.maxAttempts = polls)
    (undecided : ∀ earlier, 0 < earlier → earlier ≤ polls →
      Finding.of txHash (replies earlier) = .nothing)
    (unstopped : ∀ before, stop.polls? = some before → polls ≤ before) :
    EndsAsAsked txHash policy replies stop (.ok ⟨.timedOut, txHash, none, none, polls⟩)
      (List.replicate polls (receiptCall txHash)) where
  decided := by
    intro poll decisive budget _
    rw [spent] at budget
    exact absurd budget (Nat.not_le_of_lt (lt_of_isDecisive undecided decisive))
  cancelled := by
    intro before wish budget _
    rw [spent] at budget
    exact absurd (unstopped before wish) (Nat.not_le_of_lt budget)
  timedOut := by
    intro _ _
    rw [spent]
    exact ⟨rfl, rfl⟩

/-- What breaks off after the first poll does not end as asked. -/
theorem BreaksOff.not_endsAsAsked
    {misuse failure : Misuse}
    (breaks : BreaksOff txHash policy replies stop 1 misuse) :
    ¬ EndsAsAsked txHash policy replies stop (.error (.misuse failure))
        (List.replicate 1 (receiptCall txHash)) := by
  intro ends
  have several := breaks.further
  by_cases decided : ∃ poll, IsDecisive txHash replies poll ∧ poll ≤ policy.maxAttempts ∧
      ∀ before, stop.polls? = some before → poll ≤ before
  · obtain ⟨poll, decisive, budget, inTime⟩ := decided
    have single := (ends.decided decisive budget inTime).1
    obtain rfl : 1 = poll := (List.replicate_inj.mp single).1
    exact decisive.2.1 breaks.undecided
  · by_cases stopped : ∃ before, stop.polls? = some before ∧ before < policy.maxAttempts ∧
        ∀ poll, IsDecisive txHash replies poll → before < poll
    · obtain ⟨before, wish, budget, first⟩ := stopped
      cases (ends.cancelled wish budget first).2
    · simp only [not_exists, not_and, Classical.not_forall, Nat.not_le, Nat.not_lt, exists_prop]
        at decided stopped
      cases (ends.timedOut decided stopped).2

end Ends

end Confirmation

namespace Poller

open Confirmation

variable {replies : Nat → Outcome Datum}
variable {stop : Stop}
variable {poller : Poller}

/-- A poller before one of its polls: none so far decided, and the wish to stop was not
seen. -/
structure Underway
    (replies : Nat → Outcome Datum)
    (stop : Stop)
    (poller : Poller) : Prop where
  notDone : poller.isDone = false
  noReceipt : poller.receipt = none
  budget : poller.attempts < poller.policy.maxAttempts
  undecided :
    ∀ poll, 0 < poll → poll ≤ poller.attempts →
      Finding.of poller.txHash (replies poll) = .nothing
  unstopped :
    ∀ before, stop.polls? = some before → poller.attempts ≤ before

/-- The calls of a poller so far. -/
def callsMade (poller : Poller) : List Call :=
  List.replicate poller.attempts (receiptCall poller.txHash)

theorem callsMade_append (poller : Poller) :
    poller.callsMade ++ [receiptCall poller.txHash] = poller.beginPoll.callsMade :=
  List.replicate_succ'.symm

/-- A step in these surroundings sees the wish to stop or gets the next reply. -/
theorem run_step_surroundings (notDone : poller.isDone = false) :
    poller.step.run (surroundings replies stop) poller.callsMade =
      if stop.isSeen poller.attempts then
        ((.ok .cancelled, poller.finish .cancelled), poller.callsMade)
      else
        (poller.beginPoll.settle (.of poller.txHash (replies (poller.attempts + 1))),
          poller.beginPoll.callsMade) := by
  have count : poller.callsMade.length = poller.attempts := List.length_replicate
  rw [step_of_not_isDone notDone]
  change ((if stop.isSeen poller.callsMade.length then _ else _ : Action ConfirmationState).run
    (surroundings replies stop) poller.callsMade) = _
  rw [count]
  split
  · rfl
  · rw [← callsMade_append, ← count]
    rfl

/-- A poller that got no receipt tells only its state and its count. -/
theorem result_finish
    (noReceipt : poller.receipt = none)
    (state : ConfirmationState) :
    (poller.finish state).result = ⟨state, poller.txHash, none, none, poller.attempts⟩ := by
  simp [result, finish, noReceipt]

theorem run_of_isDone (done : poller.isDone = true) :
    poller.run = .done (.ok poller.result, poller) := by
  rw [run_eq, step_of_isDone done, Interaction.bind_done, continueRun_of_isDone done]

theorem Underway.undecided_beginPoll
    (underway : poller.Underway replies stop)
    (nothing : Finding.of poller.txHash (replies (poller.attempts + 1)) = .nothing)
    (poll : Nat)
    (positive : 0 < poll)
    (made : poll ≤ poller.attempts + 1) :
    Finding.of poller.txHash (replies poll) = .nothing := by
  rcases Nat.lt_or_eq_of_le made with earlier | last
  · exact underway.undecided poll positive (Nat.le_of_lt_succ earlier)
  · rw [last]
    exact nothing

theorem Underway.isDecisive
    (underway : poller.Underway replies stop)
    (found : Finding.of poller.txHash (replies (poller.attempts + 1)) ≠ .nothing) :
    IsDecisive poller.txHash replies (poller.attempts + 1) :=
  ⟨Nat.succ_pos _, found, fun earlier positive less =>
    underway.undecided earlier positive (Nat.le_of_lt_succ less)⟩

/-- A wish that was not seen comes with the next poll or later. -/
theorem Underway.unstopped_of_not_isSeen
    (underway : poller.Underway replies stop)
    (unseen : stop.isSeen poller.attempts ≠ true)
    (before : Nat)
    (wish : stop.polls? = some before) :
    poller.attempts + 1 ≤ before := by
  have notEarlier := underway.unstopped before wish
  by_contra notLater
  exact unseen (Stop.isSeen_iff.mpr ⟨before, wish, by omega⟩)

/-- A wish that is seen at last comes with the poll that was made last. -/
theorem polls?_eq_of_isSeen
    {polls : Nat}
    (unstopped : ∀ before, stop.polls? = some before → polls ≤ before)
    (seen : stop.isSeen polls = true) :
    stop.polls? = some polls := by
  obtain ⟨before, wish, notLater⟩ := Stop.isSeen_iff.mp seen
  rw [wish, Nat.le_antisymm notLater (unstopped before wish)]

/-- A run in these surroundings sees the wish to stop, or goes on from the next reply. -/
theorem run_run_surroundings (notDone : poller.isDone = false) :
    poller.run.run (surroundings replies stop) poller.callsMade =
      if stop.isSeen poller.attempts then
        ((.ok (poller.finish .cancelled).result, poller.finish .cancelled), poller.callsMade)
      else
        (continueRun
          (poller.beginPoll.settle (.of poller.txHash (replies (poller.attempts + 1))))).run
            (surroundings replies stop) poller.beginPoll.callsMade := by
  rw [run_eq, Interaction.run_bind, run_step_surroundings notDone]
  split <;> rfl

/-- After a poll that leaves the poller open comes a pause. -/
theorem run_continueRun_of_not_isDone
    {state : ConfirmationState}
    (notDone : poller.isDone = false) :
    (continueRun (.ok state, poller)).run (surroundings replies stop) poller.callsMade =
      (poller.resume (pauseAnswer poller.policy.pollInterval
        (stop.isSeenBeforePause poller.attempts) (stop.isSeenInPause poller.attempts))).run
          (surroundings replies stop) poller.callsMade := by
  have count : poller.callsMade.length = poller.attempts := List.length_replicate
  rw [continueRun_of_not_isDone notDone, ← count]
  rfl

/-- A poll that brings nothing and is not the last one comes before a pause. -/
theorem Underway.run_of_nothing
    (underway : poller.Underway replies stop)
    (unseen : stop.isSeen poller.attempts ≠ true)
    (nothing : Finding.of poller.txHash (replies (poller.attempts + 1)) = .nothing)
    (further : poller.attempts + 1 < poller.policy.maxAttempts) :
    poller.run.run (surroundings replies stop) poller.callsMade =
      (poller.beginPoll.resume (pauseAnswer poller.policy.pollInterval
        (stop.isSeenBeforePause (poller.attempts + 1))
        (stop.isSeenInPause (poller.attempts + 1)))).run
          (surroundings replies stop) poller.beginPoll.callsMade := by
  have unspent : ¬ poller.beginPoll.policy.maxAttempts ≤ poller.beginPoll.attempts :=
    Nat.not_le_of_lt further
  rw [run_run_surroundings underway.notDone, if_neg unseen, nothing, settle, afterNothing,
    if_neg unspent]
  exact run_continueRun_of_not_isDone rfl

/-- A pause that breaks a run off leaves the poller as it is. -/
theorem Underway.run_of_breaksOff
    {misuse : Misuse}
    (underway : poller.Underway replies stop)
    (breaks :
      BreaksOff poller.txHash poller.policy replies stop (poller.attempts + 1) misuse) :
    poller.run.run (surroundings replies stop) poller.callsMade =
      ((.error (.misuse misuse), poller.beginPoll), poller.beginPoll.callsMade) := by
  have unseen : stop.isSeen poller.attempts ≠ true := by
    intro seen
    have seenNow := Stop.isSeenBeforePause_succ seen
    rw [breaks.unseen] at seenNow
    cases seenNow
  rw [underway.run_of_nothing unseen breaks.undecided breaks.further,
    pauseAnswer_eq_error_iff.mpr ⟨breaks.unseen, breaks.unwaitable⟩]
  rfl

/-- The rest of a run ends as the polls, the budget and the wish to stop ask. -/
def RunsAsAsked
    (replies : Nat → Outcome Datum)
    (stop : Stop)
    (poller : Poller) : Prop :=
  EndsAsAsked poller.txHash poller.policy replies stop
    (poller.run.run (surroundings replies stop) poller.callsMade).1.1
    (poller.run.run (surroundings replies stop) poller.callsMade).2

/-! ### One round of a run -/

theorem Underway.runsAsAsked_of_isSeen
    (underway : poller.Underway replies stop)
    (seen : stop.isSeen poller.attempts = true) :
    poller.RunsAsAsked replies stop := by
  rw [RunsAsAsked, run_run_surroundings underway.notDone, if_pos seen,
    result_finish underway.noReceipt]
  exact .of_cancelled (polls?_eq_of_isSeen underway.unstopped seen) underway.budget
    underway.undecided

theorem Underway.runsAsAsked_of_failure
    {failure : Failure}
    (underway : poller.Underway replies stop)
    (unseen : stop.isSeen poller.attempts ≠ true)
    (finding : Finding.of poller.txHash (replies (poller.attempts + 1)) = .failure failure) :
    poller.RunsAsAsked replies stop := by
  have decisive := underway.isDecisive (by simp [finding])
  rw [RunsAsAsked, run_run_surroundings underway.notDone, if_neg unseen, finding]
  exact .of_failure decisive finding underway.budget (underway.unstopped_of_not_isSeen unseen)

theorem Underway.runsAsAsked_of_receipt
    {receipt : Receipt}
    (underway : poller.Underway replies stop)
    (unseen : stop.isSeen poller.attempts ≠ true)
    (finding : Finding.of poller.txHash (replies (poller.attempts + 1)) = .receipt receipt) :
    poller.RunsAsAsked replies stop := by
  have decisive := underway.isDecisive (by simp [finding])
  rw [RunsAsAsked, run_run_surroundings underway.notDone, if_neg unseen, finding, settle,
    continueRun_of_isDone (isDone_afterReceipt _ receipt)]
  exact .of_receipt decisive finding underway.budget (underway.unstopped_of_not_isSeen unseen)

/-- The last poll brings nothing. -/
theorem Underway.runsAsAsked_of_spent
    (underway : poller.Underway replies stop)
    (unseen : stop.isSeen poller.attempts ≠ true)
    (nothing : Finding.of poller.txHash (replies (poller.attempts + 1)) = .nothing)
    (last : poller.policy.maxAttempts ≤ poller.attempts + 1) :
    poller.RunsAsAsked replies stop := by
  have noReceipt : poller.beginPoll.receipt = none := underway.noReceipt
  have spent : poller.beginPoll.policy.maxAttempts ≤ poller.beginPoll.attempts := last
  rw [RunsAsAsked, run_run_surroundings underway.notDone, if_neg unseen, nothing, settle,
    afterNothing, if_pos spent, continueRun_of_isDone rfl, result_finish noReceipt]
  exact .of_timedOut (Nat.le_antisymm last underway.budget) (underway.undecided_beginPoll nothing)
    (underway.unstopped_of_not_isSeen unseen)

/-- The pause behind a poll ends with the wish to stop. -/
theorem Underway.runsAsAsked_of_stopped
    (underway : poller.Underway replies stop)
    (unseen : stop.isSeen poller.attempts ≠ true)
    (nothing : Finding.of poller.txHash (replies (poller.attempts + 1)) = .nothing)
    (further : poller.attempts + 1 < poller.policy.maxAttempts)
    (stopped : pauseAnswer poller.policy.pollInterval
      (stop.isSeenBeforePause (poller.attempts + 1))
      (stop.isSeenInPause (poller.attempts + 1)) = .ok true) :
    poller.RunsAsAsked replies stop := by
  have noReceipt : poller.beginPoll.receipt = none := underway.noReceipt
  have seen : stop.isSeen (poller.attempts + 1) = true := by
    rcases pauseAnswer_eq_ok_iff.mp stopped with ⟨before, -⟩ | ⟨-, -, after⟩
    · exact Stop.isSeen_of_isSeenBeforePause before
    · exact Stop.isSeen_of_isSeenInPause after
  rw [RunsAsAsked, underway.run_of_nothing unseen nothing further, stopped, resume, afterPause,
    run_of_isDone rfl, result_finish noReceipt]
  exact .of_cancelled (polls?_eq_of_isSeen (underway.unstopped_of_not_isSeen unseen) seen) further
    (underway.undecided_beginPoll nothing)

/-- The pause behind a poll is over, and the next round begins. -/
theorem Underway.runsAsAsked_of_rest
    (underway : poller.Underway replies stop)
    (unseen : stop.isSeen poller.attempts ≠ true)
    (nothing : Finding.of poller.txHash (replies (poller.attempts + 1)) = .nothing)
    (further : poller.attempts + 1 < poller.policy.maxAttempts)
    (elapsed : pauseAnswer poller.policy.pollInterval
      (stop.isSeenBeforePause (poller.attempts + 1))
      (stop.isSeenInPause (poller.attempts + 1)) = .ok false)
    (rest : poller.beginPoll.RunsAsAsked replies stop) :
    poller.RunsAsAsked replies stop := by
  rw [RunsAsAsked, underway.run_of_nothing unseen nothing further, elapsed]
  exact rest

theorem Underway.next
    (underway : poller.Underway replies stop)
    (unseen : stop.isSeen poller.attempts ≠ true)
    (nothing : Finding.of poller.txHash (replies (poller.attempts + 1)) = .nothing)
    (further : poller.attempts + 1 < poller.policy.maxAttempts) :
    poller.beginPoll.Underway replies stop where
  notDone := rfl
  noReceipt := underway.noReceipt
  budget := further
  undecided := underway.undecided_beginPoll nothing
  unstopped := underway.unstopped_of_not_isSeen unseen

/-- The rest of a run that no pause breaks off ends as the polls, the budget and the wish to stop
ask. -/
theorem Underway.runsAsAsked
    (underway : poller.Underway replies stop)
    (unbroken : ∀ misuse,
      ¬ BreaksOff poller.txHash poller.policy replies stop (poller.attempts + 1) misuse) :
    poller.RunsAsAsked replies stop := by
  -- One poll fewer is left after each round. A pause that does not fail is one that can be waited
  -- for, so that only the next pause can break the run off.
  induction left : poller.policy.maxAttempts - poller.attempts generalizing poller with
  | zero => exact absurd underway.budget (Nat.not_lt_of_le (Nat.le_of_sub_eq_zero left))
  | succ fewer inductionHypothesis =>
      by_cases seen : stop.isSeen poller.attempts = true
      · exact underway.runsAsAsked_of_isSeen seen
      cases finding : Finding.of poller.txHash (replies (poller.attempts + 1)) with
      | failure failure => exact underway.runsAsAsked_of_failure seen finding
      | receipt receipt => exact underway.runsAsAsked_of_receipt seen finding
      | nothing =>
          rcases Nat.lt_or_ge (poller.attempts + 1) poller.policy.maxAttempts with further | last
          · cases answer : pauseAnswer poller.policy.pollInterval
                (stop.isSeenBeforePause (poller.attempts + 1))
                (stop.isSeenInPause (poller.attempts + 1)) with
            | error misuse =>
                obtain ⟨unseen, unwaitable⟩ := pauseAnswer_eq_error_iff.mp answer
                exact absurd ⟨unwaitable, further, finding, unseen⟩ (unbroken misuse)
            | ok cancelled =>
                cases cancelled with
                | true => exact underway.runsAsAsked_of_stopped seen finding further answer
                | false =>
                    have waitable : pauseFault? poller.policy.pollInterval = none :=
                      ((pauseAnswer_eq_ok_iff.mp answer).resolve_left (by simp)).2.1
                    have next := underway.next seen finding further
                    refine underway.runsAsAsked_of_rest seen finding further answer
                      (inductionHypothesis next ?_ (by simp only [beginPoll]; omega))
                    intro misuse breaks
                    cases waitable.symm.trans breaks.unwaitable
          · exact underway.runsAsAsked_of_spent seen finding last

theorem underway_start
    (replies : Nat → Outcome Datum)
    (stop : Stop)
    (txHash : Datum)
    (policy : Option ReceiptPolicy) :
    (start txHash policy).Underway replies stop where
  notDone := rfl
  noReceipt := rfl
  budget := (policy.getD .default).maxAttempts_pos
  undecided := by
    intro poll positive notLater
    exact absurd positive (Nat.not_lt_of_le notLater)
  unstopped := fun _ _ => Nat.zero_le _

end Poller

namespace Confirmation

/-- A wait is the run of a poller that has just started. -/
theorem run_wait
    (txHash : Datum)
    (policy : Option ReceiptPolicy)
    (replies : Nat → Outcome Datum)
    (stop : Stop) :
    (wait txHash policy).outcome.run (surroundings replies stop) [] =
      (((Poller.start txHash policy).run.run (surroundings replies stop) []).1.1,
        ((Poller.start txHash policy).run.run (surroundings replies stop) []).2) :=
  Interaction.run_bind _ _ _ _

/-- A wait that the first pause breaks off fails after one call. -/
theorem run_wait_of_breaksOff
    {txHash : Datum}
    {policy : Option ReceiptPolicy}
    {replies : Nat → Outcome Datum}
    {stop : Stop}
    {misuse : Misuse}
    (breaks : BreaksOff txHash (policy.getD .default) replies stop 1 misuse) :
    (wait txHash policy).outcome.run (surroundings replies stop) [] =
      (.error (.misuse misuse), List.replicate 1 (receiptCall txHash)) := by
  have underway := Poller.underway_start replies stop txHash policy
  have broken : (Poller.start txHash policy).run.run (surroundings replies stop) [] =
      ((.error (.misuse misuse), (Poller.start txHash policy).beginPoll),
        List.replicate 1 (receiptCall txHash)) := underway.run_of_breaksOff breaks
  rw [run_wait, broken]

/-- A wait ends as asked exactly if the first pause does not break it off. -/
theorem endsAsAsked_wait_iff
    (txHash : Datum)
    (policy : Option ReceiptPolicy)
    (replies : Nat → Outcome Datum)
    (stop : Stop) :
    EndsAsAsked txHash (policy.getD .default) replies stop
        ((wait txHash policy).outcome.run (surroundings replies stop) []).1
        ((wait txHash policy).outcome.run (surroundings replies stop) []).2 ↔
      ∀ misuse, ¬ BreaksOff txHash (policy.getD .default) replies stop 1 misuse := by
  constructor
  · intro ends misuse breaks
    rw [run_wait_of_breaksOff breaks] at ends
    exact breaks.not_endsAsAsked ends
  · intro unbroken
    rw [run_wait]
    exact (Poller.underway_start replies stop txHash policy).runsAsAsked unbroken

/-- Under the policy every wait ends as asked, whatever the node replies and whenever the wish to
stop comes. -/
def EndsEveryWait (policy : ReceiptPolicy) : Prop :=
  ∀ (txHash : Datum) (replies : Nat → Outcome Datum) (stop : Stop),
    EndsAsAsked txHash policy replies stop
      ((wait txHash (some policy)).outcome.run (surroundings replies stop) []).1
      ((wait txHash (some policy)).outcome.run (surroundings replies stop) []).2

/-- An interval that cannot be waited for does no harm where there is no second poll. -/
theorem endsEveryWait_iff
    {policy : ReceiptPolicy} :
    EndsEveryWait policy ↔
      (1 < policy.maxAttempts → pauseFault? policy.pollInterval = none) := by
  constructor
  · intro ends several
    by_contra faulty
    obtain ⟨misuse, unwaitable⟩ := Option.ne_none_iff_exists'.mp faulty
    have unbroken := (endsAsAsked_wait_iff _ (some policy) _ _).mp
      (ends .null (fun _ => .ok .null) .never)
    exact unbroken misuse ⟨unwaitable, several, rfl, rfl⟩
  · intro waitable txHash replies stop
    refine (endsAsAsked_wait_iff txHash (some policy) replies stop).mpr fun misuse breaks => ?_
    cases (waitable breaks.further).symm.trans breaks.unwaitable

/-- How a wait ends, whatever the node replies and whenever the wish to stop comes: as asked, exactly
if the first pause does not break it off. A wait that it breaks off makes no second call, and fails
as the pause does. -/
theorem wait_ends
    (txHash : Datum)
    (policy : Option ReceiptPolicy)
    (replies : Nat → Outcome Datum)
    (stop : Stop) :
    (EndsAsAsked txHash (policy.getD .default) replies stop
        ((wait txHash policy).outcome.run (surroundings replies stop) []).1
        ((wait txHash policy).outcome.run (surroundings replies stop) []).2 ↔
      ∀ misuse, ¬ BreaksOff txHash (policy.getD .default) replies stop 1 misuse) ∧
    ∀ misuse, BreaksOff txHash (policy.getD .default) replies stop 1 misuse →
      (wait txHash policy).outcome.run (surroundings replies stop) [] =
        (.error (.misuse misuse), [receiptCall txHash]) :=
  ⟨endsAsAsked_wait_iff txHash policy replies stop, fun _ => run_wait_of_breaksOff⟩

/-- Two polls, and no end of the pause between them. -/
def endlessPolicy : ReceiptPolicy :=
  ⟨.float (.infinite false), 2, by decide⟩

/-- Not every policy that can be made lets every wait end as asked. -/
theorem not_made_endsEveryWait :
    ¬ ∀ (interval attempts : Datum) (policy : ReceiptPolicy),
      ReceiptPolicy.make interval attempts = .ok policy → EndsEveryWait policy := by
  intro ends
  have made : ReceiptPolicy.make (.float (.infinite false)) (.int 2) = .ok endlessPolicy := rfl
  cases endsEveryWait_iff.mp (ends _ _ _ made) (by decide)

end Confirmation

end ChainClient
