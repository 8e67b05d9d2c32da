import ChainClient.Confirmation.Poller
import ChainClient.Proofs.Traces
import Mathlib.Tactic.Common

/-!
# Steps and runs of a poller

All that a step of a poller can do, and the loop of a run: a step, and unless it ended
or failed a pause and, if the pause does not fail, the rest of the run. The bound on the
number of steps never cuts a run short, since every step that leaves the poller
unfinished uses up an attempt that was left.
-/

namespace ChainClient

namespace Node

variable {α β : Type}

/-! ## Questions and exchanges -/

/-- Asks for the wish to stop. -/
def askCancelled (next : Bool → Interaction interface α) : Interaction interface α :=
  .ask Question.cancelled next

/-- Pauses. -/
def askPause
    (interval : Datum)
    (next : Except Misuse Bool → Interaction interface α) : Interaction interface α :=
  .ask (Question.pause interval) next

/-- Asks for the receipt of a transaction. -/
def askReceipt
    (txHash : Datum)
    (next : Outcome Datum → Interaction interface α) : Interaction interface α :=
  .ask (Question.call "getTransactionReceipt" [txHash]) next

/-- The wish to stop was asked for. -/
def asked (cancelled : Bool) : Exchange interface :=
  ⟨Question.cancelled, cancelled⟩

/-- A pause was made, or failed. -/
def paused
    (interval : Datum)
    (answer : Except Misuse Bool) : Exchange interface :=
  ⟨Question.pause interval, answer⟩

/-- The receipt of a transaction was asked for. -/
def polled
    (txHash : Datum)
    (reply : Outcome Datum) : Exchange interface :=
  ⟨Question.call "getTransactionReceipt" [txHash], reply⟩

theorem yields_askCancelled_iff
    {next : Bool → Interaction interface α}
    {trace : List (Exchange interface)}
    {result : α} :
    (askCancelled next).Yields trace result ↔
      ∃ cancelled rest, trace = asked cancelled :: rest ∧ (next cancelled).Yields rest result :=
  Interaction.yields_ask_iff

theorem yields_askPause_iff
    {interval : Datum}
    {next : Except Misuse Bool → Interaction interface α}
    {trace : List (Exchange interface)}
    {result : α} :
    (askPause interval next).Yields trace result ↔
      ∃ answer rest, trace = paused interval answer :: rest ∧
        (next answer).Yields rest result :=
  Interaction.yields_ask_iff

theorem yields_askReceipt_iff
    {txHash : Datum}
    {next : Outcome Datum → Interaction interface α}
    {trace : List (Exchange interface)}
    {result : α} :
    (askReceipt txHash next).Yields trace result ↔
      ∃ reply rest, trace = polled txHash reply :: rest ∧ (next reply).Yields rest result :=
  Interaction.yields_ask_iff

/-- A call of a method with its parameters. -/
abbrev Call := Text × List Datum

/-- The call that asks for the receipt of a transaction. -/
def receiptCall (txHash : Datum) : Call :=
  ("getTransactionReceipt", [txHash])

/-- The call in an exchange, if there is one, with its reply. -/
def callOf? : Exchange interface → Option (Call × Outcome Datum)
  | ⟨Question.call method params, reply⟩ => some ((method, params), reply)
  | ⟨Question.cancelled, _⟩ => none
  | ⟨Question.pause _, _⟩ => none

/-- The calls along a trace, with their replies. -/
def calls (trace : List (Exchange interface)) : List (Call × Outcome Datum) :=
  trace.filterMap callOf?

@[simp] theorem calls_nil :
    calls [] = [] := rfl

@[simp] theorem calls_append (front behind : List (Exchange interface)) :
    calls (front ++ behind) = calls front ++ calls behind :=
  List.filterMap_append

@[simp] theorem calls_asked_cons
    (cancelled : Bool)
    (trace : List (Exchange interface)) :
    calls (asked cancelled :: trace) = calls trace := rfl

@[simp] theorem calls_paused_cons
    (interval : Datum)
    (answer : Except Misuse Bool)
    (trace : List (Exchange interface)) :
    calls (paused interval answer :: trace) = calls trace := rfl

@[simp] theorem calls_polled_cons
    (txHash : Datum)
    (reply : Outcome Datum)
    (trace : List (Exchange interface)) :
    calls (polled txHash reply :: trace) = (receiptCall txHash, reply) :: calls trace := rfl

/-! ## Findings -/

/-- What the reply to a poll brings. -/
inductive Finding where
  | nothing
  | receipt (receipt : Receipt)
  | failure (failure : Failure)

/-- What a reply brings: a failed exchange brings nothing. -/
def Finding.of
    (txHash : Datum)
    (reply : Outcome Datum) : Finding :=
  match reply >>= receiptOf txHash with
  | .ok (some found) => .receipt found
  | .ok none | .error (.transport _) => .nothing
  | .error reason => .failure reason

/-- To ask for a receipt is one call. Its reply is read as a receipt. -/
theorem bind_getReceipt
    (txHash : Datum)
    (next : Outcome (Option Receipt) → Interaction interface α) :
    (getReceipt txHash).outcome.bind next =
      askReceipt txHash fun reply => next (reply >>= receiptOf txHash) := by
  change Interaction.ask _ _ = Interaction.ask _ _
  congr 1
  funext reply
  cases (reply : Outcome Datum) with
  | ok datum => rfl
  | error failure => rfl

end Node

open Node

namespace Poller

/-! ## Steps -/

/-- Whatever a receipt says, it ends the search. -/
@[simp] theorem isDone_afterReceipt
    (poller : Poller)
    (receipt : Receipt) :
    (poller.afterReceipt receipt).isDone = true := by
  cases failed : receipt.isFailure <;>
    simp [isDone, afterReceipt, failed, ConfirmationState.isTerminal]

/-- To note the submission leaves a poller as it is, or makes an open one pending. -/
theorem markPending_eq_or (poller : Poller) :
    poller.markPending = poller ∨
      poller.isDone = false ∧ poller.markPending = poller.finish .pending := by
  unfold markPending
  split
  · next submitted =>
      refine .inr ⟨?_, rfl⟩
      rw [isDone, submitted]
      rfl
  · exact .inl rfl

/-- What a poll does to a poller that counted it. -/
def settle (poller : Poller) : Finding → Outcome ConfirmationState × Poller
  | .nothing => (.ok poller.afterNothing.state, poller.afterNothing)
  | .receipt receipt => (.ok (poller.afterReceipt receipt).state, poller.afterReceipt receipt)
  | .failure failure => (.error failure, poller)

/-- What a poll brings touches neither the count nor the order of a poller. -/
theorem settle_kept
    (poller : Poller)
    (finding : Finding) :
    (poller.settle finding).2.attempts = poller.attempts ∧
      (poller.settle finding).2.txHash = poller.txHash ∧
      (poller.settle finding).2.policy = poller.policy := by
  cases finding with
  | failure failure => exact ⟨rfl, rfl, rfl⟩
  | receipt receipt => exact ⟨rfl, rfl, rfl⟩
  | nothing =>
      simp only [settle, afterNothing]
      split <;> exact ⟨rfl, rfl, rfl⟩

theorem afterPoll_eq_settle
    (poller : Poller)
    (reply : Outcome Datum) :
    poller.afterPoll (reply >>= receiptOf poller.txHash) =
      poller.settle (.of poller.txHash reply) := by
  simp only [Finding.of]
  cases (reply >>= receiptOf poller.txHash) with
  | ok found =>
      cases found with
      | none => rfl
      | some receipt => rfl
  | error failure => cases failure <;> rfl

theorem step_of_isDone
    {poller : Poller}
    (done : poller.isDone = true) :
    poller.step = .done (.ok poller.state, poller) := by
  rw [step, if_pos done]

theorem step_of_not_isDone
    {poller : Poller}
    (notDone : poller.isDone = false) :
    poller.step = askCancelled fun cancelled =>
      if cancelled then .done (.ok .cancelled, poller.finish .cancelled)
      else askReceipt poller.txHash fun reply =>
        .done (poller.beginPoll.settle (.of poller.txHash reply)) := by
  have settled : (fun reply => Interaction.done (I := interface)
      (poller.beginPoll.afterPoll (reply >>= receiptOf poller.txHash))) =
        fun reply => .done (poller.beginPoll.settle (.of poller.txHash reply)) :=
    funext fun reply => congrArg Interaction.done (poller.beginPoll.afterPoll_eq_settle reply)
  rw [step, if_neg (by simp [notDone])]
  simp only [bind_getReceipt]
  rw [settled]
  rfl

/-- All that a step can do: nothing in a terminal state, give up, or poll. -/
inductive Steps (poller : Poller) :
    List (Exchange interface) → Outcome ConfirmationState → Poller → Prop
  | idle :
      poller.isDone = true →
      Steps poller [] (.ok poller.state) poller
  | cancelled :
      poller.isDone = false →
      Steps poller [asked true] (.ok .cancelled) (poller.finish .cancelled)
  | polled (reply : Outcome Datum) :
      poller.isDone = false →
      Steps poller [asked false, Node.polled poller.txHash reply]
        (poller.beginPoll.settle (.of poller.txHash reply)).1
        (poller.beginPoll.settle (.of poller.txHash reply)).2

/-- A step does one of these things and no other. -/
theorem yields_step_iff
    {poller after : Poller}
    {trace : List (Exchange interface)}
    {outcome : Outcome ConfirmationState} :
    poller.step.Yields trace (outcome, after) ↔ poller.Steps trace outcome after := by
  constructor
  · intro yields
    cases done : poller.isDone with
    | true =>
        rw [step_of_isDone done, Interaction.yields_done_iff] at yields
        obtain ⟨rfl, equal⟩ := yields
        cases equal
        exact .idle done
    | false =>
        rw [step_of_not_isDone done, yields_askCancelled_iff] at yields
        obtain ⟨cancelled, rest, rfl, yields⟩ := yields
        cases cancelled with
        | true =>
            rw [if_pos rfl, Interaction.yields_done_iff] at yields
            obtain ⟨rfl, equal⟩ := yields
            cases equal
            exact .cancelled done
        | false =>
            rw [if_neg Bool.false_ne_true, yields_askReceipt_iff] at yields
            obtain ⟨reply, rest, rfl, yields⟩ := yields
            obtain ⟨rfl, equal⟩ := Interaction.yields_done_iff.mp yields
            obtain ⟨rfl, rfl⟩ : outcome = _ ∧ after = _ := Prod.ext_iff.mp equal
            exact .polled reply done
  · intro steps
    cases steps with
    | idle done =>
        rw [step_of_isDone done]
        exact .done _
    | cancelled notDone =>
        rw [step_of_not_isDone notDone, yields_askCancelled_iff]
        exact ⟨true, [], rfl, .done _⟩
    | polled reply notDone =>
        rw [step_of_not_isDone notDone, yields_askCancelled_iff]
        exact ⟨false, _, rfl, yields_askReceipt_iff.mpr ⟨reply, [], rfl, .done _⟩⟩

/-! ## Runs -/

/-- The poller after a pause between two polls. A pause that fails leaves it as it is. -/
def afterPause (poller : Poller) : Except Misuse Bool → Poller
  | .ok true => poller.finish .cancelled
  | .ok false | .error _ => poller

/-- Whatever the answer to a pause is, the poller stays, or an open one is cancelled. -/
theorem afterPause_eq_or
    (poller : Poller)
    (answer : Except Misuse Bool) :
    poller.afterPause answer = poller ∨ poller.afterPause answer = poller.finish .cancelled := by
  rcases answer with misuse | cancelled
  · exact .inl rfl
  · cases cancelled with
    | true => exact .inr rfl
    | false => exact .inl rfl

theorem stepBound_afterPause
    (poller : Poller)
    (answer : Except Misuse Bool) :
    (poller.afterPause answer).stepBound = poller.stepBound := by
  rcases poller.afterPause_eq_or answer with same | cancelled
  · rw [same]
  · rw [cancelled]
    rfl

/-- A step that leaves the poller unfinished uses up an attempt that was left. -/
theorem Steps.stepBound_lt
    {poller after : Poller}
    {trace : List (Exchange interface)}
    {state : ConfirmationState}
    (steps : poller.Steps trace (.ok state) after)
    (unfinished : after.isDone = false) :
    after.stepBound < poller.stepBound := by
  generalize equal : Except.ok state = outcome at steps
  cases steps with
  | idle done => simp [done] at unfinished
  | cancelled notDone => cases unfinished
  | polled reply notDone =>
      cases finding : Finding.of poller.txHash reply with
      | nothing =>
          simp only [finding, settle, afterNothing] at unfinished ⊢
          split at unfinished
          · cases unfinished
          · rename_i more
            rw [if_neg more]
            simp only [beginPoll, stepBound] at more ⊢
            omega
      | receipt receipt => simp [finding, settle] at unfinished
      | failure failure => simp [finding, settle] at equal

/-- What a run does after a pause. -/
def resume (poller : Poller) : Except Misuse Bool → Action ConfirmationResult
  | .error misuse => .done (.error (.misuse misuse), poller)
  | .ok cancelled => (poller.afterPause (.ok cancelled)).run

/-- What a run does after its first step. -/
def continueRun : Outcome ConfirmationState × Poller → Action ConfirmationResult
  | (.error failure, poller) => .done (.error failure, poller)
  | (.ok _, poller) =>
      if poller.isDone then .done (.ok poller.result, poller)
      else askPause poller.policy.pollInterval poller.resume

theorem continueRun_of_isDone
    {poller : Poller}
    {state : ConfirmationState}
    (done : poller.isDone = true) :
    continueRun (.ok state, poller) = .done (.ok poller.result, poller) :=
  if_pos done

theorem continueRun_of_not_isDone
    {poller : Poller}
    {state : ConfirmationState}
    (notDone : poller.isDone = false) :
    continueRun (.ok state, poller) = askPause poller.policy.pollInterval poller.resume :=
  if_neg (Bool.eq_false_iff.mp notDone)

/-- With a bound, too, a run is a step and what follows it, if the bound cuts short no poller that
has fewer steps left. -/
theorem runWith_succ_eq
    {fuel : Nat}
    {poller : Poller}
    (uncut : ∀ after : Poller, after.stepBound < poller.stepBound → after.runWith fuel = after.run) :
    poller.runWith (fuel + 1) = poller.step.bind continueRun := by
  rw [runWith]
  refine Interaction.bind_congr ?_
  rintro trace ⟨outcome, after⟩ yields
  cases outcome with
  | error failure => rfl
  | ok state =>
      cases unfinished : after.isDone with
      | true => simp [continueRun, unfinished]
      | false =>
          have less := (yields_step_iff.mp yields).stepBound_lt unfinished
          simp only [continueRun, unfinished, Bool.false_eq_true, if_false]
          refine congrArg (askPause _) (funext fun answer => ?_)
          rcases answer with misuse | cancelled
          · rfl
          · rw [← stepBound_afterPause after (.ok cancelled)] at less
            have rest := uncut _ less
            cases cancelled with
            | true => exact rest
            | false => exact rest

/-- The bound on the steps cuts no run short. -/
theorem runWith_eq_run
    {fuel : Nat}
    {poller : Poller}
    (enough : poller.stepBound ≤ fuel) :
    poller.runWith fuel = poller.run := by
  induction steps : poller.stepBound using Nat.strongRecOn generalizing poller fuel with
  | _ count inductionHypothesis =>
      -- Either bound leaves a step, and what follows it has fewer steps left.
      have uncut : ∀ {most : Nat}, count ≤ most + 1 → ∀ after : Poller,
          after.stepBound < poller.stepBound → after.runWith most = after.run := by
        intro most above after less
        exact inductionHypothesis _ (steps ▸ less) (by omega) rfl
      obtain ⟨fewer, rfl⟩ : ∃ fewer, count = fewer + 1 := ⟨_, steps.symm⟩
      obtain ⟨most, rfl⟩ : ∃ most, fuel = most + 1 := ⟨fuel - 1, by omega⟩
      rw [runWith_succ_eq (uncut (by omega)), run, steps,
        runWith_succ_eq (uncut (Nat.le_refl _))]

/-- A run is a step and what follows it. -/
theorem run_eq (poller : Poller) :
    poller.run = poller.step.bind continueRun := by
  have enough : poller.stepBound ≤ poller.stepBound + 1 := Nat.le_succ _
  rw [← runWith_eq_run enough]
  exact runWith_succ_eq fun after less => runWith_eq_run (Nat.le_of_lt less)

/-- All that a run can do: fail at its first step, end with it, fail in the pause behind it, or pause
and run on. -/
inductive Runs : Poller →
    List (Exchange interface) → Outcome ConfirmationResult → Poller → Prop
  | failed
      {poller after : Poller}
      {trace : List (Exchange interface)}
      {failure : Failure} :
      poller.Steps trace (.error failure) after →
      Runs poller trace (.error failure) after
  | ended
      {poller after : Poller}
      {trace : List (Exchange interface)}
      {state : ConfirmationState} :
      poller.Steps trace (.ok state) after →
      after.isDone = true →
      Runs poller trace (.ok after.result) after
  | broken
      {poller between : Poller}
      {trace : List (Exchange interface)}
      {state : ConfirmationState}
      (misuse : Misuse) :
      poller.Steps trace (.ok state) between →
      between.isDone = false →
      Runs poller (trace ++ [paused between.policy.pollInterval (.error misuse)])
        (.error (.misuse misuse)) between
  | again
      {poller between after : Poller}
      {front behind : List (Exchange interface)}
      {state : ConfirmationState}
      {cancelled : Bool}
      {outcome : Outcome ConfirmationResult} :
      poller.Steps front (.ok state) between →
      between.isDone = false →
      Runs (between.afterPause (.ok cancelled)) behind outcome after →
      Runs poller (front ++ paused between.policy.pollInterval (.ok cancelled) :: behind) outcome
        after

/-- A run does nothing else. -/
theorem runs_of_yields
    {poller after : Poller}
    {trace : List (Exchange interface)}
    {outcome : Outcome ConfirmationResult}
    (yields : poller.run.Yields trace (outcome, after)) :
    poller.Runs trace outcome after := by
  -- The attempts that are left shrink from one step to the next.
  induction bound : poller.stepBound using Nat.strongRecOn
    generalizing poller trace with
  | _ bound inductionHypothesis =>
      rw [run_eq, Interaction.yields_bind_iff] at yields
      obtain ⟨front, ⟨stepped, between⟩, behind, rfl, first, second⟩ := yields
      have steps := yields_step_iff.mp first
      cases stepped with
      | error failure =>
          obtain ⟨rfl, equal⟩ := Interaction.yields_done_iff.mp second
          cases equal
          rw [List.append_nil]
          exact .failed steps
      | ok state =>
          cases unfinished : between.isDone with
          | true =>
              rw [continueRun_of_isDone unfinished, Interaction.yields_done_iff] at second
              obtain ⟨rfl, equal⟩ := second
              cases equal
              rw [List.append_nil]
              exact .ended steps unfinished
          | false =>
              rw [continueRun_of_not_isDone unfinished, yields_askPause_iff] at second
              obtain ⟨answer, rest, rfl, second⟩ := second
              cases answer with
              | error misuse =>
                  obtain ⟨rfl, equal⟩ := Interaction.yields_done_iff.mp second
                  cases equal
                  exact .broken misuse steps unfinished
              | ok cancelled =>
                  have less := steps.stepBound_lt unfinished
                  rw [← stepBound_afterPause between (.ok cancelled), bound] at less
                  exact .again steps unfinished (inductionHypothesis _ less second rfl)

/-- Each of these things is one that a run does. -/
theorem Runs.yields
    {poller after : Poller}
    {trace : List (Exchange interface)}
    {outcome : Outcome ConfirmationResult}
    (runs : poller.Runs trace outcome after) :
    poller.run.Yields trace (outcome, after) := by
  induction runs with
  | failed steps =>
      rw [run_eq, Interaction.yields_bind_iff]
      exact ⟨_, _, [], (List.append_nil _).symm, yields_step_iff.mpr steps, .done _⟩
  | ended steps done =>
      rw [run_eq, Interaction.yields_bind_iff]
      refine ⟨_, _, [], (List.append_nil _).symm, yields_step_iff.mpr steps, ?_⟩
      rw [continueRun_of_isDone done]
      exact .done _
  | broken misuse steps unfinished =>
      rw [run_eq, Interaction.yields_bind_iff]
      refine ⟨_, _, _, rfl, yields_step_iff.mpr steps, ?_⟩
      rw [continueRun_of_not_isDone unfinished, yields_askPause_iff]
      exact ⟨.error misuse, [], rfl, .done _⟩
  | again steps unfinished runs inductionHypothesis =>
      rw [run_eq, Interaction.yields_bind_iff]
      refine ⟨_, _, _, rfl, yields_step_iff.mpr steps, ?_⟩
      rw [continueRun_of_not_isDone unfinished, yields_askPause_iff]
      exact ⟨_, _, rfl, inductionHypothesis⟩

/-- A run does one of these things and no other. -/
theorem yields_run_iff
    {poller after : Poller}
    {trace : List (Exchange interface)}
    {outcome : Outcome ConfirmationResult} :
    poller.run.Yields trace (outcome, after) ↔ poller.Runs trace outcome after :=
  ⟨runs_of_yields, Runs.yields⟩

end Poller

end ChainClient
