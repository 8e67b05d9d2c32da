import ChainClient.Confirmation.Policy
import ChainClient.Confirmation.Result
import ChainClient.Node.Transactions

/-!
# Polling for a receipt

A poller follows one transaction from its submission to a terminal state. A poll whose exchange with
the node fails counts as one without a receipt; every other failure goes to the caller, that of a
pause included, and the poller can be used on.
-/

namespace ChainClient

/-- The state of the search for a receipt. -/
structure Poller where
  txHash : Datum
  policy : ReceiptPolicy
  state : ConfirmationState
  attempts : Nat
  receipt : Option Receipt

namespace Poller

/-- A poller that has not polled yet. -/
def start (txHash : Datum) (policy : Option ReceiptPolicy) : Poller where
  txHash := txHash
  policy := policy.getD .default
  state := .submitted
  attempts := 0
  receipt := none

/-- The poller is in a terminal state. -/
def isDone (poller : Poller) : Bool :=
  poller.state.isTerminal

/-- The poller in a given state. -/
def finish (poller : Poller) (state : ConfirmationState) : Poller :=
  { poller with state }

/-- Notes that the node accepted the submission. -/
def markPending (poller : Poller) : Poller :=
  if poller.state = .submitted then poller.finish .pending else poller

/-- Where the poller stands. -/
def result (poller : Poller) : ConfirmationResult where
  state := poller.state
  txHash := poller.txHash
  receipt := poller.receipt
  errorMessage := poller.receipt.bind Receipt.errorMessage
  attempts := poller.attempts

/-- The poller at the start of a poll, which counts at once. -/
def beginPoll (poller : Poller) : Poller :=
  { poller with state := .pending, attempts := poller.attempts + 1 }

/-- The poller after a poll without a receipt. -/
def afterNothing (poller : Poller) : Poller :=
  if poller.policy.maxAttempts ≤ poller.attempts then poller.finish .timedOut else poller

/-- The poller after a poll that brought a receipt. -/
def afterReceipt (poller : Poller) (receipt : Receipt) : Poller :=
  { poller with
    receipt := some receipt
    state := if receipt.isFailure then .failed else .confirmed }

/-- The poller after a poll, with the failure that goes to the caller if there is one. -/
def afterPoll (poller : Poller) : Outcome (Option Receipt) → Outcome ConfirmationState × Poller
  | .ok (some receipt) =>
    let poller := poller.afterReceipt receipt
    (.ok poller.state, poller)
  | .ok none | .error (.transport _) =>
    let poller := poller.afterNothing
    (.ok poller.state, poller)
  | .error failure => (.error failure, poller)

/-- An interaction of a poller: a result, and the poller afterwards. -/
abbrev Action (α : Type) := Interaction Node.interface (Outcome α × Poller)

/-- At most one poll. -/
def step (poller : Poller) : Action ConfirmationState :=
  if poller.isDone then .done (.ok poller.state, poller)
  else .ask Node.Question.cancelled fun (cancelled : Bool) =>
    if cancelled then .done (.ok .cancelled, poller.finish .cancelled)
    else (Node.getReceipt poller.txHash).outcome.bind fun reply =>
      .done (poller.beginPoll.afterPoll reply)

/-- Polls until the poller is done, at most `fuel` times. -/
def runWith : (fuel : Nat) → Poller → Action ConfirmationResult
  | 0, poller => .done (.ok poller.result, poller)
  | fuel + 1, poller => poller.step.bind fun
    | (.error failure, poller) => .done (.error failure, poller)
    | (.ok _, poller) =>
      if poller.isDone then .done (.ok poller.result, poller)
      else .ask (Node.Question.pause poller.policy.pollInterval) fun
        | (.error misuse : Except Misuse Bool) => .done (.error (.misuse misuse), poller)
        | .ok cancelled => runWith fuel (if cancelled then poller.finish .cancelled else poller)

/-- How many steps a run takes at most: the attempts that are left, and two more. -/
def stepBound (poller : Poller) : Nat :=
  poller.policy.maxAttempts - poller.attempts + 2

/-- Polls until the poller is done. -/
def run (poller : Poller) : Action ConfirmationResult :=
  poller.runWith poller.stepBound

end Poller

namespace Confirmation

/-- Waits until a transaction is confirmed, failed, out of attempts or cancelled. -/
def wait (txHash : Datum) (policy : Option ReceiptPolicy) : Node.Task ConfirmationResult :=
  .ofOutcome ((Poller.start txHash policy).run.bind fun (outcome, _) => .done outcome)

/-- Submits an envelope and waits until its transaction is done. -/
def submitAndWait (envelope : Datum) (policy : Option ReceiptPolicy) :
    Node.Task ConfirmationResult := do
  let txHash ← Node.submit envelope
  let poller := (Poller.start (.text txHash) policy).markPending
  .ofOutcome (poller.run.bind fun (outcome, _) => .done outcome)

end Confirmation

end ChainClient
