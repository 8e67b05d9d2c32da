import ChainClient.Receipt

/-!
# Results of confirmations

The states of a confirmation, and what it ends with.
-/

namespace ChainClient

/-- How far a confirmation has come. -/
inductive ConfirmationState where
  | submitted
  | pending
  | confirmed
  | failed
  | timedOut
  | cancelled
deriving DecidableEq

namespace ConfirmationState

/-- A state that is not left any more. -/
def isTerminal : ConfirmationState → Bool
  | submitted | pending => false
  | confirmed | failed | timedOut | cancelled => true

/-- The name of a state. -/
def name : ConfirmationState → Text
  | submitted => "submitted"
  | pending => "pending"
  | confirmed => "confirmed"
  | failed => "failed"
  | timedOut => "timed_out"
  | cancelled => "cancelled"

/-- All states. -/
def all : List ConfirmationState :=
  [submitted, pending, confirmed, failed, timedOut, cancelled]

/-- The state with a name. -/
def ofName? (name : Text) : Option ConfirmationState :=
  all.find? fun state => state.name = name

end ConfirmationState

/-- What a confirmation ended with, or where it stands. -/
structure ConfirmationResult where
  state : ConfirmationState
  txHash : Datum
  receipt : Option Receipt
  errorMessage : Option Text
  attempts : Int

namespace ConfirmationResult

/-- The transaction is confirmed. -/
def isOk (result : ConfirmationResult) : Bool :=
  result.state = .confirmed

/-- The address of the contract that the transaction created. -/
def contractAddress (result : ConfirmationResult) : Option Text :=
  result.receipt.bind Receipt.contractAddress

/-- The record of the receipt, null if there is none. -/
def rawReceipt (result : ConfirmationResult) : Datum :=
  match result.receipt with
  | some receipt => .record receipt.raw
  | none => .null

/-- The message of a failed transaction. -/
def failureMessage (result : ConfirmationResult) : Text :=
  match result.errorMessage with
  | none | some [] => "transaction failed"
  | some message => message

/-- The failure that stands for a result without success. -/
def failure (result : ConfirmationResult) : OutcomeError :=
  match result.state with
  | .failed => ⟨.failed, result.failureMessage, result.txHash, result.rawReceipt⟩
  | .timedOut => ⟨.timedOut,
      Text.join ["no receipt after ", Decimal.ofInt result.attempts, " attempts"],
      result.txHash, .null⟩
  | .cancelled => ⟨.cancelled, "confirmation cancelled", result.txHash, .null⟩
  | state => ⟨.unusable, Text.join ["confirmation not finished (state=", state.name, ")"],
      result.txHash, .null⟩

/-- The receipt of a confirmed transaction; every other result is a failure. -/
def unwrap (result : ConfirmationResult) : Outcome Receipt :=
  match result.state, result.receipt with
  | .confirmed, some receipt => .ok receipt
  | _, _ => .error (.outcome result.failure)

end ConfirmationResult

end ChainClient
