import ChainClient.Datum.Equality
import ChainClient.Failure

/-!
# Receipt policies

How long to wait for a receipt: the pause between two polls, and how many polls there are in all.
-/

namespace ChainClient

/-- How long to wait for a receipt. -/
structure ReceiptPolicy where
  /-- The seconds between two polls: a number that is not negative. -/
  pollInterval : Datum
  maxAttempts : Nat
  maxAttempts_pos : 0 < maxAttempts

namespace ReceiptPolicy

/-- The policy of a caller who gives none. -/
def default : ReceiptPolicy :=
  ⟨.float (Binary64.ofRatio false 3 1), 4, by decide⟩

/-- Why values are no policy. -/
inductive Fault where
  | attemptsNotInteger
  | tooFewAttempts (value : Int)
  | negativeInterval (value : Datum)
  /-- The interval is of a kind that has no order. -/
  | intervalKind

/-- A fault as a misuse, with its note. -/
def Fault.toMisuse : Fault → Misuse
  | attemptsNotInteger => .badValue (some "max_attempts must be an integer")
  | tooFewAttempts value => .badValue ((Decimal.ofInt? value).map fun t =>
      Text.join ["max_attempts must be >= 1, got ", t])
  | negativeInterval value => .badValue (value.shown?.map fun t =>
      Text.join ["poll_interval must be >= 0, got ", t])
  | intervalKind => .wrongKind none

/-- The policy of an interval and a count of attempts. -/
def ofData (pollInterval maxAttempts : Datum) : Except Fault ReceiptPolicy :=
  match maxAttempts with
  | .int n =>
    if h : 1 ≤ n then
      match pollInterval.isBelow? 0 with
      | none => .error .intervalKind
      | some true => .error (.negativeInterval pollInterval)
      | some false => .ok ⟨pollInterval, n.toNat, by omega⟩
    else .error (.tooFewAttempts n)
  | _ => .error .attemptsNotInteger

/-- Makes a policy. -/
def make (pollInterval maxAttempts : Datum) : Except Misuse ReceiptPolicy :=
  (ofData pollInterval maxAttempts).mapError Fault.toMisuse

end ReceiptPolicy

end ChainClient
