import ChainClient.Interaction

/-!
# The node

What a computation asks of a node and of its own surroundings: calls, and whether it is to stop. A
pause waits for the wish to stop, and fails if it is too long for the clock.
-/

namespace ChainClient

namespace Node

/-- A question to a node, or about the wish to stop. -/
inductive Question where
  /-- A call of a method of the node. -/
  | call (method : Text) (params : List Datum)
  /-- Whether the wish to stop was expressed. -/
  | cancelled
  /-- Waits for the given time, or until the wish to stop is expressed, and tells whether it was. -/
  | pause (interval : Datum)

/-- The questions to a node and their answers. -/
def interface : Interface where
  Question := Question
  Answer
    | .call .. => Outcome Datum
    | .cancelled => Bool
    | .pause _ => Except Misuse Bool

/-- How many nanoseconds a second has. -/
def nanosecondsPerSecond : Int := 1000000000

/-- The first count of nanoseconds that the clock cannot wait for, which is 2^63. -/
def pauseBound : Int := 0x8000000000000000

/-- The seconds are more than the clock can wait for. They are compared as they are: none are so
close below the bound that their nanoseconds would be rounded up to it. -/
def isTooLong : Binary64 → Bool
  | .infinite negative => !negative
  | seconds => match seconds.units? with
    | some units => pauseBound * Binary64.unitsPerOne ≤ units * nanosecondsPerSecond
    | none => false

/-- Why an interval cannot be waited for. What is below zero or not a number is over at once. -/
def pauseFault? : Datum → Option Misuse
  | .float seconds => if isTooLong seconds then some .tooLarge else none
  | seconds => match seconds.integer? with
    | some n => if pauseBound ≤ n * nanosecondsPerSecond then some .tooLarge else none
    | none => some (.wrongKind none)

/-- How a pause ends: at once if the wish to stop was expressed before it, else with a fault or with
what holds when the interval is over. -/
def pauseAnswer (interval : Datum) (before after : Bool) : Except Misuse Bool :=
  if before then .ok true
  else match pauseFault? interval with
    | some misuse => .error misuse
    | none => .ok after

/-- A computation that uses a node and may fail. -/
abbrev Task := ChainClient.Task interface

/-- Calls a method of the node. -/
def call (method : Text) (params : List Datum) : Task Datum :=
  .ofOutcome (.question (I := interface) (.call method params))

end Node

end ChainClient
