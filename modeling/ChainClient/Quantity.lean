import ChainClient.Failure
import ChainClient.Text.Blank

/-!
# Quantities of the node

Heights and other quantities come from the node as integer literals, in base sixteen behind a mark
and in base ten without one, or as integers.
-/

namespace ChainClient

namespace Quantity

/-- The integer that a literal of the node denotes. A mark alone is zero. -/
def ofLiteral? (literal : Text) : Option Int :=
  let t := literal.trim
  if Hex.hasMark t then
    match t.drop 2 with
    | [] => some 0
    | digits => Numeral.parseInt? .sixteen digits
  else Numeral.parseInt? .ten t

/-- The misuse of a value that is no quantity; its note shows the value. -/
def notQuantity (value : Datum) : Misuse :=
  .badValue (value.quoted?.map fun t => Text.join ["not a quantity: ", t])

/-- Reads a quantity. -/
def parse : Datum → Except Misuse Int
  | .int n => .ok n
  | .text literal => match ofLiteral? literal with
    | some n => .ok n
    | none => .error (.badValue none)
  | other => .error (notQuantity other)

end Quantity

end ChainClient
