import ChainClient.Node.Basic
import ChainClient.Quantity
import ChainClient.Transaction.Builder

/-!
# The height of the chain

The number of the newest block, and the last block that a new transaction may be in.
-/

namespace ChainClient

namespace Node

/-- The margin above the height, and the largest one that nodes accept. -/
def defaultMargin : Nat := 80
def maxMargin : Int := 100

/-- The failure of a height that is no quantity. -/
def unexpectedHeight (reply : Datum) : Failure :=
  .ofMessage? (fun message => .transport ⟨message, .text "blockNumber", .null, .null⟩)
    (reply.quoted?.map fun t => Text.join ["unexpected blockNumber result: ", t])

/-- The height that a reply tells. -/
def heightOf (reply : Datum) : Outcome Int :=
  match Quantity.parse reply with
  | .ok height => .ok height
  | .error _ => .error (unexpectedHeight reply)

/-- The height of the chain. -/
def blockNumber : Task Int := do
  let reply ← call "blockNumber" []
  Task.ofExcept (heightOf reply)

/-- The last block for a transaction that is made now: the height and a margin. -/
def validUntil (margin : Datum) : Task Int := do
  let margin ← Task.ofExcept (Transaction.requireInt "margin" 1 maxMargin margin)
  let height ← blockNumber
  return height + margin

end Node

end ChainClient
