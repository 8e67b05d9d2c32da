import ChainClient.FanOut
import ChainClient.Scripted.Node

/-!
# Scripted clients for fan-out

The surroundings of the work on one item: a client of its own with a scripted node, and the wish to
stop, which all items share.
-/

namespace ChainClient

namespace Scripted

/-- The client of one item: its node, and how often it was made and closed. -/
structure ClientState where
  node : NodeState
  /-- The client can be closed. -/
  closable : Bool := true
  opened : Nat := 0
  closed : Nat := 0

/-- A client of one item together with the shared wish to stop. -/
def client : Handler FanOut.interface (ClientState × Bool)
  | .openClient, (state, cancelled) => ((), ({ state with opened := state.opened + 1 }, cancelled))
  | .node question, (state, cancelled) =>
    let (answer, node) := Scripted.node question { state.node with cancelled }
    (answer, ({ state with node }, node.cancelled))
  | .closeClient, (state, cancelled) =>
    ((), (if state.closable then { state with closed := state.closed + 1 } else state, cancelled))

end Scripted

end ChainClient
