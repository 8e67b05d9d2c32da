import ChainClient.Node.Basic
import ChainClient.Rpc.Client

/-!
# A node behind a link

A client over a link answers the questions to a node; the wish to stop is a flag beside the link.
-/

namespace ChainClient

namespace Rpc

/-- A link, and whether the wish to stop was expressed. -/
structure Surroundings (σ : Type) where
  link : σ
  cancelled : Bool := false

/-- Answers the questions to a node by calls over a link. Nobody expresses the wish to stop during a
pause. -/
def nodeHandler (client : Client) (handle : Handler interface σ) :
    Handler Node.interface (Surroundings σ)
  | .call method params, state =>
    let (result, link) := (call client (.text method) (.list params)).outcome.run handle state.link
    (result, { state with link })
  | .cancelled, state => (state.cancelled, state)
  | .pause interval, state => (Node.pauseAnswer interval state.cancelled state.cancelled, state)

end Rpc

end ChainClient
