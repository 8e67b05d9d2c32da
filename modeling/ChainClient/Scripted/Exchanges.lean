import ChainClient.Rpc.Link

/-!
# Scripted exchanges

A far end that answers each request from a list of responses, for runs without a network.
-/

namespace ChainClient

namespace Scripted

/-- The responses that are left, and the requests so far. -/
structure Exchanges where
  responses : List (Except Rpc.ExchangeFault Rpc.Reply)
  sent : List Rpc.Request := []

/-- Takes the next response. -/
def Exchanges.exchange (request : Rpc.Request) (state : Exchanges) :
    Except Rpc.ExchangeFault Rpc.Reply × Exchanges :=
  let sent := state.sent ++ [request]
  match state.responses with
  | [] => (.error (.network "no scripted response"), { state with sent })
  | response :: responses => (response, { responses, sent })

/-- A link with a scripted far end. -/
def link : Handler Rpc.interface (Rpc.LinkState × Exchanges) :=
  Rpc.link Exchanges.exchange

end Scripted

end ChainClient
