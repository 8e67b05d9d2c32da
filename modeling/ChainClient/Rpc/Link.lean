import ChainClient.Interaction
import ChainClient.Text.Utf8

/-!
# The link to a node

What a client asks of the link that it shares with the program's other threads: the next request
identifier, whether the link is open, the exchange of a request for a reply, and to be closed.
-/

namespace ChainClient

namespace Rpc

/-- What is handed to the library that makes exchanges: where the request goes, how long it may
take, and what it carries. -/
structure Request where
  url : Datum
  timeout : Datum
  headers : Entries
  body : Text

/-- What comes back. -/
structure Reply where
  status : Nat
  body : Bytes
  /-- What the library reads the body as: UTF-8, unless the reply names another charset. A body may
  break the rules of its charset. -/
  text : Except Misuse Text := .ok (Utf8.decodeLossy body)

/-- Why nothing came back. -/
inductive ExchangeFault where
  | timeout (message : Text)
  | network (message : Text)
  /-- The library fails in another way, as it does for an address that it cannot read. -/
  | other (misuse : Misuse)

/-- A library that makes exchanges, with a state of its own: it turns each request into a reply, or
fails. -/
abbrev Library (σ : Type) := Request → σ → Except ExchangeFault Reply × σ

/-- A question to the link. -/
inductive Question where
  /-- Draws the next request identifier; no two draws give the same. -/
  | drawId
  | isOpen
  | exchange (request : Request)
  | close

/-- The questions to a link and their answers. -/
def interface : Interface where
  Question := Question
  Answer
    | .drawId => Nat
    | .isOpen => Bool
    | .exchange _ => Except ExchangeFault Reply
    | .close => Unit

/-- A computation that uses a link and may fail. -/
abbrev Task := ChainClient.Task interface

/-- The part of a link that does not depend on the node: the identifier that is drawn next, and
whether the link is open. -/
structure LinkState where
  nextId : Nat := 1
  isOpen : Bool := true
deriving DecidableEq

/-- Draws the next identifier. -/
def LinkState.draw (state : LinkState) : Nat × LinkState :=
  (state.nextId, { state with nextId := state.nextId + 1 })

/-- The link once it is closed. -/
def LinkState.close (state : LinkState) : LinkState :=
  { state with isOpen := false }

/-- A link over a library that exchanges requests for replies. -/
def link (exchange : Library σ) : Handler interface (LinkState × σ)
  | .drawId, (state, far) => (state.draw.1, (state.draw.2, far))
  | .isOpen, (state, far) => (state.isOpen, (state, far))
  | .exchange request, (state, far) => ((exchange request far).1, (state, (exchange request far).2))
  | .close, (state, far) => ((), (state.close, far))

end Rpc

end ChainClient
