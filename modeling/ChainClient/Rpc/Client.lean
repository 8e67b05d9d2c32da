import ChainClient.Datum.Equality
import ChainClient.Json.Encoding
import ChainClient.Json.Writer
import ChainClient.Rpc.Headers
import ChainClient.Rpc.Link

/-!
# The client of a node

Calls of a node by JSON-RPC, alone or in a batch. A call answers with its own result or fails; a
batch matches its replies by identifier. Nothing is sent a second time.
-/

namespace ChainClient

namespace Rpc

/-- Where a client sends its requests, and what it adds to them. -/
structure Client where
  url : Datum
  timeout : Datum
  headers : Entries

namespace Client

/-- The headers of a client's requests. -/
def requestHeaders (client : Client) : Entries :=
  mergeHeaders client.headers

/-- The request of a client that carries a text. -/
def request (client : Client) (body : Text) : Request where
  url := client.url
  timeout := client.timeout
  headers := client.requestHeaders
  body := body

/-- A client, if its headers can be sent. -/
def make (url timeout : Datum) (headers : Entries) : Except Misuse Client :=
  match headers.forM fun (name, value) => checkHeader name value with
  | .ok () => .ok ⟨url, timeout, headers⟩
  | .error misuse => .error misuse

end Client

/-- A request to call a method. -/
structure Call where
  method : Datum
  params : List Datum
  id : Nat

namespace Call

/-- The record of a request. -/
def toDatum (request : Call) : Datum :=
  .record [("jsonrpc", .text "2.0"), ("method", request.method),
    ("params", .list request.params), ("id", .int request.id)]

end Call

/-- The parameters that a caller gives: none, or a list. -/
def positional : Datum → Except Misuse (List Datum)
  | .null => .ok []
  | .list items => .ok items
  | other => .error (.wrongKind (some
      (Text.join ["params must be an ordered sequence, got ", other.kindName])))

/-- Draws a request identifier. -/
def drawId : Task Nat :=
  .ofOutcome (.ask Question.drawId fun (id : Nat) => .done (.ok id))

/-- Makes a request. Parameters that are no sequence use up no identifier. -/
def makeCall (method params : Datum) : Task Call := do
  let params ← Task.ofExcept (Failure.liftMisuse (positional params))
  let id ← drawId
  return ⟨method, params, id⟩

/-- Closes the link. -/
def close : Task Unit :=
  .ofOutcome (.ask Question.close fun _ => .done (.ok ()))

/-- What a failed exchange was about. -/
structure Subject where
  method : Datum
  requestId : Option Nat

/-- The failure of an exchange. -/
def Subject.failure (subject : Subject) (message : Text) (status : Option Nat) : Failure :=
  .transport ⟨message, subject.method, .ofNat? subject.requestId, .ofNat? status⟩

/-- The failure of an exchange whose message may have no written form. -/
def Subject.failure? (subject : Subject) (message : Option Text) (status : Option Nat) : Failure :=
  .ofMessage? (fun message => subject.failure message status) message

/-- The failure of an exchange that brought nothing. What is neither a timeout nor an error of the
network goes to the caller as it is. -/
def Subject.lost (subject : Subject) : ExchangeFault → Failure
  | .timeout message => subject.failure (Text.join ["timeout: ", message]) none
  | .network message => subject.failure (Text.join ["network error: ", message]) none
  | .other misuse => .misuse misuse

/-- The error member of a reply, if there is one that is not null. -/
def errorOf? (reply : Datum) : Option Datum :=
  match reply with
  | .record entries => match Entries.get? "error" entries with
    | none | some .null => none
    | some error => some error
  | _ => none

/-- The text of a body that is no JSON, as far as messages show it. -/
def bodyExcerpt (body : Text) : Text :=
  Text.quoted (body.take 256)

/-- The failure of an exchange that brought a body that is no JSON. Its message shows the text of
the body; a body without a text is a misuse. -/
def Subject.notJson (subject : Subject) (reply : Reply) : Failure :=
  match reply.text with
  | .ok body => subject.failure (Text.join ["non-JSON response: ", bodyExcerpt body])
      (some reply.status)
  | .error misuse => .misuse misuse

/-- The document of a reply. A reply with an error status has to hold an error object. -/
def readReply (subject : Subject) (reply : Reply) : Outcome Datum :=
  match Json.parseBytes? reply.body with
  | none => .error (subject.notJson reply)
  | some document =>
    if 400 ≤ reply.status ∧ (errorOf? document).isNone then
      .error (subject.failure (Text.join ["HTTP ", Decimal.ofNat reply.status]) (some reply.status))
    else .ok document

/-- The text of a request, if it has one in UTF-8. -/
def bodyOf (payload : Datum) : Except Misuse Text :=
  match Json.write Json.compact payload with
  | .error misuse => .error misuse
  | .ok body => if body.IsScalar then .ok body else .error .notEncodable

/-- Exchanges a request for a reply: its document, and its status. -/
def post (client : Client) (subject : Subject) (payload : Datum) : Task (Datum × Nat) :=
  .ofOutcome <| .ask Question.isOpen fun (isOpen : Bool) =>
    if ¬ isOpen then .done (.error (subject.failure "client is closed" none))
    else match bodyOf payload with
      | .error misuse => .done (.error (.misuse misuse))
      | .ok body =>
        .ask (Question.exchange (client.request body)) fun
          | .error fault => .done (.error (subject.lost fault))
          | .ok reply =>
            .done ((readReply subject reply).map fun document => (document, reply.status))

/-- The result in the reply to a call. -/
def resultOf (request : Call) (status : Nat) (entries : Entries) : Outcome Datum :=
  let subject : Subject := ⟨request.method, some request.id⟩
  match errorOf? (.record entries) with
  | some error => do
    let error ← RemoteError.ofReply error request.method
      ((entries.get? "id").getD (.int request.id))
    throw (.remote error)
  | none =>
    let id := entries.getD "id"
    if ¬ id.equals (.int request.id) then
      .error (subject.failure? (id.quoted?.map fun t => Text.join ["response id ", t,
        " does not match request id ", Decimal.ofNat request.id]) (some status))
    else match entries.get? "result" with
      | some result => .ok result
      | none => .error (subject.failure "malformed JSON-RPC response (no result)" (some status))

/-- The result in the document of a reply to a call. -/
def resultOfDocument (request : Call) (status : Nat) : Datum → Outcome Datum
  | .record entries => resultOf request status entries
  | other => .error (Subject.failure ⟨request.method, some request.id⟩
      (Text.join ["expected a JSON-RPC object, got ", other.kindName]) (some status))

/-- Calls a method. -/
def call (client : Client) (method params : Datum) : Task Datum := do
  let request ← makeCall method params
  let (document, status) ← post client ⟨method, some request.id⟩ request.toDatum
  Task.ofExcept (resultOfDocument request status document)

/-- What a failed batch was about. -/
def batchSubject : Subject := ⟨.text "batch", none⟩

/-- The replies to the requests of a batch, by their identifiers; the newest is first. -/
abbrev ById := List (Nat × Entries)

/-- The identifier among those of the requests that a datum equals. -/
def matchId? (requests : List Call) (id : Datum) : Option Nat :=
  (requests.find? fun request => id.equals (.int request.id)).map Call.id

/-- Lists and records are not fit to be identifiers. -/
def isIdKind : Datum → Bool
  | .list _ | .record _ => false
  | _ => true

/-- The failure of an item that belongs to no request. -/
def unexpectedItem (status : Nat) (item : Datum) : Failure :=
  batchSubject.failure? (item.quoted?.map fun t =>
    Text.join ["unexpected item in batch response: ", t]) (some status)

/-- The request identifier of an item, and the item's entries. -/
def classify (requests : List Call) (status : Nat) (item : Datum) : Outcome (Nat × Entries) :=
  match item with
  | .record entries =>
    let id := Entries.getD entries "id"
    if ¬ isIdKind id then .error (.misuse (.wrongKind none))
    else match matchId? requests id with
      | some id => .ok (id, entries)
      | none => .error (unexpectedItem status item)
  | _ => .error (unexpectedItem status item)

/-- Sorts the items of a reply by identifier. The first item that belongs to no request fails. -/
def collect (requests : List Call) (status : Nat) (items : List Datum) : Outcome ById :=
  items.foldlM (fun byId item => (classify requests status item).map (· :: byId)) []

/-- The result of one request of a batch. -/
def resultById (status : Nat) (byId : ById) (request : Call) : Outcome Datum :=
  match byId.lookup request.id with
  | some entries => resultOf request status entries
  | none => .error (Subject.failure ⟨request.method, some request.id⟩
      (Text.join ["missing result for id ", Decimal.ofNat request.id]) (some status))

/-- The results in the document of a reply to a batch, in the order of the requests. -/
def resultsOfDocument (requests : List Call) (status : Nat) : Datum → Outcome (List Datum)
  | .list items => do
    let byId ← collect requests status items
    requests.mapM (resultById status byId)
  | document => match errorOf? document, document with
    | some error, .record entries => do
      let error ← RemoteError.ofReply error batchSubject.method (Entries.getD entries "id")
      throw (.remote error)
    | _, _ => .error (batchSubject.failure "batch response is not a list" (some status))

/-- Calls several methods with one exchange. Without calls there is none. -/
def batch (client : Client) (calls : List (Datum × Datum)) : Task (List Datum) := do
  let requests ← calls.mapM fun (method, params) => makeCall method params
  if requests.isEmpty then return []
  let (document, status) ← post client batchSubject (.list (requests.map Call.toDatum))
  Task.ofExcept (resultsOfDocument requests status document)

end Rpc

end ChainClient
