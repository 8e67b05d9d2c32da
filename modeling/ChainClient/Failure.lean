import ChainClient.Datum.Convert
import ChainClient.Datum.Display

/-!
# Failures

Every way in which an operation of the library can fail. The library's own failures tell what rule
was broken; a misuse is everything else.
-/

namespace ChainClient

/-- An error object that the node sent in place of a result, with the call it answers. -/
structure RemoteError where
  code : Int
  message : Text
  data : Datum
  method : Datum
  requestId : Datum

namespace RemoteError

/-- The code of an error object that has none, or one that is no number. -/
def serverErrorCode : Int := -32000

/-- The codes that have a name. -/
def codeNames : List (Int × Text) :=
  [(-32700, "PARSE_ERROR"), (-32600, "INVALID_REQUEST"), (-32601, "METHOD_NOT_FOUND"),
    (-32602, "INVALID_PARAMS"), (-32603, "INTERNAL_ERROR"), (serverErrorCode, "SERVER_ERROR"),
    (-32006, "TX_POOL_REJECTED"), (-32003, "TX_INVALID")]

/-- The name of the error's code. -/
def codeName? (e : RemoteError) : Option Text :=
  codeNames.lookup e.code

end RemoteError

/-- An exchange with the node that brought no usable reply. -/
structure TransportError where
  message : Text
  method : Datum
  requestId : Datum
  httpStatus : Datum

/-- How a transaction came to be without a usable outcome. -/
inductive OutcomeKind where
  | unusable
  | failed
  | timedOut
  | cancelled
deriving DecidableEq

/-- A transaction that has no usable outcome. -/
structure OutcomeError where
  kind : OutcomeKind
  message : Text
  txHash : Datum
  receipt : Datum

/-- Why an operation failed. -/
inductive Failure where
  /-- An amount is neither hexadecimal nor decimal, or out of range. -/
  | malformedValue (message : Text)
  /-- A field of a transaction breaks a rule. -/
  | invalidField (field reason : Text)
  /-- Key material or a signature is unusable. -/
  | signing (message : Text)
  /-- Bytes break the schema of a transaction or an envelope. -/
  | malformedEnvelope (message : Text)
  /-- The node answered with an error object. -/
  | remote (error : RemoteError)
  /-- The exchange with the node failed. -/
  | transport (error : TransportError)
  /-- A transaction has no usable outcome. -/
  | outcome (error : OutcomeError)
  /-- No rule of the library applies. -/
  | misuse (misuse : Misuse)

/-- A result or a failure. -/
abbrev Outcome := Except Failure

namespace Failure

/-- The library's own failures, as against misuse. -/
def IsOwn : Failure → Prop
  | misuse _ => False
  | _ => True

instance : DecidablePred IsOwn := fun failure => by
  cases failure <;> simp only [IsOwn] <;> infer_instance

/-- A message, or the misuse of a value that has no written form. -/
def orUnwritable : Option Text → Outcome Text
  | some t => .ok t
  | none => .error (.misuse (.badValue none))

/-- The text of a datum for a message. -/
def shown (d : Datum) : Outcome Text :=
  orUnwritable d.shown?

/-- The failure that a fault of the given category with this message is. A fault whose message
cannot be written is a misuse. -/
def ofMessage? (category : Text → Failure) : Option Text → Failure
  | some message => category message
  | none => .misuse (.badValue none)

/-- A misuse is a failure. -/
def liftMisuse : Except Misuse α → Outcome α
  | .ok a => .ok a
  | .error m => .error (.misuse m)

end Failure

namespace RemoteError

/-- The code of an error object's `code` member. -/
def codeOf (code : Datum) : Except Misuse Int :=
  match code.toInt with
  | .ok n => .ok n
  | .error (.badValue _) | .error (.wrongKind _) => .ok serverErrorCode
  | .error misuse => .error misuse

/-- Reads the error member of a reply: a record with a code and a message, or anything else. -/
def ofReply (reply method requestId : Datum) : Outcome RemoteError :=
  match reply with
  | .record entries => do
    let code ← match Entries.get? "code" entries with
      | some code => Failure.liftMisuse (codeOf code)
      | none => pure serverErrorCode
    let message ← match Entries.get? "message" entries with
      | some message => Failure.shown message
      | none => pure "Unknown JSON-RPC error"
    return ⟨code, message, Entries.getD entries "data", method, requestId⟩
  | other => do
    let message ← Failure.shown other
    return ⟨serverErrorCode, message, .null, method, requestId⟩

/-- The text of a node's error. -/
def toText (e : RemoteError) : Option Text := do
  let method ← if e.method.isTruthy then e.method.shown? else some "?"
  let code ← Decimal.ofInt? e.code
  let id ← if e.requestId.isNull then some [] else e.requestId.shown?.map fun t => Text.join [" id=", t]
  let data ← if e.data.isNull then some [] else e.data.quoted?.map fun t => Text.join [" data=", t]
  return Text.join ["node error in ", method, ": [", code, "] ", e.message, id, data]

end RemoteError

namespace TransportError

/-- The text of a failed exchange. -/
def toText (e : TransportError) : Option Text := do
  let method ← if e.method.isTruthy then e.method.shown? else some "-"
  let id ← if e.requestId.isNull then some [] else e.requestId.shown?.map fun t => Text.join [" id=", t]
  let status ← if e.httpStatus.isNull then some []
    else e.httpStatus.shown?.map fun t => Text.join [" http=", t]
  return Text.join ["transport[", method, "]: ", e.message, id, status]

end TransportError

namespace OutcomeError

/-- The word that opens the text of an outcome. -/
def title : OutcomeKind → Text
  | .unusable => "TxError"
  | .failed => "TxFailedError"
  | .timedOut => "TxTimeoutError"
  | .cancelled => "TxCancelledError"

/-- The text of an outcome. -/
def toText (e : OutcomeError) : Option Text := do
  let hash ← if e.txHash.isTruthy then e.txHash.shown?.map fun t => Text.join [" tx=", t]
    else some []
  return Text.join [title e.kind, hash, ": ", e.message]

end OutcomeError

namespace Failure

/-- The text of a failure of the library's own. -/
def toText : Failure → Option Text
  | malformedValue message | signing message | malformedEnvelope message => some message
  | invalidField field reason => some (Text.join ["invalid field ", field.quoted, ": ", reason])
  | remote error => error.toText
  | transport error => error.toText
  | outcome error => error.toText
  | misuse _ => none

end Failure

end ChainClient
