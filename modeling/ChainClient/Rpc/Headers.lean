import ChainClient.UserAgent

/-!
# Headers of requests

Every request has three headers; a caller's headers replace those of the same name, and names are
compared without regard to case when a request is sent.
-/

namespace ChainClient

namespace Rpc

/-- The headers of a caller who gives none, with the given user agent. -/
def jsonHeaders (agent : Datum) : Entries :=
  [("Content-Type", .text "application/json"), ("Accept", .text "application/json"),
    ("User-Agent", agent)]

/-- The default headers with a caller's put over them. -/
def mergeHeaders (given : Entries) : Entries :=
  given.foldl (fun headers (name, value) => headers.insert name value)
    (jsonHeaders (.text product))

/-- Text that stands in a header is ASCII. -/
def checkHeaderText (t : Text) : Except Misuse Unit :=
  if t.all fun c => c.val < 0x80 then .ok () else .error .notEncodable

/-- The name and the value of a header have to be ASCII text; the value may be given as bytes. -/
def checkHeader (name : Text) (value : Datum) : Except Misuse Unit := do
  checkHeaderText name
  match value with
  | .text t => checkHeaderText t
  | .bytes _ => .ok ()
  | _ => .error (.wrongKind none)

/-- What the node sees of a value. -/
def headerText? : Datum → Option Text
  | .text t => some t
  | .bytes bytes => some (bytes.map CodePoint.ofByte)
  | _ => none

/-- The values of the headers with a name, in any case. -/
def headerValues (headers : Entries) (name : Text) : List Text :=
  headers.filterMap fun (key, value) =>
    if key.toLower = name.toLower then headerText? value else none

/-- What the node sees for a name: the values with a comma between them, if there are any. -/
def header? (headers : Entries) (name : Text) : Option Text :=
  match headerValues headers name with
  | [] => none
  | values => some ((Text.ofString ", ").intercalate values)

end Rpc

end ChainClient
