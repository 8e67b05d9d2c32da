import ChainClient.Confirmation.Policy
import ChainClient.Node.Height
import ChainClient.Rpc.Client

/-!
# Settings

Where the node is, which chain it serves, how long to wait for it, and how the client names itself.
Settings are checked when they are made: they keep the values as given, and the checks look at what
the values denote.
-/

namespace ChainClient

/-- The settings of a client, each as given. -/
structure Settings where
  rpcUrl : Datum := .text "http://127.0.0.1:1337"
  chainId : Datum := .int 1
  version : Datum := .int 0
  /-- How long one exchange may take, in seconds. -/
  requestTimeout : Datum := .float (Binary64.ofRatio false 10 1)
  /-- How long to wait for receipts. A caller may withhold it; such settings cannot be listed. -/
  receipt : Option ReceiptPolicy := some .default
  /-- How far above the height of the chain a transaction stays valid. -/
  validUntilMargin : Datum := .int Node.defaultMargin
  userAgent : Datum := .text product

namespace Settings

/-- Text that starts with a scheme of the web, in any case. -/
def hasWebScheme (url : Text) : Bool :=
  (Text.ofString "http://").isPrefixOf url.toLower
    || (Text.ofString "https://").isPrefixOf url.toLower

/-- The address of the node starts with a scheme of the web, unless there is none. -/
def checkUrl (url : Datum) : Except Misuse Unit :=
  if url.isTruthy then
    match url with
    | .text t => if hasWebScheme t then .ok () else
        .error (.badValue (some (Text.join ["URL must start with ('http', 'https'), got: ",
          t.quoted])))
    | .bytes _ => .error (.wrongKind none)
    | _ => .error .noSuchSlot
  else .ok ()

/-- A value denotes an integer within bounds. Otherwise the note tells the rule and the value. -/
def checkRange (low high : Int) (rule : Text) (value : Datum) : Except Misuse Unit := do
  let n ← value.toInt
  if low ≤ n ∧ n ≤ high then .ok ()
  else .error (.badValue (value.shown?.map fun t => Text.join [rule, ", got ", t]))

/-- The largest identifier and version of a chain. -/
def maxChainNumber : Int := Int32.maxValue.toInt

/-- All rules of settings, in the order in which they are reported. -/
def check (settings : Settings) : Except Misuse Unit := do
  checkUrl settings.rpcUrl
  checkRange 0 maxChainNumber "chain_id must fit a non-negative int32" settings.chainId
  checkRange 0 maxChainNumber "version must fit a non-negative int32" settings.version
  checkRange 1 Node.maxMargin "valid_until_margin must be in [1, 100]" settings.validUntilMargin

/-- Makes settings. -/
def make (settings : Settings) : Except Misuse Settings := do
  settings.check
  return settings

/-- What settings denote: every number converted, and the policy taken apart. -/
structure Listing where
  rpcUrl : Datum
  chainId : Int
  version : Int
  requestTimeout : Binary64
  pollInterval : Binary64
  maxAttempts : Nat
  validUntilMargin : Int
  userAgent : Datum

/-- The policy of settings, if they have one. -/
def policy (settings : Settings) : Except Misuse ReceiptPolicy :=
  match settings.receipt with
  | some policy => .ok policy
  | none => .error .noSuchSlot

/-- Lists what settings denote. -/
def listing (settings : Settings) : Except Misuse Listing := do
  let chainId ← settings.chainId.toInt
  let version ← settings.version.toInt
  let requestTimeout ← settings.requestTimeout.toBinary64
  let policy ← settings.policy
  let pollInterval ← policy.pollInterval.toBinary64
  let validUntilMargin ← settings.validUntilMargin.toInt
  return {
    rpcUrl := settings.rpcUrl
    chainId := chainId
    version := version
    requestTimeout := requestTimeout
    pollInterval := pollInterval
    maxAttempts := policy.maxAttempts
    validUntilMargin := validUntilMargin
    userAgent := settings.userAgent }

/-- The record of a listing. -/
def Listing.toRecord (listing : Listing) : Entries :=
  [("rpc_url", listing.rpcUrl), ("chain_id", .int listing.chainId),
    ("version", .int listing.version), ("request_timeout", .float listing.requestTimeout),
    ("poll_interval", .float listing.pollInterval), ("max_attempts", .int listing.maxAttempts),
    ("valid_until_margin", .int listing.validUntilMargin), ("user_agent", listing.userAgent)]

/-- The headers of requests. -/
def headers (settings : Settings) : Entries :=
  Rpc.jsonHeaders settings.userAgent

/-- A client for the node. -/
def client (settings : Settings) : Except Misuse Rpc.Client :=
  Rpc.Client.make settings.rpcUrl settings.requestTimeout settings.headers

end Settings

end ChainClient
