import ChainClient.Node.Basic
import ChainClient.Hex
import ChainClient.Receipt

/-!
# Transactions at the node

Submitting an envelope, once and without repetition, and asking for the receipt of a transaction.
-/

namespace ChainClient

namespace Node

/-- The failure of a reply that holds no hash. -/
def unusableHash (reply : Datum) : Failure :=
  .ofMessage? (fun message => .outcome ⟨.unusable, message, .null, .null⟩)
    (reply.quoted?.map fun t => Text.join ["unexpected RPC result for sendRawTransaction: ", t])

/-- The hash that the node's reply to a submission holds, as such or in its `hash` member. -/
def hashOf (reply : Datum) : Outcome Text :=
  let candidate := match reply with
    | .record entries => Entries.getD entries "hash"
    | other => other
  match candidate with
  | .text t => if t.trim = [] then .error (unusableHash reply) else .ok (Hex.addMark t.trim)
  | _ => .error (unusableHash reply)

/-- Submits an envelope and gives the hash of its transaction. -/
def submit (envelope : Datum) : Task Text :=
  match envelope with
  | .text t => do
    let reply ← call "sendRawTransaction" [.text t]
    Task.ofExcept (hashOf reply)
  | _ => Task.ofExcept (.error (.misuse (.wrongKind (some "envelope_hex must be a 0x-hex string"))))

/-- The replies that tell there is no receipt yet. -/
def isNoReceipt (reply : Datum) : Bool :=
  reply.isNull || reply.equals (.bool false) || reply.equals (.text [])

/-- The receipt that a reply holds, if there is one yet. The message on a malformed receipt does not
repeat which of its values is bad. -/
def receiptOf (txHash reply : Datum) : Outcome (Option Receipt) :=
  if isNoReceipt reply then .ok none
  else match reply with
    | .record entries => match Receipt.ofRecord entries with
      | .ok receipt => .ok (some receipt)
      | .error (.badValue _) => .error (.outcome ⟨.unusable, "malformed receipt", txHash, reply⟩)
      | .error misuse => .error (.misuse misuse)
    | other => .error (.outcome ⟨.unusable,
        Text.join ["unexpected receipt payload: ", other.kindName], txHash, .null⟩)

/-- Asks for the receipt of a transaction. -/
def getReceipt (txHash : Datum) : Task (Option Receipt) := do
  let reply ← call "getTransactionReceipt" [txHash]
  Task.ofExcept (receiptOf txHash reply)

end Node

end ChainClient
