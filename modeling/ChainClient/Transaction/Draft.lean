import ChainClient.Amount
import ChainClient.Datum.Octets
import ChainClient.Datum.Equality
import ChainClient.Transaction.Nonce

/-!
# Transactions and drafts

A transaction has eight fields of fixed types. A draft is the object a program holds while it puts a
transaction together: its slots take any value, until it is frozen for signing.
-/

namespace ChainClient

/-- A transaction: what a builder accepted or a decoder read. -/
structure Transaction where
  /-- The recipient, empty for a transaction that creates a contract. -/
  recipient : Text
  nonce : Nonce
  quota : UInt64
  /-- The last block that may hold the transaction. -/
  validUntilBlock : UInt64
  version : Int32
  chainId : Int32
  amount : Amount
  payload : Bytes
deriving DecidableEq

/-- The values of the eight slots. -/
structure Slots where
  recipient : Datum
  nonce : Datum
  quota : Datum
  validUntilBlock : Datum
  version : Datum
  chainId : Datum
  value : Datum
  data : Datum

/-- A transaction that is being put together. -/
structure Draft where
  slots : Slots
  /-- The draft is frozen if this is true in the sense of a datum. -/
  frozenMark : Datum := .bool false

/-- The name of a slot. -/
inductive Slot where
  | recipient
  | nonce
  | quota
  | validUntilBlock
  | version
  | chainId
  | value
  | data
deriving DecidableEq

namespace Slot

/-- All slots. -/
def all : List Slot :=
  [recipient, nonce, quota, validUntilBlock, version, chainId, value, data]

/-- The name by which programs and messages call a slot. -/
def name : Slot → Text
  | recipient => "to"
  | nonce => "nonce"
  | quota => "quota"
  | validUntilBlock => "valid_until_block"
  | version => "version"
  | chainId => "chain_id"
  | value => "value"
  | data => "data"

/-- The slot with a name. -/
def ofName? (name : Text) : Option Slot :=
  all.find? fun slot => slot.name = name

end Slot

namespace Slots

/-- The value of a slot. -/
def get (slots : Slots) : Slot → Datum
  | .recipient => slots.recipient
  | .nonce => slots.nonce
  | .quota => slots.quota
  | .validUntilBlock => slots.validUntilBlock
  | .version => slots.version
  | .chainId => slots.chainId
  | .value => slots.value
  | .data => slots.data

/-- The slots with a new value in one of them. -/
def set (slots : Slots) (slot : Slot) (value : Datum) : Slots :=
  match slot with
  | .recipient => { slots with recipient := value }
  | .nonce => { slots with nonce := value }
  | .quota => { slots with quota := value }
  | .validUntilBlock => { slots with validUntilBlock := value }
  | .version => { slots with version := value }
  | .chainId => { slots with chainId := value }
  | .value => { slots with value := value }
  | .data => { slots with data := value }

/-- The slots hold equal values. -/
def equals (left right : Slots) : Bool :=
  Slot.all.all fun slot => (left.get slot).equals (right.get slot)

end Slots

namespace Transaction

/-- The slots that show a transaction. -/
def toSlots (tx : Transaction) : Slots where
  recipient := .text tx.recipient
  nonce := .int tx.nonce.val
  quota := .int tx.quota.toNat
  validUntilBlock := .int tx.validUntilBlock.toNat
  version := .int tx.version.toInt
  chainId := .int tx.chainId.toInt
  value := .text tx.amount.canonical
  data := .text (Hex.encodeMarked tx.payload)

/-- A draft of the transaction, not yet frozen. -/
def toDraft (tx : Transaction) : Draft where
  slots := tx.toSlots

end Transaction

namespace Draft

/-- The slot of the mark that freezes a draft. -/
def frozenName : Text := "_frozen"

/-- The name by which an object tells its kind. No datum is a kind, so no value fits. -/
def kindSlotName : Text := "__class__"

/-- A frozen draft takes no more values. -/
def IsFrozen (draft : Draft) : Prop :=
  draft.frozenMark.isTruthy = true

instance : DecidablePred IsFrozen := fun _ => inferInstanceAs (Decidable (_ = true))

/-- The failure to change a frozen draft. -/
def frozenFailure (name : Text) : Failure :=
  .invalidField name "transaction is frozen after serialization for signing"

/-- Puts a value into the slot of a name. -/
def assign (draft : Draft) (name : Text) (value : Datum) : Outcome Draft :=
  if draft.IsFrozen then .error (frozenFailure name)
  else if name = frozenName then .ok { draft with frozenMark := value }
  else if name = kindSlotName then .error (.misuse (.wrongKind none))
  else match Slot.ofName? name with
    | some slot => .ok { draft with slots := draft.slots.set slot value }
    | none => .error (.misuse .noSuchSlot)

/-- The draft, frozen. -/
def freeze (draft : Draft) : Draft :=
  { draft with frozenMark := .bool true }

/-- A draft without a recipient creates a contract. -/
def isContractCreation (draft : Draft) : Bool :=
  draft.slots.recipient.equals (.text [])

/-- The wire form of a nonce: its hexadecimal digits, without a mark and leading zeros. -/
def hexOfNonce : Datum → Except Misuse Text
  | .int n => .ok (Hex.ofInt n)
  | .bool b => .ok (Hex.ofNat b.toNat)
  | .float _ | .text _ => .error (.badValue none)
  | _ => .error (.wrongKind none)

/-- The wire form of a draft's nonce. -/
def nonceHex (draft : Draft) : Except Misuse Text :=
  hexOfNonce draft.slots.nonce

/-- The record of a draft, by the names that the node uses. -/
def toRecord (draft : Draft) : Except Misuse Datum := do
  let nonce ← draft.nonceHex
  let slots := draft.slots
  return .record [("to", slots.recipient), ("nonce", .text nonce), ("quota", slots.quota),
    ("validUntilBlock", slots.validUntilBlock), ("version", slots.version),
    ("chainId", slots.chainId), ("value", slots.value), ("data", slots.data)]

@[simp] theorem isFrozen_freeze (draft : Draft) : draft.freeze.IsFrozen := rfl

/-- A frozen draft refuses every value. -/
theorem assign_of_isFrozen {draft : Draft} (frozen : draft.IsFrozen) (name : Text)
    (value : Datum) : draft.assign name value = .error (frozenFailure name) := by
  simp [assign, frozen]

end Draft

end ChainClient
