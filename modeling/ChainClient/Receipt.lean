import ChainClient.Datum.Equality
import ChainClient.Failure
import ChainClient.Quantity

/-!
# Receipts

The node's account of an executed transaction. The members of its record are converted one by one;
a transaction whose receipt has an error message has failed, whatever else the receipt says.
-/

namespace ChainClient

/-- The account of an executed transaction. -/
structure Receipt where
  transactionHash : Option Text
  contractAddress : Option Text
  errorMessage : Option Text
  blockNumber : Option Int
  blockHash : Option Text
  quotaUsed : Option Int
  logs : List Datum
  /-- The record that the node sent. -/
  raw : Entries

namespace Receipt

/-- A member that is text; any other kind counts by its text. -/
def optionalText : Datum → Except Misuse (Option Text)
  | .null => .ok none
  | d => some <$> Datum.orBadValue d.shown?

/-- The integer of a literal in a receipt. Unlike in a reply of its own, the mark of base sixteen is
part of the literal. -/
def quantityOfLiteral? (literal : Text) : Option Int :=
  let t := literal.trim
  if Hex.hasMark t then if t.length = 2 then some 0 else Numeral.parseInt? .sixteen t
  else Numeral.parseInt? .ten t

/-- A member that is a quantity. -/
def optionalQuantity (d : Datum) : Except Misuse (Option Int) :=
  if d.isNull ∨ d.equals (.text []) then .ok none
  else match d.integer? with
    | some n => .ok (some n)
    | none => some <$> Datum.orBadValue (d.shown?.bind quantityOfLiteral?)

/-- The receipt of a record. -/
def ofRecord (record : Entries) : Except Misuse Receipt := do
  let transactionHash ← optionalText (record.getD "transactionHash")
  let contractAddress ← optionalText (record.getD "contractAddress")
  let errorMessage ← optionalText (record.getD "errorMessage")
  let blockNumber ← optionalQuantity (record.getD "blockNumber")
  let blockHash ← optionalText (record.getD "blockHash")
  let quotaUsed ← optionalQuantity ((record.get? "quotaUsed").getD (record.getD "gasUsed"))
  let logs := record.getD "logs"
  let logs ← if logs.isTruthy then logs.toItems else pure []
  return {
    transactionHash := transactionHash
    contractAddress := contractAddress
    errorMessage := errorMessage
    blockNumber := blockNumber
    blockHash := blockHash
    quotaUsed := quotaUsed
    logs := logs
    raw := record }

/-- The transaction failed: there is an error message. -/
def isFailure (receipt : Receipt) : Bool :=
  match receipt.errorMessage with
  | none | some [] => false
  | some _ => true

end Receipt

end ChainClient
