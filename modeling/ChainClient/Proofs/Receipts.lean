import ChainClient.Proofs.Confirmation.Polling
import ChainClient.Proofs.Results

/-!
# Replies to a request for a receipt

What becomes of an arbitrary reply of the node. Every member of a record is converted by
itself, and a member that cannot be converted makes the receipt malformed, but for the
logs: a number in their place is no sequence, and that is reported as a misuse.
-/

namespace ChainClient

/-- Truth values, integers and binary64 numbers. -/
def Datum.IsNumber : Datum → Prop
  | .bool _ | .int _ | .float _ => True
  | _ => False

/-- Only what holds no items has none: null and the numbers. -/
theorem Datum.toItems_eq_error_iff
    {datum : Datum}
    {misuse : Misuse} :
    datum.toItems = .error misuse ↔
      misuse = .wrongKind none ∧ (datum = .null ∨ datum.IsNumber) := by
  cases datum <;> simp [toItems, IsNumber, eq_comm]

/-- A bad value, with nothing said about it. -/
def Misuse.IsBadValue (misuse : Misuse) : Prop :=
  misuse = .badValue none

theorem Datum.failsOnlyWith_orBadValue
    {α : Type}
    (value : Option α) :
    FailsOnlyWith Misuse.IsBadValue (orBadValue value) := by
  cases value with
  | none => exact .error rfl
  | some a => exact .ok a

section

variable
    {α : Type}
    {a : α}
    {value : Option α}
    {misuse : Misuse}

theorem Datum.orBadValue_eq_ok_iff :
    orBadValue value = .ok a ↔ value = some a := by
  cases value <;> simp [orBadValue]

theorem Datum.orBadValue_eq_error_iff :
    orBadValue value = .error misuse ↔ misuse = .badValue none ∧ value = none := by
  cases value <;> simp [orBadValue, eq_comm]

end

namespace Receipt

/-! ## Members -/

/-- The receipt of a record's members, but for the logs. -/
def members (record : Entries) : Except Misuse (List Datum → Entries → Receipt) := do
  let transactionHash ← optionalText (record.getD "transactionHash")
  let contractAddress ← optionalText (record.getD "contractAddress")
  let errorMessage ← optionalText (record.getD "errorMessage")
  let blockNumber ← optionalQuantity (record.getD "blockNumber")
  let blockHash ← optionalText (record.getD "blockHash")
  let quotaUsed ← optionalQuantity ((record.get? "quotaUsed").getD (record.getD "gasUsed"))
  return fun logs raw => {
    transactionHash := transactionHash
    contractAddress := contractAddress
    errorMessage := errorMessage
    blockNumber := blockNumber
    blockHash := blockHash
    quotaUsed := quotaUsed
    logs := logs
    raw := raw }

/-- The logs of a record. -/
def logsOf (record : Entries) : Except Misuse (List Datum) :=
  if (record.getD "logs").isTruthy then (record.getD "logs").toItems else pure []

theorem ofRecord_eq (record : Entries) :
    ofRecord record = do
      let receipt ← members record
      let logs ← logsOf record
      return receipt logs record := by
  by_cases truthy : (record.getD "logs").isTruthy = true
  · simp only [ofRecord, members, logsOf, if_pos truthy, bind_assoc, pure_bind]
  · simp only [ofRecord, members, logsOf, if_neg truthy, bind_assoc, pure_bind]

theorem failsOnlyWith_optionalText (datum : Datum) :
    FailsOnlyWith Misuse.IsBadValue (optionalText datum) := by
  unfold optionalText
  split
  · exact .ok none
  · exact (Datum.failsOnlyWith_orBadValue _).map

theorem failsOnlyWith_optionalQuantity (datum : Datum) :
    FailsOnlyWith Misuse.IsBadValue (optionalQuantity datum) := by
  unfold optionalQuantity
  split
  · exact .ok none
  · split
    · exact .ok _
    · exact (Datum.failsOnlyWith_orBadValue _).map

/-- A member that cannot be converted has a bad value. -/
theorem failsOnlyWith_members (record : Entries) :
    FailsOnlyWith Misuse.IsBadValue (members record) := by
  unfold members
  refine (failsOnlyWith_optionalText _).bind fun transactionHash => ?_
  refine (failsOnlyWith_optionalText _).bind fun contractAddress => ?_
  refine (failsOnlyWith_optionalText _).bind fun errorMessage => ?_
  refine (failsOnlyWith_optionalQuantity _).bind fun blockNumber => ?_
  refine (failsOnlyWith_optionalText _).bind fun blockHash => ?_
  refine (failsOnlyWith_optionalQuantity _).bind fun quotaUsed => ?_
  exact .ok _

/-- The other members do not depend on the logs. -/
theorem members_insert_logs
    (record : Entries)
    (value : Datum) :
    members (record.insert "logs" value) = members record := by
  have same (key : Text) (other : "logs" ≠ key) :
      (record.insert "logs" value).get? key = record.get? key :=
    Entries.get?_insert_of_ne other value record
  unfold members
  simp only [Entries.getD, same "transactionHash" (by decide), same "contractAddress" (by decide),
    same "errorMessage" (by decide), same "blockNumber" (by decide), same "blockHash" (by decide),
    same "quotaUsed" (by decide), same "gasUsed" (by decide)]

/-- The logs cannot be read exactly if they are a number other than zero. -/
theorem logsOf_eq_error_iff
    {record : Entries}
    {misuse : Misuse} :
    logsOf record = .error misuse ↔
      misuse = .wrongKind none ∧ (record.getD "logs").IsNumber ∧
        (record.getD "logs").isTruthy = true := by
  unfold logsOf
  split
  · rename_i truthy
    rw [Datum.toItems_eq_error_iff]
    constructor
    · rintro ⟨rfl, null | number⟩
      · simp [null, Datum.isTruthy] at truthy
      · exact ⟨rfl, number, truthy⟩
    · rintro ⟨rfl, number, -⟩
      exact ⟨rfl, .inr number⟩
  · rename_i falsy
    constructor
    · intro fails
      cases fails
    · rintro ⟨-, -, truthy⟩
      exact absurd truthy falsy

/-- A record that is a receipt but for its logs, which are a number other than zero. -/
def HasNumberForLogs (record : Entries) : Prop :=
  (record.getD "logs").IsNumber ∧ (record.getD "logs").isTruthy = true ∧
    ∃ receipt, ofRecord (record.insert "logs" .null) = .ok receipt

theorem exists_ofRecord_insert_logs_iff {record : Entries} :
    (∃ receipt, ofRecord (record.insert "logs" .null) = .ok receipt) ↔
      ∃ receipt, members record = .ok receipt := by
  have noLogs : logsOf (record.insert "logs" .null) = .ok [] := by
    simp [logsOf, Entries.getD, Datum.isTruthy, pure, Except.pure]
  rw [ofRecord_eq, members_insert_logs, noLogs]
  cases members record <;> simp [bind, Except.bind, pure, Except.pure]

/-- A record that is no receipt has a bad value, or a number in place of its logs. -/
theorem ofRecord_eq_error_iff
    {record : Entries}
    {misuse : Misuse}
    (notBad : misuse ≠ .badValue none) :
    ofRecord record = .error misuse ↔ misuse = .wrongKind none ∧ HasNumberForLogs record := by
  rw [ofRecord_eq, bind_eq_error_iff, HasNumberForLogs, exists_ofRecord_insert_logs_iff]
  constructor
  · rintro (fails | ⟨receipt, converted, fails⟩)
    · exact absurd (failsOnlyWith_members record misuse fails) notBad
    · rcases bind_eq_error_iff.mp fails with fails | ⟨_, -, fails⟩
      · obtain ⟨kind, number, truthy⟩ := logsOf_eq_error_iff.mp fails
        exact ⟨kind, number, truthy, receipt, converted⟩
      · cases fails
  · rintro ⟨kind, number, truthy, receipt, converted⟩
    refine .inr ⟨receipt, converted, ?_⟩
    exact bind_eq_error_iff.mpr (.inl (logsOf_eq_error_iff.mpr ⟨kind, number, truthy⟩))

end Receipt

namespace Node

open Receipt

/-! ## Replies -/

theorem isNoReceipt_record (entries : Entries) : isNoReceipt (.record entries) = false := by
  simp [isNoReceipt, Datum.isNull, Datum.equals]

/-- The request for a receipt gives what its reply holds. -/
theorem yields_getReceipt
    (txHash : Datum)
    (reply : Outcome Datum) :
    (getReceipt txHash).outcome.Yields [polled txHash reply] (reply >>= receiptOf txHash) := by
  have asks := bind_getReceipt txHash Interaction.done
  rw [Interaction.bind_done_right] at asks
  rw [asks, yields_askReceipt_iff]
  exact ⟨reply, [], rfl, .done _⟩

/-- A reply that holds no receipt makes an outcome that cannot be used, or a misuse. -/
theorem receiptOf_eq_error
    {txHash reply : Datum}
    {failure : Failure}
    (fails : receiptOf txHash reply = .error failure) :
    (∃ message receipt, failure = .outcome ⟨.unusable, message, txHash, receipt⟩) ∨
      ∃ misuse, failure = .misuse misuse := by
  unfold receiptOf at fails
  split at fails
  · cases fails
  · split at fails
    · split at fails
      · cases fails
      · cases fails
        exact .inl ⟨_, _, rfl⟩
      · cases fails
        exact .inr ⟨_, rfl⟩
    · cases fails
      exact .inl ⟨_, _, rfl⟩

theorem receiptOf_eq_misuse_iff
    {txHash reply : Datum}
    {misuse : Misuse} :
    receiptOf txHash reply = .error (.misuse misuse) ↔
      misuse = .wrongKind none ∧ ∃ entries, reply = .record entries ∧ HasNumberForLogs entries := by
  constructor
  · intro fails
    unfold receiptOf at fails
    split at fails
    · cases fails
    · split at fails
      · rename_i entries _
        split at fails
        · cases fails
        · cases fails
        · rename_i other notBad fault
          cases fails
          obtain ⟨kind, number⟩ := (ofRecord_eq_error_iff (notBad none)).mp fault
          exact ⟨kind, entries, rfl, number⟩
      · cases fails
  · rintro ⟨rfl, entries, rfl, number⟩
    have fault : ofRecord entries = .error (.wrongKind none) :=
      (ofRecord_eq_error_iff (by simp)).mpr ⟨rfl, number⟩
    simp [receiptOf, isNoReceipt_record, fault]

/-- Whatever the node replies, a request for a receipt gives none, gives a receipt, or
fails as an unusable outcome of the transaction, unless a number other than zero stands in
place of the logs of what would else be a receipt: that, and nothing else, is a misuse. -/
theorem getReceipt_reply
    (txHash reply : Datum) :
    (getReceipt txHash).outcome.Yields [polled txHash (.ok reply)] (receiptOf txHash reply) ∧
      ((∃ found, receiptOf txHash reply = .ok found) ∨
        (∃ message receipt, receiptOf txHash reply =
          .error (.outcome ⟨.unusable, message, txHash, receipt⟩)) ∨
        receiptOf txHash reply = .error (.misuse (.wrongKind none))) ∧
      (receiptOf txHash reply = .error (.misuse (.wrongKind none)) ↔
        ∃ entries, reply = .record entries ∧ HasNumberForLogs entries) := by
  refine ⟨yields_getReceipt txHash (.ok reply), ?_, by simp [receiptOf_eq_misuse_iff]⟩
  cases result : receiptOf txHash reply with
  | ok found => exact .inl ⟨found, rfl⟩
  | error failure =>
      rcases receiptOf_eq_error result with ⟨message, receipt, rfl⟩ | ⟨misuse, rfl⟩
      · exact .inr (.inl ⟨message, receipt, rfl⟩)
      · obtain ⟨rfl, -⟩ := receiptOf_eq_misuse_iff.mp result
        exact .inr (.inr rfl)

/-- Not every reply without a receipt is an unusable outcome: five logs are none. -/
theorem not_receiptOf_ok_or_outcome :
    ¬ ∀ txHash reply : Datum,
      (∃ found, receiptOf txHash reply = .ok found) ∨
        ∃ error, receiptOf txHash reply = .error (.outcome error) ∧ error.txHash = txHash := by
  intro every
  have fails : receiptOf (.text "0x00") (.record [("logs", .int 5)]) =
      .error (.misuse (.wrongKind none)) := by rfl
  rcases every (.text "0x00") (.record [("logs", .int 5)]) with ⟨found, is⟩ | ⟨error, is, -⟩
  · rw [fails] at is
    cases is
  · rw [fails] at is
    cases is

end Node

end ChainClient
