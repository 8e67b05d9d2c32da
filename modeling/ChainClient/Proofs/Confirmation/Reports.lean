import ChainClient.Proofs.Confirmation.Histories
import ChainClient.Proofs.Receipts

/-!
# What the result of a poller reports

A poller holds a receipt only if its last poll brought it, and no poll before that one brought any.
So the result is a success exactly if the transaction is confirmed, and then it is the receipt of
that poll. Every other state has its own failure, and none of them hides a receipt but the one of a
failed transaction, which carries the record that the node sent.
-/

namespace ChainClient

namespace Receipt

variable
    {record : Entries}
    {receipt : Receipt}

/-- Members are converted, the record is kept. -/
theorem raw_of_members
    {convert : List Datum → Entries → Receipt}
    (converted : members record = .ok convert)
    (logs : List Datum)
    (raw : Entries) :
    (convert logs raw).raw = raw := by
  unfold members at converted
  obtain ⟨transactionHash, -, converted⟩ := bind_eq_ok_iff.mp converted
  obtain ⟨contractAddress, -, converted⟩ := bind_eq_ok_iff.mp converted
  obtain ⟨errorMessage, -, converted⟩ := bind_eq_ok_iff.mp converted
  obtain ⟨blockNumber, -, converted⟩ := bind_eq_ok_iff.mp converted
  obtain ⟨blockHash, -, converted⟩ := bind_eq_ok_iff.mp converted
  obtain ⟨quotaUsed, -, converted⟩ := bind_eq_ok_iff.mp converted
  cases converted
  rfl

theorem raw_of_ofRecord
    (read : ofRecord record = .ok receipt) :
    receipt.raw = record := by
  rw [ofRecord_eq] at read
  obtain ⟨convert, converted, read⟩ := bind_eq_ok_iff.mp read
  obtain ⟨logs, -, read⟩ := bind_eq_ok_iff.mp read
  cases read
  exact raw_of_members converted logs record

end Receipt

namespace Node

variable
    {txHash : Datum}
    {receipt : Receipt}

/-- A reply that holds a receipt is the record of that receipt. -/
theorem eq_record_of_receiptOf
    {reply : Datum}
    (read : receiptOf txHash reply = .ok (some receipt)) :
    reply = .record receipt.raw := by
  unfold receiptOf at read
  split at read
  · cases read
  · split at read
    · next entries =>
        split at read
        · next converted =>
            cases read
            rw [Receipt.raw_of_ofRecord converted]
        · cases read
        · cases read
    · cases read

/-- A poll brings a receipt exactly if the reply is a record that reads as this receipt. -/
theorem finding_eq_receipt_iff
    {reply : Outcome Datum} :
    Finding.of txHash reply = .receipt receipt ↔
      reply = .ok (.record receipt.raw) ∧
        receiptOf txHash (.record receipt.raw) = .ok (some receipt) := by
  constructor
  · intro brought
    unfold Finding.of at brought
    split at brought
    · next found read =>
        cases brought
        obtain ⟨datum, rfl, read⟩ := bind_eq_ok_iff.mp read
        obtain rfl := eq_record_of_receiptOf read
        exact ⟨rfl, read⟩
    · cases brought
    · cases brought
    · cases brought
  · rintro ⟨rfl, read⟩
    have bound : (Except.ok (Datum.record receipt.raw) >>= receiptOf txHash) =
        .ok (some receipt) := read
    rw [Finding.of, bound]

/-- The reply to a poll brings no receipt: the node has none, or the poll failed. -/
def BringsNone
    (txHash : Datum)
    (reply : Outcome Datum) : Prop :=
  ∀ receipt, Finding.of txHash reply ≠ .receipt receipt

end Node

open Node

namespace Poller

variable
    {poller : Poller}
    {trace : List (Exchange interface)}
    {txHash : Datum}
    {receipt : Receipt}

/-! ## The deciding poll -/

/-- The last poll decided the search: its reply is the record of the receipt and reads as it, and
no poll before brought a receipt. -/
structure Decides
    (txHash : Datum)
    (trace : List (Exchange interface))
    (receipt : Receipt) : Prop where
  last :
    ∃ earlier, calls trace = earlier ++ [(receiptCall txHash, .ok (.record receipt.raw))] ∧
      ∀ poll ∈ earlier, BringsNone txHash poll.2
  read :
    receiptOf txHash (.record receipt.raw) = .ok (some receipt)

/-- The exchanges tell the receipt. -/
theorem Decides.unique
    {other : Receipt}
    (decides : Decides txHash trace receipt)
    (decidesOther : Decides txHash trace other) :
    receipt = other := by
  obtain ⟨earlier, polls, -⟩ := decides.last
  obtain ⟨otherEarlier, otherPolls, -⟩ := decidesOther.last
  have same : receipt.raw = other.raw := by
    have lasts := (List.append_inj' (polls.symm.trans otherPolls) rfl).2
    simpa using lasts
  have read := decides.read
  rw [same, decidesOther.read] at read
  cases read
  rfl

/-- What the exchanges of a poller say about the receipt that it holds. -/
structure IsAccounted
    (trace : List (Exchange interface))
    (poller : Poller) : Prop where
  undecided :
    poller.isDone = false →
      poller.receipt = none ∧ ∀ poll ∈ calls trace, BringsNone poller.txHash poll.2
  decided :
    ∀ receipt, poller.receipt = some receipt → Decides poller.txHash trace receipt

theorem IsAccounted.start
    (txHash : Datum)
    (policy : Option ReceiptPolicy) :
    IsAccounted [] (start txHash policy) where
  undecided := fun _ => ⟨rfl, by simp⟩
  decided := nofun

theorem IsAccounted.append
    {quiet : List (Exchange interface)}
    (accounted : IsAccounted trace poller)
    (silent : calls quiet = []) :
    IsAccounted (trace ++ quiet) poller where
  undecided := by simpa [silent] using accounted.undecided
  decided := by
    intro receipt held
    obtain ⟨⟨earlier, polls, none⟩, read⟩ := accounted.decided receipt held
    exact ⟨⟨earlier, by simp [silent, polls], none⟩, read⟩

/-- An open poller may go to any state without a poll. -/
theorem IsAccounted.finish
    (accounted : IsAccounted trace poller)
    (notDone : poller.isDone = false)
    (state : ConfirmationState) :
    IsAccounted trace (poller.finish state) where
  undecided := fun _ => accounted.undecided notDone
  decided := accounted.decided

/-- A poll that brings no receipt adds to those that brought none. -/
theorem IsAccounted.beginPoll
    {reply : Outcome Datum}
    (accounted : IsAccounted trace poller)
    (notDone : poller.isDone = false)
    (none : BringsNone poller.txHash reply) :
    IsAccounted (trace ++ [asked false, polled poller.txHash reply]) poller.beginPoll where
  undecided := by
    intro _
    obtain ⟨empty, earlier⟩ := accounted.undecided notDone
    refine ⟨empty, fun poll member => ?_⟩
    rw [calls_append, List.mem_append] at member
    rcases member with old | new
    · exact earlier poll old
    · rw [List.mem_singleton.mp new]
      exact none
  decided := by
    intro receipt held
    rw [Poller.beginPoll, (accounted.undecided notDone).1] at held
    cases held

theorem IsAccounted.settle
    (accounted : IsAccounted trace poller)
    (notDone : poller.isDone = false)
    (reply : Outcome Datum) :
    IsAccounted (trace ++ [asked false, polled poller.txHash reply])
      (poller.beginPoll.settle (.of poller.txHash reply)).2 := by
  cases finding : Finding.of poller.txHash reply with
  | failure failure =>
      exact accounted.beginPoll notDone fun receipt => by simp [finding]
  | nothing =>
      have none : BringsNone poller.txHash reply := fun receipt => by simp [finding]
      have begun := accounted.beginPoll notDone none
      rw [Poller.settle, afterNothing]
      split
      · exact begun.finish rfl .timedOut
      · exact begun
  | receipt receipt =>
      obtain ⟨rfl, read⟩ := finding_eq_receipt_iff.mp finding
      constructor
      · intro stillOpen
        rw [Poller.settle, isDone_afterReceipt] at stillOpen
        cases stillOpen
      · intro found held
        cases held
        exact ⟨⟨calls trace, calls_append _ _, (accounted.undecided notDone).2⟩, read⟩

theorem isKept_isAccounted : IsKept IsAccounted where
  markPending := by
    intro trace poller accounted
    rcases poller.markPending_eq_or with same | ⟨notDone, pending⟩
    · rw [same]
      exact accounted
    · rw [pending]
      exact accounted.finish notDone .pending
  step := by
    intro trace behind poller after outcome accounted steps
    cases steps with
    | idle done =>
        rw [List.append_nil]
        exact accounted
    | cancelled notDone => exact (accounted.append rfl).finish notDone .cancelled
    | polled reply notDone => exact accounted.settle notDone reply
  pause := by
    intro trace poller interval answer notDone accounted
    rcases poller.afterPause_eq_or answer with same | cancelled
    · rw [same]
      exact accounted.append rfl
    · rw [cancelled]
      exact (accounted.append rfl).finish notDone .cancelled

/-! ## Reports -/

/-- The failure that reports a state without success. A failed transaction is reported with the
message and the record of its receipt, the other states without a receipt. -/
inductive Reports
    (txHash : Datum)
    (trace : List (Exchange interface)) : ConfirmationState → Failure → Prop
  | failed
      {receipt : Receipt}
      {message : Text} :
      Decides txHash trace receipt →
      receipt.errorMessage = some message →
      message ≠ [] →
      Reports txHash trace .failed
        (.outcome ⟨.failed, message, txHash, .record receipt.raw⟩)
  | timedOut :
      Reports txHash trace .timedOut
        (.outcome ⟨.timedOut,
          Text.join ["no receipt after ", Decimal.ofInt (calls trace).length, " attempts"],
          txHash, .null⟩)
  | cancelled :
      Reports txHash trace .cancelled
        (.outcome ⟨.cancelled, "confirmation cancelled", txHash, .null⟩)
  | unfinished
      {state : ConfirmationState} :
      state.isTerminal = false →
      Reports txHash trace state
        (.outcome ⟨.unusable, Text.join ["confirmation not finished (state=", state.name, ")"],
          txHash, .null⟩)

/-- The exchanges and the state tell the failure. -/
theorem Reports.unique
    {state : ConfirmationState}
    {failure other : Failure}
    (reports : Reports txHash trace state failure)
    (reportsOther : Reports txHash trace state other) :
    failure = other := by
  cases reports with
  | failed decides told nonempty =>
      cases reportsOther with
      | failed decidesOther toldOther nonemptyOther =>
          obtain rfl := decides.unique decidesOther
          cases told.symm.trans toldOther
          rfl
      | unfinished isOpen => cases isOpen
  | timedOut =>
      cases reportsOther with
      | timedOut => rfl
      | unfinished isOpen => cases isOpen
  | cancelled =>
      cases reportsOther with
      | cancelled => rfl
      | unfinished isOpen => cases isOpen
  | unfinished isOpen =>
      cases reportsOther with
      | failed | timedOut | cancelled => cases isOpen
      | unfinished => rfl

/-- A confirmed poller gives the receipt that decided. -/
theorem unwrap_of_confirmed
    (invariant : poller.Invariant trace)
    (accounted : IsAccounted trace poller)
    (confirmed : poller.state = .confirmed) :
    ∃ receipt, poller.receipt = some receipt ∧ poller.result.unwrap = .ok receipt ∧
      Decides poller.txHash trace receipt := by
  obtain ⟨receipt, held⟩ :=
    Option.isSome_iff_exists.mp (invariant.isSome_receipt_iff.mpr (.inl confirmed))
  refine ⟨receipt, held, ?_, accounted.decided receipt held⟩
  simp only [ConfirmationResult.unwrap, result, confirmed, held]

/-- Every other poller gives the failure that reports its state. -/
theorem unwrap_of_not_confirmed
    (invariant : poller.Invariant trace)
    (accounted : IsAccounted trace poller)
    (notConfirmed : poller.state ≠ .confirmed) :
    ∃ failure, poller.result.unwrap = .error failure ∧
      Reports poller.txHash trace poller.state failure := by
  refine ⟨.outcome poller.result.failure, ?_, ?_⟩
  · unfold ConfirmationResult.unwrap
    split
    · next confirmed _ => exact absurd confirmed notConfirmed
    · rfl
  · unfold ConfirmationResult.failure
    cases state : poller.state with
    | confirmed => exact absurd state notConfirmed
    | failed =>
        obtain ⟨receipt, message, held, told, nonempty⟩ := invariant.failed_iff.mp state
        obtain ⟨first, rest, rfl⟩ := List.exists_cons_of_ne_nil nonempty
        simp only [result, state, ConfirmationResult.failureMessage,
          ConfirmationResult.rawReceipt, held, Option.bind_some, told]
        exact .failed (accounted.decided receipt held) told nonempty
    | timedOut =>
        simp only [result, state, invariant.attempts_eq]
        exact .timedOut
    | cancelled =>
        simp only [result, state]
        exact .cancelled
    | submitted | pending =>
        simp only [result, state]
        exact .unfinished rfl

/-- Whatever was done with a poller, its result gives a receipt exactly if the transaction is
confirmed, and it is the receipt that the last poll brought. Otherwise it fails, and the failure
reports the state: with the message and the record of the receipt that the last poll brought if the
transaction failed, and without a receipt if the poller ran out of attempts, was cancelled, or is
not done. A confirmed poller holds a receipt. -/
theorem history_reports
    {policy : Option ReceiptPolicy}
    {operations : List Operation}
    (lived : (performAll operations (start txHash policy)).Yields trace poller) :
    (∀ receipt, poller.result.unwrap = .ok receipt ↔
      poller.state = .confirmed ∧ Decides txHash trace receipt) ∧
    (∀ failure, poller.result.unwrap = .error failure ↔
      Reports txHash trace poller.state failure) ∧
    (poller.state = .confirmed → ∃ receipt, poller.receipt = some receipt) := by
  have invariant := isKept_invariant.performAll [] (Invariant.start txHash policy) lived
  have accounted := isKept_isAccounted.performAll [] (IsAccounted.start txHash policy) lived
  obtain ⟨rfl, -⟩ :=
    (isKept_order txHash (policy.getD .default)).performAll [] ⟨rfl, rfl⟩ lived
  rw [List.nil_append] at invariant accounted
  by_cases confirmed : poller.state = .confirmed
  · obtain ⟨found, held, gives, decides⟩ := unwrap_of_confirmed invariant accounted confirmed
    rw [gives, confirmed]
    refine ⟨fun receipt => ⟨?_, ?_⟩, fun failure => ⟨nofun, ?_⟩, fun _ => ⟨found, held⟩⟩
    · intro same
      cases same
      exact ⟨rfl, decides⟩
    · rintro ⟨-, decidesOther⟩
      rw [decides.unique decidesOther]
    · intro reports
      cases reports with
      | unfinished isOpen => cases isOpen
  · obtain ⟨found, fails, reports⟩ := unwrap_of_not_confirmed invariant accounted confirmed
    rw [fails]
    refine ⟨fun receipt => ⟨nofun, fun is => absurd is.1 confirmed⟩, fun failure => ⟨?_, ?_⟩,
      fun is => absurd is confirmed⟩
    · intro same
      cases same
      exact reports
    · intro reportsOther
      rw [reports.unique reportsOther]

/-- A poll that raises, one that finds nothing, and one that brings the receipt of a failed
transaction. -/
theorem history_reports_reverted :
    ∃ trace poller,
      (performAll [.step, .markPending, .run] (start (.text "0x00") none)).Yields trace poller ∧
      poller.state = .failed ∧
      poller.result.unwrap = .error (.outcome ⟨.failed, "reverted", .text "0x00",
        .record [("errorMessage", .text "reverted")]⟩) ∧
      Reports (.text "0x00") trace .failed (.outcome ⟨.failed, "reverted", .text "0x00",
        .record [("errorMessage", .text "reverted")]⟩) := by
  let fresh := start (.text "0x00") none
  let raised : Outcome Datum := .error (.misuse (.badValue none))
  let reverted : Outcome Datum := .ok (.record [("errorMessage", .text "reverted")])
  have ran : fresh.beginPoll.Runs _ _ _ :=
    @Runs.again _ _ _ _ _ _ false _ (.polled (.ok .null) rfl) rfl
      (.ended (.polled reverted rfl) rfl)
  have lived : (performAll [.step, .markPending, .run] fresh).Yields _
      (fresh.beginPoll.beginPoll.beginPoll.settle (.of fresh.txHash reverted)).2 :=
    yields_performAll_cons_iff.mpr ⟨_, fresh.beginPoll, _, rfl,
      yields_perform_step_iff.mpr ⟨_, .polled raised rfl⟩,
      yields_performAll_cons_iff.mpr ⟨[], fresh.beginPoll, _, rfl, .done _,
        yields_performAll_cons_iff.mpr ⟨_, _, [], rfl,
          yields_perform_run_iff.mpr ⟨_, ran⟩, .done _⟩⟩⟩
  exact ⟨_, _, lived, rfl, rfl, ((history_reports lived).2.1 _).mp rfl⟩

end Poller

end ChainClient
