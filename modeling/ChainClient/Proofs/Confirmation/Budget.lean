import ChainClient.Proofs.Confirmation.Histories
import Mathlib.Tactic.Common

/-!
# The budget of polls

The policy of a poller gives the number of its polls. A poll that raises leaves the poller
open whatever its number is, and a caller who goes on makes it poll again: only such polls
take a poller beyond its budget.
-/

namespace ChainClient

open Node

namespace Node

/-- The reply to a poll is a failure that goes to the caller. -/
def raises
    (txHash : Datum)
    (reply : Outcome Datum) : Bool :=
  match Finding.of txHash reply with
  | .failure _ => true
  | .nothing | .receipt _ => false

end Node

namespace Poller

variable {poller after : Poller}
variable {trace : List (Exchange interface)}

/-- The polls from the one that uses up the budget on. -/
def latePolls
    (poller : Poller)
    (trace : List (Exchange interface)) : List (Call × Outcome Datum) :=
  (calls trace).drop (poller.policy.maxAttempts - 1)

/-- Every late poll raised, but for the one that ended the poller if it is done. -/
structure LatePollsRaised
    (trace : List (Exchange interface))
    (poller : Poller) : Prop where
  attempts_eq :
    poller.attempts = (calls trace).length
  earlier :
    ∀ poll ∈ (poller.latePolls trace).dropLast, raises poller.txHash poll.2 = true
  all_of_not_isDone :
    poller.isDone = false →
    ∀ poll ∈ poller.latePolls trace, raises poller.txHash poll.2 = true

theorem LatePollsRaised.append
    {quiet : List (Exchange interface)}
    (raised : LatePollsRaised trace poller)
    (silent : calls quiet = []) :
    LatePollsRaised (trace ++ quiet) poller where
  attempts_eq := by simpa [silent] using raised.attempts_eq
  earlier := by simpa [latePolls, silent] using raised.earlier
  all_of_not_isDone := by simpa [latePolls, silent] using raised.all_of_not_isDone

/-- A change of state alone keeps the account of an open poller. -/
theorem LatePollsRaised.finish
    (raised : LatePollsRaised trace poller)
    (notDone : poller.isDone = false)
    (state : ConfirmationState) :
    LatePollsRaised trace (poller.finish state) where
  attempts_eq := raised.attempts_eq
  earlier := raised.earlier
  all_of_not_isDone := fun _ => raised.all_of_not_isDone notDone

/-- A poll within the budget adds no late poll, any other one adds itself. -/
theorem latePolls_polled
    (poller : Poller)
    (attempts_eq : poller.attempts = (calls trace).length)
    (reply : Outcome Datum) :
    poller.latePolls (trace ++ [asked false, polled poller.txHash reply]) =
      poller.latePolls trace ++
        if poller.policy.maxAttempts ≤ poller.attempts + 1
        then [(receiptCall poller.txHash, reply)] else [] := by
  have positive := poller.policy.maxAttempts_pos
  simp only [latePolls, calls_append, calls_asked_cons, calls_polled_cons, calls_nil,
    List.drop_append, ← attempts_eq]
  congr 1
  split
  · rename_i late
    rw [Nat.sub_eq_zero_of_le (by omega), List.drop_zero]
  · rename_i early
    exact List.drop_eq_nil_of_le (by simp; omega)

/-- What a poll brings either ends the poller, or raised, or came early. -/
theorem raises_or_early_of_settle
    (reply : Outcome Datum)
    (notDone : (poller.beginPoll.settle (.of poller.txHash reply)).2.isDone = false) :
    raises poller.txHash reply = true ∨ ¬poller.policy.maxAttempts ≤ poller.attempts + 1 := by
  unfold raises
  cases finding : Finding.of poller.txHash reply with
  | failure failure => exact .inl rfl
  | receipt receipt => simp [finding, settle] at notDone
  | nothing =>
      right
      intro spent
      have late : poller.beginPoll.policy.maxAttempts ≤ poller.beginPoll.attempts := spent
      rw [finding, settle, afterNothing, if_pos late] at notDone
      cases notDone

theorem LatePollsRaised.polled
    (raised : LatePollsRaised trace poller)
    (notDone : poller.isDone = false)
    (reply : Outcome Datum) :
    LatePollsRaised (trace ++ [asked false, Node.polled poller.txHash reply])
      (poller.beginPoll.settle (.of poller.txHash reply)).2 := by
  obtain ⟨attempts, txHash, policy⟩ := poller.beginPoll.settle_kept (.of poller.txHash reply)
  have late : (poller.beginPoll.settle (.of poller.txHash reply)).2.latePolls
      (trace ++ [asked false, Node.polled poller.txHash reply]) =
        poller.latePolls (trace ++ [asked false, Node.polled poller.txHash reply]) := by
    rw [latePolls, policy]
    rfl
  rw [latePolls_polled poller raised.attempts_eq reply] at late
  have before := raised.all_of_not_isDone notDone
  constructor
  · rw [attempts]
    simp [beginPoll, raised.attempts_eq]
  · intro poll member
    rw [late] at member
    rw [txHash]
    refine before poll ?_
    split at member
    · rwa [List.dropLast_concat] at member
    · rw [List.append_nil] at member
      exact List.dropLast_subset _ member
  · intro stillNotDone poll member
    rw [late, List.mem_append] at member
    rw [txHash]
    rcases member with old | new
    · exact before poll old
    · split at new
      · rename_i spent
        rw [List.mem_singleton.mp new]
        exact (raises_or_early_of_settle reply stillNotDone).resolve_right (not_not_intro spent)
      · cases new

theorem isKept_latePollsRaised : IsKept LatePollsRaised where
  markPending := by
    intro trace poller raised
    rcases poller.markPending_eq_or with same | ⟨notDone, pending⟩
    · rw [same]
      exact raised
    · rw [pending]
      exact raised.finish notDone .pending
  step := by
    intro trace behind poller after outcome raised steps
    cases steps with
    | idle done =>
        rw [List.append_nil]
        exact raised
    | cancelled notDone => exact (raised.append rfl).finish notDone .cancelled
    | polled reply notDone => exact raised.polled notDone reply
  pause := by
    intro trace poller interval answer notDone raised
    rcases poller.afterPause_eq_or answer with same | cancelled
    · rw [same]
      exact raised.append rfl
    · rw [cancelled]
      exact (raised.append rfl).finish notDone .cancelled

/-- The polls beyond the budget are at most as many as the polls that raised. -/
theorem LatePollsRaised.attempts_le
    (raised : LatePollsRaised trace poller) :
    poller.attempts ≤ poller.policy.maxAttempts +
      (calls trace).countP fun poll => raises poller.txHash poll.2 := by
  have positive := poller.policy.maxAttempts_pos
  have counted : ((poller.latePolls trace).dropLast).countP
      (fun poll => raises poller.txHash poll.2) = (poller.latePolls trace).dropLast.length :=
    List.countP_eq_length.mpr raised.earlier
  have part : ((poller.latePolls trace).dropLast).countP
      (fun poll => raises poller.txHash poll.2) ≤
        (calls trace).countP fun poll => raises poller.txHash poll.2 :=
    List.Sublist.countP_le
      ((List.dropLast_sublist _).trans (List.drop_sublist _ _))
  rw [counted] at part
  simp only [latePolls, List.length_dropLast, List.length_drop, ← raised.attempts_eq] at part
  omega

/-- In every history the polls are within the budget, but for those that follow a poll that
raised: from the poll that uses up the budget on, all but the last one raised. -/
theorem history_budget
    {txHash : Datum}
    {policy : Option ReceiptPolicy}
    {operations : List Operation}
    (lived : (performAll operations (start txHash policy)).Yields trace poller) :
    poller.attempts = (calls trace).length ∧
      (∀ poll ∈ ((calls trace).drop ((policy.getD .default).maxAttempts - 1)).dropLast,
        raises txHash poll.2 = true) ∧
      poller.attempts ≤ (policy.getD .default).maxAttempts +
        (calls trace).countP fun poll => raises txHash poll.2 := by
  have initial : LatePollsRaised [] (start txHash policy) :=
    ⟨rfl, by simp [latePolls], by simp [latePolls]⟩
  have raised := isKept_latePollsRaised.performAll [] initial lived
  obtain ⟨hash, order⟩ :=
    (isKept_order txHash (policy.getD .default)).performAll [] ⟨rfl, rfl⟩ lived
  rw [← hash, ← order]
  exact ⟨raised.attempts_eq, raised.earlier, raised.attempts_le⟩

/-- A policy of a single poll. -/
def singlePoll : ReceiptPolicy :=
  ⟨.int 0, 1, Nat.one_pos⟩

/-- Two steps with a budget of one poll: the first poll raises, the second finds nothing. -/
def overdrawn : List (Exchange interface) :=
  [asked false, polled (.text "0x00") (.error (.misuse (.badValue none))),
    asked false, polled (.text "0x00") (.ok .null)]

/-- The poller after these two steps. -/
def overdrawnPoller : Poller :=
  (start (.text "0x00") (some singlePoll)).beginPoll.beginPoll.finish .timedOut

theorem yields_overdrawn :
    (performAll [.step, .step] (start (.text "0x00") (some singlePoll))).Yields
      overdrawn overdrawnPoller :=
  yields_performAll_cons_iff.mpr ⟨_, _, _, rfl,
    yields_perform_step_iff.mpr ⟨_, .polled (.error (.misuse (.badValue none))) rfl⟩,
    yields_performAll_cons_iff.mpr ⟨_, _, [], rfl,
      yields_perform_step_iff.mpr ⟨_, .polled (.ok .null) rfl⟩, .done _⟩⟩

theorem history_budget_overdrawn :
    (performAll [.step, .step] (start (.text "0x00") (some singlePoll))).Yields
        overdrawn overdrawnPoller ∧
      overdrawnPoller.attempts = (calls overdrawn).length ∧
      (∀ poll ∈ ((calls overdrawn).drop (singlePoll.maxAttempts - 1)).dropLast,
        raises (.text "0x00") poll.2 = true) ∧
      overdrawnPoller.attempts ≤ singlePoll.maxAttempts +
        (calls overdrawn).countP fun poll => raises (.text "0x00") poll.2 :=
  ⟨yields_overdrawn, history_budget yields_overdrawn⟩

/-- Not every history keeps within the budget. -/
theorem not_attempts_le_maxAttempts :
    ¬ ∀ (txHash : Datum) (policy : Option ReceiptPolicy) (operations : List Operation)
        (trace : List (Exchange interface)) (poller : Poller),
      (performAll operations (start txHash policy)).Yields trace poller →
      poller.attempts ≤ poller.policy.maxAttempts := by
  intro within
  have budget := within _ _ _ _ _ yields_overdrawn
  exact absurd budget (by decide)

end Poller

end ChainClient
