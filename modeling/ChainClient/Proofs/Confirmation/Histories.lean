import ChainClient.Proofs.Confirmation.Polling
import Mathlib.Logic.Relation

/-!
# Histories of a poller

A caller may use a poller in any order and go on after a failure, while the wish to stop
comes and goes. What every single change keeps, all histories keep.
-/

namespace ChainClient

open Node

namespace ConfirmationState

/-- The changes of state: a first poll or an accepted submission makes the search pending,
and what is open may end. -/
inductive Move : ConfirmationState → ConfirmationState → Prop
  | begin : Move .submitted .pending
  | finish
      {state last : ConfirmationState} :
      state.isTerminal = false →
      last.isTerminal = true →
      Move state last

/-- A state that comes from another by changes of state. -/
def Leads : ConfirmationState → ConfirmationState → Prop :=
  Relation.ReflTransGen Move

theorem Leads.refl (state : ConfirmationState) : Leads state state :=
  Relation.ReflTransGen.refl

theorem Leads.trans
    {first second third : ConfirmationState}
    (early : Leads first second)
    (late : Leads second third) :
    Leads first third :=
  Relation.ReflTransGen.trans early late

/-- What is open may become pending, or stay so. -/
theorem leads_pending
    {state : ConfirmationState}
    (notDone : state.isTerminal = false) :
    Leads state .pending := by
  cases state with
  | submitted => exact Relation.ReflTransGen.single .begin
  | pending => exact .refl _
  | confirmed => cases notDone
  | failed => cases notDone
  | timedOut => cases notDone
  | cancelled => cases notDone

theorem leads_of_isTerminal
    {state last : ConfirmationState}
    (notDone : state.isTerminal = false)
    (done : last.isTerminal = true) :
    Leads state last :=
  Relation.ReflTransGen.single (.finish notDone done)

end ConfirmationState

open ConfirmationState

theorem Receipt.isFailure_iff {receipt : Receipt} :
    receipt.isFailure = true ↔ ∃ message, receipt.errorMessage = some message ∧ message ≠ [] := by
  unfold isFailure
  cases receipt.errorMessage with
  | none => simp
  | some message => cases message <;> simp

namespace Poller

/-! ## Operations -/

/-- What a caller can do with a poller. -/
inductive Operation where
  | markPending
  | step
  | run
  | result

/-- The poller after an operation, whether it failed or not. To ask for the result changes
nothing. -/
def perform (poller : Poller) : Operation → Interaction interface Poller
  | .markPending => .done poller.markPending
  | .step => poller.step.bind fun answer => .done answer.2
  | .run => poller.run.bind fun answer => .done answer.2
  | .result => .done poller

/-- The poller after some operations. -/
def performAll : List Operation → Poller → Interaction interface Poller
  | [], poller => .done poller
  | operation :: operations, poller =>
      (poller.perform operation).bind (performAll operations)

theorem yields_perform_step_iff
    {poller after : Poller}
    {trace : List (Exchange interface)} :
    (poller.perform .step).Yields trace after ↔ ∃ outcome, poller.Steps trace outcome after := by
  constructor
  · intro yields
    obtain ⟨front, ⟨outcome, stepped⟩, rest, rfl, first, second⟩ :=
      Interaction.yields_bind_iff.mp yields
    obtain ⟨rfl, rfl⟩ := Interaction.yields_done_iff.mp second
    rw [List.append_nil]
    exact ⟨outcome, yields_step_iff.mp first⟩
  · rintro ⟨outcome, steps⟩
    exact Interaction.yields_bind_iff.mpr
      ⟨trace, _, [], (List.append_nil _).symm, yields_step_iff.mpr steps, .done _⟩

theorem yields_perform_run_iff
    {poller after : Poller}
    {trace : List (Exchange interface)} :
    (poller.perform .run).Yields trace after ↔ ∃ outcome, poller.Runs trace outcome after := by
  constructor
  · intro yields
    obtain ⟨front, ⟨outcome, ran⟩, rest, rfl, first, second⟩ :=
      Interaction.yields_bind_iff.mp yields
    obtain ⟨rfl, rfl⟩ := Interaction.yields_done_iff.mp second
    rw [List.append_nil]
    exact ⟨outcome, yields_run_iff.mp first⟩
  · rintro ⟨outcome, runs⟩
    exact Interaction.yields_bind_iff.mpr
      ⟨trace, _, [], (List.append_nil _).symm, yields_run_iff.mpr runs, .done _⟩

/-- The history of some operations is that of the first with that of the others behind it. -/
theorem yields_performAll_cons_iff
    {operation : Operation}
    {operations : List Operation}
    {poller after : Poller}
    {trace : List (Exchange interface)} :
    (performAll (operation :: operations) poller).Yields trace after ↔
      ∃ front between behind, trace = front ++ behind ∧
        (poller.perform operation).Yields front between ∧
        (performAll operations between).Yields behind after :=
  Interaction.yields_bind_iff

/-! ## Induction over histories -/

/-- A property of a poller and of the exchanges so far that every change of a poller keeps. -/
structure IsKept (property : List (Exchange interface) → Poller → Prop) : Prop where
  markPending
      {trace : List (Exchange interface)}
      {poller : Poller} :
      property trace poller →
      property trace poller.markPending
  step
      {trace behind : List (Exchange interface)}
      {poller after : Poller}
      {outcome : Outcome ConfirmationState} :
      property trace poller →
      poller.Steps behind outcome after →
      property (trace ++ behind) after
  pause
      {trace : List (Exchange interface)}
      {poller : Poller}
      (interval : Datum)
      (answer : Except Misuse Bool) :
      poller.isDone = false →
      property trace poller →
      property (trace ++ [paused interval answer]) (poller.afterPause answer)

variable {property : List (Exchange interface) → Poller → Prop}
variable {poller after : Poller}
variable {trace behind : List (Exchange interface)}

theorem IsKept.run
    {outcome : Outcome ConfirmationResult}
    (kept : IsKept property)
    (holds : property trace poller)
    (runs : poller.Runs behind outcome after) :
    property (trace ++ behind) after := by
  induction runs generalizing trace with
  | failed steps => exact kept.step holds steps
  | ended steps done => exact kept.step holds steps
  | broken misuse steps unfinished =>
      rw [← List.append_assoc]
      exact kept.pause _ (.error misuse) unfinished (kept.step holds steps)
  | @again poller between after front behind state cancelled _ steps unfinished runs
      inductionHypothesis =>
      have stepped := kept.step holds steps
      have reached := inductionHypothesis
        (kept.pause between.policy.pollInterval (.ok cancelled) unfinished stepped)
      rwa [List.append_assoc, List.singleton_append, List.append_assoc] at reached

theorem IsKept.perform
    {operation : Operation}
    (kept : IsKept property)
    (holds : property trace poller)
    (yields : (poller.perform operation).Yields behind after) :
    property (trace ++ behind) after := by
  cases operation with
  | markPending =>
      obtain ⟨rfl, rfl⟩ := Interaction.yields_done_iff.mp yields
      rw [List.append_nil]
      exact kept.markPending holds
  | step =>
      obtain ⟨outcome, steps⟩ := yields_perform_step_iff.mp yields
      exact kept.step holds steps
  | run =>
      obtain ⟨outcome, runs⟩ := yields_perform_run_iff.mp yields
      exact kept.run holds runs
  | result =>
      obtain ⟨rfl, rfl⟩ := Interaction.yields_done_iff.mp yields
      rw [List.append_nil]
      exact holds

/-- What every change keeps, a history keeps, whatever was before it. -/
theorem IsKept.performAll
    {operations : List Operation}
    (kept : IsKept property)
    (front : List (Exchange interface))
    (holds : property front poller)
    (yields : (performAll operations poller).Yields behind after) :
    property (front ++ behind) after := by
  induction operations generalizing front behind poller with
  | nil =>
      obtain ⟨rfl, rfl⟩ := Interaction.yields_done_iff.mp yields
      rw [List.append_nil]
      exact holds
  | cons operation operations inductionHypothesis =>
      obtain ⟨first, between, rest, rfl, performed, others⟩ :=
        yields_performAll_cons_iff.mp yields
      rw [← List.append_assoc]
      exact inductionHypothesis (front ++ first) (kept.perform holds performed) others

/-! ## The invariant -/

/-- What holds of a poller that has had these exchanges. -/
structure Invariant
    (trace : List (Exchange interface))
    (poller : Poller) : Prop where
  isSome_receipt_iff :
    poller.receipt.isSome ↔ poller.state = .confirmed ∨ poller.state = .failed
  failed_iff :
    poller.state = .failed ↔
      ∃ receipt message, poller.receipt = some receipt ∧
        receipt.errorMessage = some message ∧ message ≠ []
  attempts_of_submitted :
    poller.state = .submitted → poller.attempts = 0
  budget_of_timedOut :
    poller.state = .timedOut → poller.policy.maxAttempts ≤ poller.attempts
  attempts_eq :
    poller.attempts = (calls trace).length
  call_eq :
    ∀ call ∈ calls trace, call.1 = receiptCall poller.txHash

theorem Invariant.start
    (txHash : Datum)
    (policy : Option ReceiptPolicy) :
    Invariant [] (start txHash policy) where
  isSome_receipt_iff := by simp [Poller.start]
  failed_iff := by simp [Poller.start]
  attempts_of_submitted := fun _ => rfl
  budget_of_timedOut := by simp [Poller.start]
  attempts_eq := rfl
  call_eq := by simp

/-- An open poller has no receipt. -/
theorem Invariant.receipt_eq_none
    (invariant : Invariant trace poller)
    (notDone : poller.isDone = false) :
    poller.receipt = none := by
  by_contra some
  have ended := invariant.isSome_receipt_iff.mp (Option.isSome_iff_ne_none.mpr some)
  rcases ended with confirmed | failed
  · simp [isDone, confirmed, isTerminal] at notDone
  · simp [isDone, failed, isTerminal] at notDone

/-- An exchange that is no call leaves no mark. -/
theorem Invariant.append
    {quiet : List (Exchange interface)}
    (invariant : Invariant trace poller)
    (silent : calls quiet = []) :
    Invariant (trace ++ quiet) poller :=
  { invariant with
    attempts_eq := by simpa [silent] using invariant.attempts_eq
    call_eq := by simpa [silent] using invariant.call_eq }

/-- An open poller may go to the states that need no receipt. -/
theorem Invariant.finish
    {state : ConfirmationState}
    (invariant : Invariant trace poller)
    (notDone : poller.isDone = false)
    (pending_or_cancelled : state = .pending ∨ state = .cancelled) :
    Invariant trace (poller.finish state) where
  isSome_receipt_iff := by
    rcases pending_or_cancelled with rfl | rfl <;>
      simp [Poller.finish, invariant.receipt_eq_none notDone]
  failed_iff := by
    rcases pending_or_cancelled with rfl | rfl <;>
      simp [Poller.finish, invariant.receipt_eq_none notDone]
  attempts_of_submitted := by
    rcases pending_or_cancelled with rfl | rfl <;> simp [Poller.finish]
  budget_of_timedOut := by
    rcases pending_or_cancelled with rfl | rfl <;> simp [Poller.finish]
  attempts_eq := invariant.attempts_eq
  call_eq := invariant.call_eq

/-- A poll that raised leaves a pending poller with one attempt more. -/
theorem Invariant.beginPoll
    (invariant : Invariant trace poller)
    (notDone : poller.isDone = false)
    (reply : Outcome Datum) :
    Invariant (trace ++ [asked false, polled poller.txHash reply]) poller.beginPoll where
  isSome_receipt_iff := by simp [Poller.beginPoll, invariant.receipt_eq_none notDone]
  failed_iff := by simp [Poller.beginPoll, invariant.receipt_eq_none notDone]
  attempts_of_submitted := by simp [Poller.beginPoll]
  budget_of_timedOut := by simp [Poller.beginPoll]
  attempts_eq := by simp [Poller.beginPoll, invariant.attempts_eq]
  call_eq := by
    intro call member
    rw [calls_append, List.mem_append] at member
    rcases member with old | new
    · exact invariant.call_eq call old
    · rw [List.mem_singleton.mp new]
      rfl

/-- What the reply brings ends the poller as the invariant asks, or leaves it pending. -/
theorem Invariant.settle
    (invariant : Invariant trace poller)
    (pending : poller.state = .pending)
    (finding : Finding) :
    Invariant trace (poller.settle finding).2 := by
  have none := invariant.receipt_eq_none (by rw [isDone, pending]; rfl)
  cases finding with
  | failure failure => exact invariant
  | nothing =>
      simp only [Poller.settle, afterNothing]
      split
      · rename_i spent
        exact {
          isSome_receipt_iff := by simp [Poller.finish, none]
          failed_iff := by simp [Poller.finish, none]
          attempts_of_submitted := by simp [Poller.finish]
          budget_of_timedOut := fun _ => spent
          attempts_eq := invariant.attempts_eq
          call_eq := invariant.call_eq }
      · exact invariant
  | receipt receipt =>
      have ended : (poller.afterReceipt receipt).state = .failed ∨
          (poller.afterReceipt receipt).state = .confirmed := by
        cases failed : receipt.isFailure <;> simp [afterReceipt, failed]
      rw [Poller.settle]
      exact {
        isSome_receipt_iff := by simp [afterReceipt]
        failed_iff := by simp [afterReceipt, ← Receipt.isFailure_iff]
        attempts_of_submitted := by rcases ended with state | state <;> simp [state]
        budget_of_timedOut := by rcases ended with state | state <;> simp [state]
        attempts_eq := invariant.attempts_eq
        call_eq := invariant.call_eq }

theorem isKept_invariant : IsKept Invariant where
  markPending := by
    intro trace poller invariant
    rcases poller.markPending_eq_or with same | ⟨notDone, pending⟩
    · rw [same]
      exact invariant
    · rw [pending]
      exact invariant.finish notDone (.inl rfl)
  step := by
    intro trace behind poller after outcome invariant steps
    cases steps with
    | idle done =>
        rw [List.append_nil]
        exact invariant
    | cancelled notDone => exact (invariant.append rfl).finish notDone (.inr rfl)
    | polled reply notDone => exact (invariant.beginPoll notDone reply).settle rfl _
  pause := by
    intro trace poller interval answer notDone invariant
    rcases poller.afterPause_eq_or answer with same | cancelled
    · rw [same]
      exact invariant.append rfl
    · rw [cancelled]
      exact (invariant.append rfl).finish notDone (.inr rfl)

/-! ## States along a history -/

/-- The state of a poller only goes on. -/
theorem isKept_leads (poller : Poller) :
    IsKept fun _ after => Leads poller.state after.state where
  markPending := by
    intro _ between leads
    rcases between.markPending_eq_or with same | ⟨notDone, pending⟩
    · rw [same]
      exact leads
    · rw [pending]
      exact leads.trans (leads_pending notDone)
  step := by
    intro _ _ between after _ leads steps
    cases steps with
    | idle done => exact leads
    | cancelled notDone => exact leads.trans (leads_of_isTerminal notDone rfl)
    | polled reply notDone =>
        have begun : Leads poller.state between.beginPoll.state :=
          leads.trans (leads_pending notDone)
        cases Finding.of between.txHash reply with
        | failure failure => exact begun
        | nothing =>
            simp only [settle, afterNothing]
            split
            · exact begun.trans (leads_of_isTerminal rfl rfl)
            · exact begun
        | receipt receipt =>
            exact begun.trans
              (leads_of_isTerminal rfl (between.beginPoll.isDone_afterReceipt receipt))
  pause := by
    intro _ between _ answer notDone leads
    rcases between.afterPause_eq_or answer with same | cancelled
    · rwa [same]
    · rw [cancelled]
      exact leads.trans (leads_of_isTerminal notDone rfl)

/-- A poller in a terminal state stays as it is and asks nothing. -/
theorem isKept_done (poller : Poller) :
    IsKept fun trace after => poller.isDone = true → after = poller ∧ trace = [] where
  markPending := by
    intro trace between same done
    obtain ⟨rfl, rfl⟩ := same done
    rcases between.markPending_eq_or with kept | ⟨notDone, -⟩
    · exact ⟨kept, rfl⟩
    · simp [done] at notDone
  step := by
    intro trace behind between after outcome same steps done
    obtain ⟨rfl, rfl⟩ := same done
    cases steps with
    | idle _ => exact ⟨rfl, rfl⟩
    | cancelled notDone => simp [done] at notDone
    | polled reply notDone => simp [done] at notDone
  pause := by
    intro trace between interval answer notDone same done
    obtain ⟨rfl, rfl⟩ := same done
    simp [done] at notDone

/-- No change of a poller changes what it looks for, or how long. -/
theorem isKept_order
    (txHash : Datum)
    (policy : ReceiptPolicy) :
    IsKept fun _ after => after.txHash = txHash ∧ after.policy = policy where
  markPending := by
    intro _ poller same
    rcases poller.markPending_eq_or with kept | ⟨-, pending⟩
    · rw [kept]
      exact same
    · rw [pending]
      exact same
  step := by
    intro _ _ poller after _ same steps
    cases steps with
    | idle _ => exact same
    | cancelled _ => exact same
    | polled reply _ =>
        obtain ⟨-, txHash, policy⟩ := poller.beginPoll.settle_kept (.of poller.txHash reply)
        exact ⟨txHash.trans same.1, policy.trans same.2⟩
  pause := by
    intro _ poller _ answer _ same
    rcases poller.afterPause_eq_or answer with kept | cancelled
    · rwa [kept]
    · rw [cancelled]
      exact same

/-- In every history of a poller the invariant holds, the state only goes on, and what is
in a terminal state stays as it is, without a further question. -/
theorem history_invariant
    {txHash : Datum}
    {policy : Option ReceiptPolicy}
    {operations later : List Operation}
    (lived : (performAll operations (start txHash policy)).Yields trace poller)
    (lives : (performAll later poller).Yields behind after) :
    poller.Invariant trace ∧
      (poller.txHash = txHash ∧ poller.policy = policy.getD .default) ∧
      Leads poller.state after.state ∧
      (poller.isDone = true → after = poller ∧ behind = []) := by
  refine ⟨?_, ?_, ?_, ?_⟩
  · exact isKept_invariant.performAll [] (Invariant.start txHash policy) lived
  · exact (isKept_order txHash _).performAll [] ⟨rfl, rfl⟩ lived
  · exact (isKept_leads poller).performAll [] (Leads.refl _) lives
  · exact (isKept_done poller).performAll [] (fun _ => ⟨rfl, rfl⟩) lives

/-- A first poll that raises, a run that finds a failed transaction, and two more calls. -/
theorem history_invariant_failed :
    ∃ trace poller behind after,
      (performAll [.markPending, .step, .run] (start (.text "0x00") none)).Yields trace poller ∧
      (performAll [.step, .run] poller).Yields behind after ∧
      poller.state = .failed ∧ poller.attempts = 2 ∧
      poller.Invariant trace ∧
      (poller.txHash = .text "0x00" ∧ poller.policy = .default) ∧
      Leads poller.state after.state ∧
      (poller.isDone = true → after = poller ∧ behind = []) := by
  let pending := (start (.text "0x00") none).markPending
  let raised : Outcome Datum := .error (.misuse (.badValue none))
  let reverted : Outcome Datum := .ok (.record [("errorMessage", .text "reverted")])
  have lived : (performAll [.markPending, .step, .run] (start (.text "0x00") none)).Yields
      _ (pending.beginPoll.beginPoll.settle (.of pending.txHash reverted)).2 :=
    yields_performAll_cons_iff.mpr ⟨[], pending, _, rfl, .done _,
      yields_performAll_cons_iff.mpr ⟨_, pending.beginPoll, _, rfl,
        yields_perform_step_iff.mpr ⟨_, .polled raised rfl⟩,
        yields_performAll_cons_iff.mpr ⟨_, _, [], rfl,
          yields_perform_run_iff.mpr ⟨_, .ended (.polled reverted rfl) rfl⟩, .done _⟩⟩⟩
  have lives : (performAll [.step, .run]
      (pending.beginPoll.beginPoll.settle (.of pending.txHash reverted)).2).Yields _ _ :=
    yields_performAll_cons_iff.mpr ⟨_, _, _, rfl, yields_perform_step_iff.mpr ⟨_, .idle rfl⟩,
      yields_performAll_cons_iff.mpr ⟨_, _, [], rfl,
        yields_perform_run_iff.mpr ⟨_, .ended (.idle rfl) rfl⟩, .done _⟩⟩
  exact ⟨_, _, _, _, lived, lives, rfl, rfl, history_invariant lived lives⟩

end Poller

end ChainClient
