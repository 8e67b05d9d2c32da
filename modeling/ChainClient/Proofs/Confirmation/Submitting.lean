import ChainClient.Proofs.Confirmation.Histories
import ChainClient.Proofs.Encoding.Hexadecimal
import ChainClient.Proofs.Rpc.Operations
import ChainClient.Rpc.Node

/-!
# Submitting once

A submission is one call, and what waits behind it asks for receipts only. A poller that was told
of the submission runs like one that was not, so to submit and wait is to submit and then to wait.
-/

namespace ChainClient

namespace Node

/-! ## Hashes in replies -/

/-- The hash that a text spells: the text without blanks around it, with the small mark in front,
in place of its own mark if it has one. -/
inductive SpellsHash : Text → Text → Prop
  | marked
      {t mark digits : Text} :
      t.trim = mark ++ digits →
      mark ∈ Hex.marks →
      mark ≠ [] →
      SpellsHash t ([0x30, 0x78] ++ digits)
  | bare
      {t : Text} :
      t.trim ≠ [] →
      (∀ mark ∈ Hex.marks, ∀ digits, t.trim = mark ++ digits → mark = []) →
      SpellsHash t ([0x30, 0x78] ++ t.trim)

/-- The hash that a reply to a submission holds: as such, or as a member of a record. -/
inductive HoldsHash : Datum → Text → Prop
  | text
      {t hash : Text} :
      SpellsHash t hash →
      HoldsHash (.text t) hash
  | member
      {entries : Entries}
      {t hash : Text} :
      Entries.get? "hash" entries = some (.text t) →
      SpellsHash t hash →
      HoldsHash (.record entries) hash

/-- Text that is not blank spells one hash. -/
theorem spellsHash_iff
    {t hash : Text} :
    SpellsHash t hash ↔ t.trim ≠ [] ∧ hash = Hex.addMark t.trim := by
  unfold Hex.addMark Hex.stripMark
  constructor
  · intro spells
    cases spells with
    | @marked mark digits split known nonempty =>
        obtain ⟨marked, rest⟩ := Hex.hasMark_append known nonempty digits
        rw [split, if_pos marked, rest]
        exact ⟨by simp [nonempty], rfl⟩
    | bare nonempty bare =>
        have unmarked : ¬ Hex.hasMark t.trim = true := by
          intro marked
          obtain ⟨mark, known, markNonempty, split⟩ := Hex.exists_mark_of_hasMark marked
          exact markNonempty (bare mark known _ split)
        rw [if_neg unmarked]
        exact ⟨nonempty, rfl⟩
  · rintro ⟨nonempty, rfl⟩
    split
    · next marked =>
        obtain ⟨mark, known, markNonempty, split⟩ := Hex.exists_mark_of_hasMark marked
        exact .marked split known markNonempty
    · next unmarked =>
        refine .bare nonempty ?_
        intro mark known digits split
        by_contra markNonempty
        apply unmarked
        rw [split]
        exact (Hex.hasMark_append known markNonempty digits).1

theorem hashOfText_eq_ok_iff
    {t hash : Text}
    {failure : Failure} :
    (if t.trim = [] then Except.error failure else .ok (Hex.addMark t.trim)) = Except.ok hash ↔
      SpellsHash t hash := by
  rw [spellsHash_iff]
  split
  · next blank => simp [blank]
  · next nonempty => simp [nonempty, eq_comm]

/-- The hash of a reply is the one that it holds. -/
theorem hashOf_eq_ok_iff
    {reply : Datum}
    {hash : Text} :
    hashOf reply = .ok hash ↔ HoldsHash reply hash := by
  cases reply with
  | text t =>
      refine hashOfText_eq_ok_iff.trans ⟨.text, ?_⟩
      intro holds
      cases holds with
      | text spells => exact spells
  | record entries =>
      unfold hashOf
      simp only [Entries.getD]
      constructor
      · intro read
        split at read
        · next t candidate =>
            have spells := hashOfText_eq_ok_iff.mp read
            cases found : Entries.get? "hash" entries with
            | none =>
                rw [found] at candidate
                cases candidate
            | some member =>
                rw [found, Option.getD_some] at candidate
                exact .member (found.trans (congrArg some candidate)) spells
        · cases read
      · intro holds
        cases holds with
        | member found spells =>
            rw [found]
            exact hashOfText_eq_ok_iff.mpr spells
  | null | bool | int | float | bytes | list =>
      constructor
      · intro read
        cases read
      · intro holds
        cases holds

/-- A reply without a hash is reported as a whole. -/
theorem hashOf_eq_error
    {reply : Datum}
    {failure : Failure}
    (read : hashOf reply = .error failure) :
    failure = unusableHash reply := by
  unfold hashOf at read
  dsimp only at read
  split at read
  · split at read
    · exact (Except.error.inj read).symm
    · cases read
  · exact (Except.error.inj read).symm

/-- A reply that messages can show is reported as a transaction without a usable outcome. -/
theorem unusableHash_of_isShowable
    {reply : Datum}
    (showable : reply.IsShowable) :
    ∃ message, unusableHash reply = .outcome ⟨.unusable, message, .null, .null⟩ := by
  obtain ⟨t, quoted⟩ := Option.isSome_iff_exists.mp showable
  unfold unusableHash
  rw [quoted]
  exact ⟨_, rfl⟩

/-! ## Submissions -/

/-- An envelope was submitted. -/
def submitted
    (envelope : Text)
    (reply : Outcome Datum) : Exchange interface :=
  ⟨Question.call "sendRawTransaction" [.text envelope], reply⟩

/-- Submits an envelope. -/
def askSubmit
    (envelope : Text)
    (next : Outcome Datum → Interaction interface α) : Interaction interface α :=
  .ask (Question.call "sendRawTransaction" [.text envelope]) next

theorem yields_askSubmit_iff
    {envelope : Text}
    {next : Outcome Datum → Interaction interface α}
    {trace : List (Exchange interface)}
    {result : α} :
    (askSubmit envelope next).Yields trace result ↔
      ∃ reply rest, trace = submitted envelope reply :: rest ∧ (next reply).Yields rest result :=
  Interaction.yields_ask_iff

/-- To submit is one call. Its reply is read as a hash. -/
theorem submit_eq (envelope : Text) :
    (submit (.text envelope)).outcome =
      askSubmit envelope fun reply => .done (reply >>= hashOf) := by
  change askSubmit envelope _ = askSubmit envelope _
  congr 1
  funext reply
  cases reply with
  | ok datum => rfl
  | error failure => rfl

end Node

open Node

namespace Poller

/-! ## Pollers that were told of the submission -/

/-- A step is the same from the state before the submission and from the one after it. -/
theorem step_markPending (poller : Poller) :
    poller.markPending.step = poller.step := by
  rcases poller.markPending_eq_or with same | ⟨notDone, pending⟩
  · rw [same]
  · rw [pending, step_of_not_isDone notDone, step_of_not_isDone rfl]
    rfl

/-- A run is the same from the state before the submission and from the one after it. -/
theorem run_markPending (poller : Poller) :
    poller.markPending.run = poller.run := by
  rw [run_eq, run_eq, step_markPending]

/-- A run asks for the receipt of the transaction and calls nothing else. -/
theorem calls_of_run
    {txHash : Datum}
    {policy : Option ReceiptPolicy}
    {trace : List (Exchange interface)}
    {outcome : Outcome ConfirmationResult}
    {after : Poller}
    (yields : (start txHash policy).run.Yields trace (outcome, after)) :
    ∀ call ∈ calls trace, call.1 = receiptCall txHash := by
  have runs := yields_run_iff.mp yields
  have invariant := isKept_invariant.run (Invariant.start txHash policy) runs
  have order : after.txHash = txHash ∧ after.policy = policy.getD .default :=
    @IsKept.run _ _ _ [] _ _ (isKept_order txHash _) ⟨rfl, rfl⟩ runs
  intro call member
  rw [← order.1]
  exact invariant.call_eq call member

end Poller

namespace Confirmation

/-- To submit and wait is to submit and then to wait. -/
theorem submitAndWait_eq
    (envelope : Datum)
    (policy : Option ReceiptPolicy) :
    submitAndWait envelope policy =
      (do
        let txHash ← Node.submit envelope
        wait (.text txHash) policy) := by
  unfold submitAndWait wait
  simp only [Poller.run_markPending]

/-- What follows the reply to a submission: a failure, or the wait for its hash. -/
theorem submitAndWait_outcome_eq
    (envelope : Text)
    (policy : Option ReceiptPolicy) :
    (submitAndWait (.text envelope) policy).outcome =
      askSubmit envelope fun reply =>
        Task.afterwards (fun txHash => wait (.text txHash) policy) (reply >>= hashOf) := by
  rw [submitAndWait_eq, Task.outcome_bind, submit_eq]
  rfl

/-- All that a submission with a wait can do. The envelope is submitted first and once; a failure,
or a reply without a hash, is the end. Otherwise it waits for the hash, and calls nothing but its
receipt. -/
inductive SubmitsOnce (envelope : Text) (policy : Option ReceiptPolicy) :
    List (Exchange interface) → Outcome ConfirmationResult → Prop
  | refused
      (failure : Failure) :
      SubmitsOnce envelope policy [submitted envelope (.error failure)] (.error failure)
  | unusable
      {reply : Datum} :
      (∀ hash, ¬ HoldsHash reply hash) →
      SubmitsOnce envelope policy [submitted envelope (.ok reply)] (.error (unusableHash reply))
  | accepted
      {reply : Datum}
      {hash : Text}
      {rest : List (Exchange interface)}
      {outcome : Outcome ConfirmationResult} :
      HoldsHash reply hash →
      (wait (.text hash) policy).outcome.Yields rest outcome →
      (∀ call ∈ calls rest, call.1 = receiptCall (.text hash)) →
      SubmitsOnce envelope policy (submitted envelope (.ok reply) :: rest) outcome

/-- A wait calls nothing but the receipt of its transaction. -/
theorem calls_of_wait
    {txHash : Datum}
    {policy : Option ReceiptPolicy}
    {trace : List (Exchange interface)}
    {outcome : Outcome ConfirmationResult}
    (yields : (wait txHash policy).outcome.Yields trace outcome) :
    ∀ call ∈ calls trace, call.1 = receiptCall txHash := by
  obtain ⟨⟨ended, after⟩, runs, -⟩ := Interaction.yields_bind_done_iff.mp yields
  exact Poller.calls_of_run runs

theorem yields_submitAndWait_iff
    {envelope : Text}
    {policy : Option ReceiptPolicy}
    {trace : List (Exchange interface)}
    {outcome : Outcome ConfirmationResult} :
    (submitAndWait (.text envelope) policy).outcome.Yields trace outcome ↔
      SubmitsOnce envelope policy trace outcome := by
  rw [submitAndWait_outcome_eq, yields_askSubmit_iff]
  constructor
  · rintro ⟨reply, rest, rfl, yields⟩
    cases reply with
    | error failure =>
        obtain ⟨rfl, rfl⟩ := Interaction.yields_done_iff.mp yields
        exact .refused failure
    | ok reply =>
        change (Task.afterwards _ (hashOf reply)).Yields rest outcome at yields
        cases read : hashOf reply with
        | error failure =>
            rw [read] at yields
            obtain ⟨rfl, rfl⟩ := Interaction.yields_done_iff.mp yields
            rw [hashOf_eq_error read]
            apply SubmitsOnce.unusable
            intro hash holds
            rw [hashOf_eq_ok_iff.mpr holds] at read
            cases read
        | ok hash =>
            rw [read] at yields
            exact .accepted (hashOf_eq_ok_iff.mp read) yields (calls_of_wait yields)
  · intro submits
    cases submits with
    | refused failure => exact ⟨.error failure, [], rfl, .done _⟩
    | @unusable reply holdsNone =>
        refine ⟨.ok reply, [], rfl, ?_⟩
        change (Task.afterwards _ (hashOf reply)).Yields _ _
        cases read : hashOf reply with
        | error failure =>
            rw [hashOf_eq_error read]
            exact .done _
        | ok hash => exact absurd (hashOf_eq_ok_iff.mp read) (holdsNone hash)
    | @accepted reply hash rest outcome holds waits calls =>
        refine ⟨.ok reply, rest, rfl, ?_⟩
        change (Task.afterwards _ (hashOf reply)).Yields _ _
        rw [hashOf_eq_ok_iff.mpr holds]
        exact waits

/-- To submit and wait is to submit and then to wait for the hash under the same policy, with the
same exchanges in all surroundings. The envelope is submitted once, and a reply that comes from a
node and holds no hash is a transaction without a usable outcome. -/
theorem submitAndWait_submits_once
    (envelope : Text)
    (policy : Option ReceiptPolicy) :
    (submitAndWait (.text envelope) policy =
        (do
          let txHash ← Node.submit (.text envelope)
          wait (.text txHash) policy)) ∧
      (∀ trace outcome, (submitAndWait (.text envelope) policy).outcome.Yields trace outcome ↔
        SubmitsOnce envelope policy trace outcome) ∧
      ∀ client method params trace reply,
        (Rpc.call client method params).outcome.Yields trace (.ok reply) →
          ∃ message, unusableHash reply = .outcome ⟨.unusable, message, .null, .null⟩ := by
  refine ⟨submitAndWait_eq _ policy, fun _ _ => yields_submitAndWait_iff, ?_⟩
  intro client method params trace reply yields
  exact unusableHash_of_isShowable (Rpc.Operation.isShowable_of_yields_call yields)

/-- A reply to a submission with a blank and a capital mark before the hash. -/
def markedReply : Datum :=
  .record [("hash", .text [0x20, 0x30, 0x58, 0x63, 0x64])]

/-- The request of a call without parameters. -/
def plainRequest : Rpc.Call :=
  ⟨.text "blockNumber", [], 1⟩

/-- A reply to `plainRequest`: its identifier and the number five, in JSON. -/
def fiveReply : Rpc.Reply where
  status := 200
  body := [0x7B, 0x22, 0x69, 0x64, 0x22, 0x3A, 0x31, 0x2C, 0x22, 0x72, 0x65, 0x73, 0x75, 0x6C,
    0x74, 0x22, 0x3A, 0x35, 0x7D]

theorem submitAndWait_submits_once_cancelled :
    (∃ outcome, (submitAndWait (.text "0xab") none).outcome.Yields
      [submitted "0xab" (.ok markedReply), asked true] outcome) ∧
    ∃ client method params trace message,
      (Rpc.call client method params).outcome.Yields trace (.ok (.int 5)) ∧
        unusableHash (.int 5) = .outcome ⟨.unusable, message, .null, .null⟩ := by
  obtain ⟨-, yields_iff, told⟩ := submitAndWait_submits_once "0xab" none
  have holds : HoldsHash markedReply [0x30, 0x78, 0x63, 0x64] :=
    .member rfl (@SpellsHash.marked _ [0x30, 0x58] [0x63, 0x64] rfl (by decide) (by decide))
  have waits : (wait (.text [0x30, 0x78, 0x63, 0x64]) none).outcome.Yields [asked true] _ :=
    Interaction.yields_bind_done_iff.mpr
      ⟨_, Poller.yields_run_iff.mpr (.ended (.cancelled rfl) rfl), rfl⟩
  have written : (Rpc.bodyOf plainRequest.toDatum).isOk = true := by decide +kernel
  cases body : Rpc.bodyOf plainRequest.toDatum with
  | error misuse =>
      rw [body] at written
      cases written
  | ok text =>
      have called : (Rpc.call ⟨.null, .null, []⟩ plainRequest.method .null).outcome.Yields _
          (.ok (.int 5)) :=
        Rpc.Operation.yields_task_iff.mpr
          (.call (.made 1 rfl) (.exchanged (.ok fiveReply) body))
      obtain ⟨message, unusable⟩ := told _ _ _ _ _ called
      exact ⟨⟨_, (yields_iff _ _).mpr (.accepted holds waits (calls_of_wait waits))⟩,
        _, _, _, _, message, called, unusable⟩

end Confirmation

end ChainClient
