import ChainClient.Node.Height
import ChainClient.Proofs.Quantities.Readings
import ChainClient.Proofs.Rpc.Operations
import ChainClient.Proofs.Transaction.Refusals

/-!
# The last block of a transaction

The bound for a transaction that is made now is the height that the node tells and a margin. The
margin is checked, and it is checked before the node is asked. The height is not: the bound is one
that a transaction can have exactly if the height leaves room for it.
-/

namespace ChainClient

namespace Quantity

/-- The quantity of a datum: an integer, or what a literal spells. -/
inductive Tells : Datum → Int → Prop
  | integer (n : Int) : Tells (.int n) n
  | spelled
      {literal : Text}
      {n : Int} :
      Spells literal.trim n →
      Tells (.text literal) n
  | padded
      {literal : Text}
      {n : Int} :
      IsPadded literal.trim n →
      Tells (.text literal) n

theorem parse_eq_ok_iff
    {value : Datum}
    {n : Int} :
    parse value = .ok n ↔ Tells value n := by
  cases value with
  | int m =>
      constructor
      · intro read
        cases read
        exact .integer _
      · intro tells
        cases tells
        rfl
  | text literal =>
      rw [parse_text_eq_ok_iff]
      constructor
      · rintro (spells | padded)
        · exact .spelled spells
        · exact .padded padded
      · intro tells
        cases tells with
        | spelled spells => exact .inl spells
        | padded padded => exact .inr padded
  | null | bool | float | bytes | list | record =>
      constructor
      · intro read
        cases read
      · intro tells
        cases tells

end Quantity

namespace Node

open Quantity Transaction

variable
    {margin reply : Datum}
    {height : Int}
    {failure : Failure}

/-! ## Heights -/

theorem heightOf_eq_ok_iff :
    heightOf reply = .ok height ↔ Tells reply height := by
  rw [← parse_eq_ok_iff, heightOf]
  cases parse reply with
  | ok n => simp
  | error misuse => simp

/-- A reply without a height is reported as a whole. -/
theorem heightOf_eq_error_iff :
    heightOf reply = .error failure ↔
      failure = unexpectedHeight reply ∧ ∀ height, ¬ Tells reply height := by
  simp only [← parse_eq_ok_iff, heightOf]
  cases parse reply with
  | ok n => simp
  | error misuse => simp [eq_comm]

/-- A reply that messages can show is reported as a failed exchange. -/
theorem unexpectedHeight_of_isShowable
    (showable : reply.IsShowable) :
    ∃ message, unexpectedHeight reply =
      .transport ⟨message, .text "blockNumber", .null, .null⟩ := by
  obtain ⟨t, quoted⟩ := Option.isSome_iff_exists.mp showable
  unfold unexpectedHeight
  rw [quoted]
  exact ⟨_, rfl⟩

/-- The height was asked for. -/
def heightAsked (reply : Outcome Datum) : Exchange interface :=
  ⟨Question.call "blockNumber" [], reply⟩

/-- Asks for the height. -/
def askHeight
    {α : Type}
    (next : Outcome Datum → Interaction interface α) : Interaction interface α :=
  .ask (Question.call "blockNumber" []) next

theorem yields_askHeight_iff
    {α : Type}
    {next : Outcome Datum → Interaction interface α}
    {trace : List (Exchange interface)}
    {result : α} :
    (askHeight next).Yields trace result ↔
      ∃ reply rest, trace = heightAsked reply :: rest ∧ (next reply).Yields rest result :=
  Interaction.yields_ask_iff

/-! ## Bounds -/

/-- To ask for the height is one call. Its reply is read as a quantity. -/
theorem blockNumber_eq :
    blockNumber.outcome = askHeight fun reply => .done (reply >>= heightOf) := by
  change askHeight _ = askHeight _
  congr 1
  funext reply
  cases reply with
  | ok datum => rfl
  | error failure => rfl

/-- What is made of a reply when the margin is checked. -/
def boundOf
    (m : Int)
    (reply : Outcome Datum) : Outcome Int :=
  (· + m) <$> (reply >>= heightOf)

theorem boundOf_eq_ok_iff
    {m bound : Int} :
    boundOf m (.ok reply) = .ok bound ↔ ∃ height, Tells reply height ∧ height + m = bound := by
  simp only [← heightOf_eq_ok_iff]
  exact map_eq_ok_iff

theorem boundOf_eq_error_iff
    {m : Int} :
    boundOf m (.ok reply) = .error failure ↔
      failure = unexpectedHeight reply ∧ ∀ height, ¬ Tells reply height := by
  rw [← heightOf_eq_error_iff]
  exact map_eq_error_iff

/-- The height is asked for behind the check of the margin. -/
theorem validUntil_eq (margin : Datum) :
    (validUntil margin).outcome =
      match requireInt "margin" 1 100 margin with
      | .error failure => .done (.error failure)
      | .ok m => askHeight fun reply => .done (boundOf m reply) := by
  have checkedFirst : (validUntil margin).outcome =
      Task.afterwards (fun m => (blockNumber >>= fun height => pure (height + m)))
        (requireInt "margin" 1 100 margin) :=
    Task.outcome_bind _ _
  rw [checkedFirst]
  cases requireInt "margin" 1 100 margin with
  | error failure => rfl
  | ok m =>
      rw [Task.afterwards, Task.outcome_bind, blockNumber_eq]
      change askHeight _ = askHeight _
      congr 1
      funext reply
      unfold boundOf
      change Task.afterwards _ (reply >>= heightOf) = _
      cases reply >>= heightOf with
      | error failure => rfl
      | ok height => rfl

/-- All that seeding a bound can do. A margin that is no integer from 1 to 100 is refused before
anything is asked. Otherwise the height is asked for once; a failure is passed on, a reply without a
height is reported, and the bound is the height and the margin. -/
inductive SeedsBound (margin : Datum) : List (Exchange interface) → Outcome Int → Prop
  | refused
      {failure : Failure} :
      RefusesInt "margin" 1 100 margin failure →
      SeedsBound margin [] (.error failure)
  | failed
      (failure : Failure) :
      IsBetween 1 100 margin →
      SeedsBound margin [heightAsked (.error failure)] (.error failure)
  | heightless
      {reply : Datum} :
      IsBetween 1 100 margin →
      (∀ height, ¬ Tells reply height) →
      SeedsBound margin [heightAsked (.ok reply)] (.error (unexpectedHeight reply))
  | seeded
      {reply : Datum}
      {m height : Int} :
      margin = .int m →
      1 ≤ m →
      m ≤ 100 →
      Tells reply height →
      SeedsBound margin [heightAsked (.ok reply)] (.ok (height + m))

section

variable
    {trace : List (Exchange interface)}
    {result : Outcome Int}
    {bound : Int}

theorem yields_validUntil_of_isBetween
    {m : Int}
    (given : margin = .int m)
    (least : 1 ≤ m)
    (most : m ≤ 100) :
    (validUntil margin).outcome.Yields trace result ↔
      ∃ reply, trace = [heightAsked reply] ∧ result = boundOf m reply := by
  rw [validUntil_eq, requireInt_eq_ok_iff.mpr ⟨given, least, most⟩, yields_askHeight_iff]
  simp only [Interaction.yields_done_iff]
  constructor
  · rintro ⟨reply, rest, rfl, rfl, rfl⟩
    exact ⟨reply, rfl, rfl⟩
  · rintro ⟨reply, rfl, rfl⟩
    exact ⟨reply, [], rfl, rfl, rfl⟩

theorem seedsBound_of_yields
    (yields : (validUntil margin).outcome.Yields trace result) :
    SeedsBound margin trace result := by
  cases checked : requireInt "margin" 1 100 margin with
  | error failure =>
      rw [validUntil_eq, checked] at yields
      obtain ⟨rfl, rfl⟩ := Interaction.yields_done_iff.mp yields
      exact .refused (requireInt_eq_error_iff.mp checked)
  | ok m =>
      obtain ⟨given, least, most⟩ := requireInt_eq_ok_iff.mp checked
      have between : IsBetween 1 100 margin := ⟨m, given, least, most⟩
      obtain ⟨reply, rfl, rfl⟩ := (yields_validUntil_of_isBetween given least most).mp yields
      cases reply with
      | error failure => exact .failed failure between
      | ok reply =>
          cases brought : boundOf m (.ok reply) with
          | error failure =>
              obtain ⟨rfl, heightless⟩ := boundOf_eq_error_iff.mp brought
              exact .heightless between heightless
          | ok bound =>
              obtain ⟨height, tells, rfl⟩ := boundOf_eq_ok_iff.mp brought
              exact .seeded given least most tells

theorem SeedsBound.yields
    (seeds : SeedsBound margin trace result) :
    (validUntil margin).outcome.Yields trace result := by
  cases seeds with
  | refused refuses =>
      rw [validUntil_eq, requireInt_eq_error_iff.mpr refuses]
      exact .done _
  | failed failure between =>
      obtain ⟨m, given, least, most⟩ := between
      exact (yields_validUntil_of_isBetween given least most).mpr ⟨.error failure, rfl, rfl⟩
  | @heightless reply between heightless =>
      obtain ⟨m, given, least, most⟩ := between
      have brought : boundOf m (.ok reply) = _ := boundOf_eq_error_iff.mpr ⟨rfl, heightless⟩
      exact (yields_validUntil_of_isBetween given least most).mpr ⟨.ok reply, rfl, brought.symm⟩
  | @seeded reply m height given least most tells =>
      have brought : boundOf m (.ok reply) = _ := boundOf_eq_ok_iff.mpr ⟨height, tells, rfl⟩
      exact (yields_validUntil_of_isBetween given least most).mpr ⟨.ok reply, rfl, brought.symm⟩

/-- A transaction can have the bound that was seeded exactly if the height leaves room for it. -/
theorem accepts_seeded_iff
    (yields : (validUntil margin).outcome.Yields trace (.ok bound)) :
    ∃ reply height m, trace = [heightAsked (.ok reply)] ∧ Tells reply height ∧ margin = .int m ∧
      bound = height + m ∧ ∀ builder : Builder,
        builder.Accepts .validUntilBlock (.int bound) ↔ 1 - m ≤ height ∧ height < 2 ^ 64 - m := by
  generalize outcome : Except.ok bound = result at yields
  cases seedsBound_of_yields yields with
  | refused => cases outcome
  | failed => cases outcome
  | heightless => cases outcome
  | @seeded reply m height given least most tells =>
      cases outcome
      refine ⟨reply, height, m, rfl, tells, given, rfl, fun builder => ?_⟩
      simp only [Builder.Accepts, IsBetween, Datum.int.injEq, exists_eq_left']
      omega

/-- To seed a bound is one call behind the check of the margin. Integers and the literals of
quantities tell a height, and the bound is the height and the margin; every other reply that a node
sends is reported as a failed exchange, and a failure is passed on. The bound is one that a
transaction can have exactly if it is positive and has 64 bits, which is the height's to keep: no
height is refused. -/
theorem validUntil_outcome (margin : Datum) :
    (∀ trace result, (validUntil margin).outcome.Yields trace result ↔
      SeedsBound margin trace result) ∧
    (∀ trace bound, (validUntil margin).outcome.Yields trace (.ok bound) →
      ∃ reply height m, trace = [heightAsked (.ok reply)] ∧ Tells reply height ∧ margin = .int m ∧
        bound = height + m ∧ ∀ builder : Builder,
          builder.Accepts .validUntilBlock (.int bound) ↔
            1 - m ≤ height ∧ height < 2 ^ 64 - m) ∧
    ∀ client method params trace reply,
      (Rpc.call client method params).outcome.Yields trace (.ok reply) →
        ∃ message, unexpectedHeight reply =
          .transport ⟨message, .text "blockNumber", .null, .null⟩ := by
  refine ⟨fun _ _ => ⟨seedsBound_of_yields, SeedsBound.yields⟩, fun _ _ => accepts_seeded_iff, ?_⟩
  intro client method params trace reply yields
  exact unexpectedHeight_of_isShowable (Rpc.Operation.isShowable_of_yields_call yields)

theorem validUntil_outcome_literal :
    (validUntil (.int 80)).outcome.Yields [heightAsked (.ok (.text "0x64"))] (.ok 180) ∧
      Builder.any.Accepts .validUntilBlock (.int 180) := by
  obtain ⟨yields_iff, told, -⟩ := validUntil_outcome (.int 80)
  have marked : IsMarked [] false (Text.trim "0x64") 100 :=
    @IsMarked.intro [] false [0x30, 0x78] [0x36, 0x34] [6, 4] (by decide) (by decide)
      (.next (by decide +kernel) (.last (by decide +kernel)))
  have yields := (yields_iff [heightAsked (.ok (.text "0x64"))] (.ok (100 + 80))).mpr
    (.seeded rfl (by decide) (by decide) (.spelled (.hexadecimal marked)))
  obtain ⟨reply, height, m, -, -, given, bound, accepts⟩ := told _ _ yields
  cases given
  exact ⟨yields, (accepts .any).mpr (by omega)⟩

/-- It is not so that a transaction can have every bound that was seeded. -/
theorem not_accepts_seeded :
    ¬ ∀ margin trace bound, (validUntil margin).outcome.Yields trace (.ok bound) →
      ∀ builder : Builder, builder.Accepts .validUntilBlock (.int bound) := by
  intro usable
  have seeds : SeedsBound (.int 80) [heightAsked (.ok (.int (-100)))] (.ok (-100 + 80)) :=
    .seeded rfl (by decide) (by decide) (.integer _)
  obtain ⟨n, same, positive, -⟩ := usable _ _ _ seeds.yields .any
  cases same
  omega

end

end Node

end ChainClient
