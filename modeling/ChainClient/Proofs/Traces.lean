import ChainClient.Interaction

/-!
# Traces of interactions

What surroundings say to an interaction, apart from how they come to say it. An
interaction yields a result along a trace if its questions, answered as the trace
answers them, lead to the result, and it leaves another one where the trace ends before
that. Whatever handler runs an interaction, it runs along one of its traces.
-/

namespace ChainClient

/-- A question with the answer that it got. -/
structure Exchange (I : Interface) where
  question : I.Question
  answer : I.Answer question

namespace Interaction

variable {I : Interface} {α β σ : Type}

/-- The interaction leads to a result when its questions get the answers of the trace. -/
inductive Yields : Interaction I α → List (Exchange I) → α → Prop
  | done (result : α) : Yields (.done result) [] result
  | ask
      {question : I.Question}
      {next : I.Answer question → Interaction I α}
      (answer : I.Answer question)
      {trace : List (Exchange I)}
      {result : α} :
      Yields (next answer) trace result →
      Yields (.ask question next) (⟨question, answer⟩ :: trace) result

@[simp] theorem yields_done_iff
    {result other : α}
    {trace : List (Exchange I)} :
    (done result : Interaction I α).Yields trace other ↔ trace = [] ∧ other = result := by
  constructor
  · intro yields
    cases yields
    exact ⟨rfl, rfl⟩
  · rintro ⟨rfl, rfl⟩
    exact .done _

@[simp] theorem yields_ask_iff
    {question : I.Question}
    {next : I.Answer question → Interaction I α}
    {result : α}
    {trace : List (Exchange I)} :
    (ask question next).Yields trace result ↔
      ∃ answer rest, trace = ⟨question, answer⟩ :: rest ∧ (next answer).Yields rest result := by
  constructor
  · intro yields
    cases yields with
    | ask answer rest => exact ⟨answer, _, rfl, rest⟩
  · rintro ⟨answer, rest, rfl, yields⟩
    exact .ask answer yields

/-- A trace of two interactions in sequence is a trace of the first with one of the second
behind it. -/
theorem yields_bind_iff
    {x : Interaction I α}
    {f : α → Interaction I β}
    {result : β}
    {trace : List (Exchange I)} :
    (x.bind f).Yields trace result ↔
      ∃ front between behind, trace = front ++ behind ∧
        x.Yields front between ∧ (f between).Yields behind result := by
  induction x generalizing trace with
  | done between =>
      rw [bind_done]
      constructor
      · intro yields
        exact ⟨[], between, trace, rfl, .done between, yields⟩
      · rintro ⟨front, same, behind, rfl, first, second⟩
        obtain ⟨rfl, rfl⟩ := yields_done_iff.mp first
        exact second
  | ask question next inductionHypothesis =>
      rw [bind_ask, yields_ask_iff]
      constructor
      · rintro ⟨answer, rest, rfl, yields⟩
        obtain ⟨front, between, behind, rfl, first, second⟩ :=
          (inductionHypothesis answer).mp yields
        exact ⟨⟨question, answer⟩ :: front, between, behind, rfl, .ask answer first, second⟩
      · rintro ⟨front, between, behind, rfl, first, second⟩
        obtain ⟨answer, rest, rfl, yields⟩ := yields_ask_iff.mp first
        exact ⟨answer, rest ++ behind, rfl,
          (inductionHypothesis answer).mpr ⟨rest, between, behind, rfl, yields, second⟩⟩

/-- What is made of a result takes no further question. -/
theorem yields_bind_done_iff
    {x : Interaction I α}
    {f : α → β}
    {result : β}
    {trace : List (Exchange I)} :
    (x.bind fun between => done (f between)).Yields trace result ↔
      ∃ between, x.Yields trace between ∧ result = f between := by
  simp only [yields_bind_iff, yields_done_iff]
  constructor
  · rintro ⟨front, between, _, rfl, yields, rfl, rfl⟩
    rw [List.append_nil]
    exact ⟨between, yields, rfl⟩
  · rintro ⟨between, yields, rfl⟩
    exact ⟨trace, between, [], (List.append_nil trace).symm, yields, rfl, rfl⟩

/-- What runs in a handler runs along a trace. -/
theorem exists_yields_run
    (handle : Handler I σ)
    (x : Interaction I α)
    (state : σ) :
    ∃ trace, x.Yields trace (x.run handle state).1 := by
  induction x generalizing state with
  | done result => exact ⟨[], .done result⟩
  | ask question next inductionHypothesis =>
      obtain ⟨trace, yields⟩ := inductionHypothesis _ (handle question state).2
      exact ⟨⟨question, (handle question state).1⟩ :: trace, .ask _ yields⟩

/-- What is left of an interaction when its first questions get the answers of the trace. -/
inductive Leaves : Interaction I α → List (Exchange I) → Interaction I α → Prop
  | start (x : Interaction I α) :
      Leaves x [] x
  | ask
      {question : I.Question}
      {next : I.Answer question → Interaction I α}
      (answer : I.Answer question)
      {trace : List (Exchange I)}
      {rest : Interaction I α} :
      Leaves (next answer) trace rest →
      Leaves (.ask question next) (⟨question, answer⟩ :: trace) rest

/-- One more answer. -/
theorem Leaves.answer
    {x : Interaction I α}
    {trace : List (Exchange I)}
    {question : I.Question}
    {next : I.Answer question → Interaction I α}
    (leaves : x.Leaves trace (.ask question next))
    (answer : I.Answer question) :
    x.Leaves (trace ++ [⟨question, answer⟩]) (next answer) := by
  generalize left : Interaction.ask question next = rest at leaves
  induction leaves with
  | start x =>
      subst left
      exact .ask answer (.start _)
  | ask given leaves inductionHypothesis => exact .ask given (inductionHypothesis left)

/-- What is left yields the rest of a trace. -/
theorem Leaves.yields
    {x rest : Interaction I α}
    {front behind : List (Exchange I)}
    {result : α}
    (leaves : x.Leaves front rest)
    (yields : rest.Yields behind result) :
    x.Yields (front ++ behind) result := by
  induction leaves with
  | start x => exact yields
  | ask given leaves inductionHypothesis => exact .ask given (inductionHypothesis yields)

/-- How an interaction goes on matters only for the results that it yields. -/
theorem bind_congr
    {x : Interaction I α}
    {f g : α → Interaction I β}
    (agree : ∀ trace result, x.Yields trace result → f result = g result) :
    x.bind f = x.bind g := by
  induction x with
  | done result => exact agree [] result (.done result)
  | ask question next inductionHypothesis =>
      rw [bind_ask, bind_ask]
      congr 1
      funext answer
      exact inductionHypothesis answer fun _ result yields =>
        agree _ result (.ask answer yields)

instance : LawfulMonad (Interaction I) :=
  LawfulMonad.mk' (Interaction I)
    (fun x => by
      change x.bind done = x
      exact bind_done_right x)
    (fun _ _ => rfl)
    (fun x f g => by
      change (x.bind f).bind g = x.bind fun a => (f a).bind g
      exact bind_assoc x f g)

end Interaction

/-! ## Tasks -/

namespace Task

variable {I : Interface} {α β : Type}

instance : LawfulMonad (Task I) :=
  inferInstanceAs (LawfulMonad (ExceptT Failure (Interaction I)))

/-- How a task goes on: a failure ends it. -/
def afterwards (f : α → Task I β) : Outcome α → Interaction I (Outcome β)
  | .ok a => (f a).outcome
  | .error failure => .done (.error failure)

theorem outcome_bind
    (task : Task I α)
    (f : α → Task I β) :
    (task >>= f).outcome = task.outcome.bind (afterwards f) := by
  change Interaction.bind task.outcome _ = _
  congr 1
  funext result
  cases result with
  | ok a => rfl
  | error failure => rfl

end Task

end ChainClient
