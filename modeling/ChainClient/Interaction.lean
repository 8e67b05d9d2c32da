import ChainClient.Failure

/-!
# Interactions

A computation that asks its surroundings is a tree: each node is a question, with one branch for
every answer. What the surroundings do is a handler; a handler and a state together turn an
interaction into its result.
-/

namespace ChainClient

/-- The questions that a computation can ask, and the answers to each. -/
structure Interface where
  Question : Type
  Answer : Question → Type

/-- A computation that asks questions of an interface. -/
inductive Interaction (I : Interface) (α : Type) where
  | done (result : α)
  | ask (question : I.Question) (next : I.Answer question → Interaction I α)

/-- Surroundings with a state: they answer each question and may change. -/
abbrev Handler (I : Interface) (σ : Type) := (question : I.Question) → σ → I.Answer question × σ

namespace Interaction

variable {I J : Interface} {α β σ : Type}

/-- Goes on with the result. -/
def bind : Interaction I α → (α → Interaction I β) → Interaction I β
  | done result, f => f result
  | ask question next, f => ask question fun answer => (next answer).bind f

instance : Monad (Interaction I) where
  pure := done
  bind := bind

/-- A single question. -/
def question (q : I.Question) : Interaction I (I.Answer q) :=
  ask q done

/-- Asks each question by means of another interface. -/
def interpret (f : (q : I.Question) → Interaction J (I.Answer q)) :
    Interaction I α → Interaction J α
  | done result => done result
  | ask q next => (f q).bind fun answer => (next answer).interpret f

/-- The result in given surroundings, and their state afterwards. -/
def run (handle : Handler I σ) : Interaction I α → σ → α × σ
  | done result, state => (result, state)
  | ask q next, state =>
    let (answer, state) := handle q state
    (next answer).run handle state

@[simp] theorem pure_eq (result : α) : (pure result : Interaction I α) = done result := rfl

@[simp] theorem bind_eq (x : Interaction I α) (f : α → Interaction I β) : x >>= f = x.bind f := rfl

@[simp] theorem bind_done (result : α) (f : α → Interaction I β) :
    (done result).bind f = f result := rfl

@[simp] theorem bind_ask (q : I.Question) (next : I.Answer q → Interaction I α)
    (f : α → Interaction I β) :
    (ask q next).bind f = ask q fun answer => (next answer).bind f := rfl

@[simp] theorem bind_done_right (x : Interaction I α) : x.bind done = x := by
  induction x with
  | done result => rfl
  | ask q next ih => simp [ih]

theorem bind_assoc (x : Interaction I α) (f : α → Interaction I β) (g : β → Interaction I σ) :
    (x.bind f).bind g = x.bind fun a => (f a).bind g := by
  induction x with
  | done result => rfl
  | ask q next ih => simp [ih]

@[simp] theorem run_done (handle : Handler I σ) (result : α) (state : σ) :
    (done result).run handle state = (result, state) := rfl

@[simp] theorem run_ask (handle : Handler I σ) (q : I.Question)
    (next : I.Answer q → Interaction I α) (state : σ) :
    (ask q next).run handle state =
      (next (handle q state).1).run handle (handle q state).2 := rfl

/-- What runs in sequence runs one after the other. -/
@[simp] theorem run_bind (handle : Handler I σ) (x : Interaction I α) (f : α → Interaction I β)
    (state : σ) :
    (x.bind f).run handle state = (f (x.run handle state).1).run handle (x.run handle state).2 := by
  induction x generalizing state with
  | done result => rfl
  | ask q next ih => simp [ih]

end Interaction

/-- A computation that asks questions and may fail. -/
abbrev Task (I : Interface) := ExceptT Failure (Interaction I)

namespace Task

variable {I : Interface} {α : Type}

/-- The interaction of a task, failure included in its result. -/
def outcome (task : Task I α) : Interaction I (Outcome α) :=
  task.run

/-- A task that asks nothing. -/
def ofExcept (result : Outcome α) : Task I α :=
  ExceptT.mk (.done result)

/-- The task of an interaction whose result may be a failure. -/
def ofOutcome (x : Interaction I (Outcome α)) : Task I α :=
  ExceptT.mk x

end Task

end ChainClient
