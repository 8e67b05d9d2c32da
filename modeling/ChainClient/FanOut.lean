import ChainClient.Confirmation.Poller

/-!
# Fan-out

Many submissions or confirmations at a time, each with a client of its own. The library's own
failures are part of an item's outcome; a misuse goes to the caller once all items are done. The
outcomes stand in the order of the items, whatever the order in which the work was done.
-/

namespace ChainClient

namespace FanOut

/-- A question of the work on one item. -/
inductive Question where
  /-- Makes a client for the item. -/
  | openClient
  /-- A question to the item's client. -/
  | node (question : Node.Question)
  /-- Closes the item's client, if it can be closed. -/
  | closeClient

/-- The questions of the work on one item, and their answers. -/
def interface : Interface where
  Question := Question
  Answer
    | .openClient => Unit
    | .node question => Node.interface.Answer question
    | .closeClient => Unit

/-- The work on one item. -/
abbrev Work (α : Type) := Interaction interface (Outcome α)

/-- What became of an item: a result, or a failure of the library's own. -/
structure ItemOutcome (α : Type) where
  item : Datum
  result : Except Failure α

/-- The outcome of an item; misuse is no outcome. -/
def ItemOutcome.of (item : Datum) (result : Outcome α) : Outcome (ItemOutcome α) :=
  match result with
  | .error (.misuse misuse) => .error (.misuse misuse)
  | result => .ok ⟨item, result⟩

/-- Works on an item with a client of its own, which is closed in the end. -/
def withClient (item : Datum) (task : Node.Task α) : Work (ItemOutcome α) :=
  .ask Question.openClient fun _ =>
    (task.outcome.interpret fun question =>
        .question (I := interface) (.node question)).bind fun result =>
      .ask Question.closeClient fun _ => .done (ItemOutcome.of item result)

/-- The number of workers of a caller who gives none. -/
def defaultWorkers : Nat := 4

/-- There is a worker: the number of workers is not less than one. -/
def checkWorkers (maxWorkers : Datum) : Except Misuse Unit :=
  match maxWorkers.isBelow? 1 with
  | none => .error (.wrongKind none)
  | some true => .error (.badValue (some "max_workers must be >= 1"))
  | some false => .ok ()

/-- The work on each item, unless there is no worker to do it. -/
def plan (maxWorkers items : Datum) (task : Datum → Node.Task α) :
    Except Misuse (List (Work (ItemOutcome α))) := do
  checkWorkers maxWorkers
  let items ← items.toItems
  return items.map fun item => withClient item (task item)

/-- The work of submitting envelopes. -/
def submitMany (maxWorkers envelopes : Datum) : Except Misuse (List (Work (ItemOutcome Text))) :=
  plan maxWorkers envelopes Node.submit

/-- The work of waiting for transactions. -/
def confirmMany (maxWorkers txHashes : Datum) (policy : Option ReceiptPolicy) :
    Except Misuse (List (Work (ItemOutcome ConfirmationResult))) :=
  plan maxWorkers txHashes fun txHash => Confirmation.wait txHash policy

/-- The outcomes of all items, or the misuse of the first item that has one. -/
def gather (outcomes : List (Outcome (ItemOutcome α))) : Outcome (List (ItemOutcome α)) :=
  outcomes.mapM id

/-- Does all work, one item after the other. Each item has surroundings of its own, which start
fresh, and all share the rest. Gives what became of the items, with the surroundings of each. -/
def runAll (handle : Handler interface (σ × τ)) (fresh : σ) :
    List (Work α) → τ → List (Outcome α × σ) × τ
  | [], shared => ([], shared)
  | work :: rest, shared =>
    let (outcome, own, shared) := work.run handle (fresh, shared)
    let (done, shared) := runAll handle fresh rest shared
    ((outcome, own) :: done, shared)

end FanOut

end ChainClient
