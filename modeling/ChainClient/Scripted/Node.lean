import ChainClient.Node.Basic

/-!
# Scripted nodes

A node that answers from a script, for runs without a network. Each method has entries of its own,
which are used one by one; the last one is used for ever. An entry can express the wish to stop
before it answers.
-/

namespace ChainClient

namespace Scripted

/-- What a scripted node does with one call. -/
structure Entry where
  cancels : Bool := false
  reply : Outcome Datum

/-- Takes the next entry; the last one stays. -/
def takeEntry : List Entry → Option (Entry × List Entry)
  | [] => none
  | [entry] => some (entry, [entry])
  | entry :: entries => some (entry, entries)

/-- The script of one method: entries for calls with certain first parameters, and entries for all
other calls. -/
structure MethodScript where
  byParam : Text → Option (List Entry) := fun _ => none
  otherwise : List Entry := []

/-- The entries of its own that a call has, with the parameter that selects them. -/
def MethodScript.selected (script : MethodScript) (params : List Datum) :
    Option (Text × List Entry) :=
  match params with
  | .text param :: _ => (script.byParam param).map fun entries => (param, entries)
  | _ => none

/-- Takes the entry for a call. -/
def MethodScript.take (script : MethodScript) (params : List Datum) :
    Option (Entry × MethodScript) :=
  match script.selected params with
  | some (param, entries) => (takeEntry entries).map fun (entry, entries) =>
      (entry, { script with byParam := fun other =>
        if other = param then some entries else script.byParam other })
  | none => (takeEntry script.otherwise).map fun (entry, entries) =>
      (entry, { script with otherwise := entries })

/-- A scripted node: what is left of its script, the calls so far, and whether the wish to stop was
expressed. -/
structure NodeState where
  script : Text → MethodScript
  calls : List (Text × List Datum) := []
  cancelled : Bool := false

/-- The failure of a call that the script says nothing about. -/
def noEntry (method : Text) : Failure :=
  .transport ⟨"no scripted response", .text method, .null, .null⟩

/-- Answers a call. -/
def NodeState.call (state : NodeState) (method : Text) (params : List Datum) :
    Outcome Datum × NodeState :=
  let calls := state.calls ++ [(method, params)]
  match (state.script method).take params with
  | none => (.error (noEntry method), { state with calls })
  | some (entry, rest) =>
    (entry.reply, {
      script := fun other => if other = method then rest else state.script other
      calls := calls
      cancelled := state.cancelled || entry.cancels })

/-- A scripted node as surroundings. Nobody expresses the wish to stop during a pause. -/
def node : Handler Node.interface NodeState
  | .call method params, state => state.call method params
  | .cancelled, state => (state.cancelled, state)
  | .pause interval, state => (Node.pauseAnswer interval state.cancelled state.cancelled, state)

end Scripted

end ChainClient
