import ChainClient.Rpc.Client
import Mathlib.Data.List.Forall2

/-!
# The text of a request

A request is written as a document of four members, the last of them its identifier. A batch is
written as the list of its requests, in their order.
-/

namespace ChainClient

/-! ## Written lists and records -/

namespace Json

variable {style : Style}

theorem write_list_eq_ok
    {items : List Datum}
    {document : Text}
    (written : write style (.list items) = .ok document) :
    ∃ parts, writeItems style items = .ok parts ∧
      document = [0x5B] ++ style.betweenItems.intercalate parts ++ [0x5D] := by
  rw [write.eq_def] at written
  dsimp only at written
  split at written
  · next parts given => exact ⟨parts, given, (Except.ok.inj written).symm⟩
  · cases written

theorem write_record_eq_ok
    {entries : Entries}
    {document : Text}
    (written : write style (.record entries) = .ok document) :
    ∃ parts, writeEntries style entries = .ok parts ∧
      document = [0x7B] ++ style.betweenItems.intercalate parts ++ [0x7D] := by
  rw [write.eq_def] at written
  dsimp only at written
  split at written
  · next parts given => exact ⟨parts, given, (Except.ok.inj written).symm⟩
  · cases written

/-- The items of a list are written one by one. -/
theorem forall₂_of_writeItems
    {items : List Datum}
    {parts : List Text}
    (written : writeItems style items = .ok parts) :
    List.Forall₂ (fun item part => write style item = .ok part) items parts := by
  induction items generalizing parts with
  | nil =>
      cases written
      exact .nil
  | cons item items inductionHypothesis =>
      rw [writeItems] at written
      split at written
      · cases written
      · next part given =>
          split at written
          · cases written
          · next rest others =>
              cases written
              exact .cons given (inductionHypothesis others)

/-- The entries of a record are written one by one, each behind its key. -/
theorem forall₂_of_writeEntries
    {entries : Entries}
    {parts : List Text}
    (written : writeEntries style entries = .ok parts) :
    List.Forall₂ (fun entry part => ∃ value, write style entry.2 = .ok value ∧
      part = writeString style.asciiOnly entry.1 ++ style.betweenKeyAndValue ++ value)
      entries parts := by
  induction entries generalizing parts with
  | nil =>
      cases written
      exact .nil
  | cons entry entries inductionHypothesis =>
      rw [writeEntries] at written
      split at written
      · cases written
      · next value given =>
          split at written
          · cases written
          · next rest others =>
              cases written
              exact .cons ⟨value, given, rfl⟩ (inductionHypothesis others)

theorem write_natCast_eq_ok
    {n : Nat}
    {document : Text}
    (written : write style (.int n) = .ok document) :
    document = Decimal.ofNat n := by
  rw [write.eq_def] at written
  dsimp only at written
  split at written
  · next numeral given =>
      unfold Decimal.ofInt? at given
      split at given
      · cases given
        exact (Except.ok.inj written).symm
      · cases given
  · cases written

end Json

namespace Rpc

/-! ## Written requests -/

/-- The document of a request: its method, its parameters, and the digits of its identifier. -/
def Writes
    (request : Call)
    (document : Text) : Prop :=
  ∃ method params,
    Json.write Json.compact request.method = .ok method ∧
    Json.write Json.compact (.list request.params) = .ok params ∧
    document = Text.join ["\x7b\"jsonrpc\":\"2.0\",\"method\":", method, ",\"params\":", params,
      ",\"id\":", Decimal.ofNat request.id, "\x7d"]

/-- A request that can be written is written as this document. -/
theorem writes_of_write
    {request : Call}
    {document : Text}
    (written : Json.write Json.compact request.toDatum = .ok document) :
    Writes request document := by
  obtain ⟨parts, given, rfl⟩ := Json.write_record_eq_ok written
  have members := Json.forall₂_of_writeEntries given
  obtain _ | ⟨version, _ | ⟨method, _ | ⟨params, _ | ⟨id, _ | _⟩⟩⟩⟩ := members
  obtain ⟨_, version, rfl⟩ := version
  obtain ⟨method, writtenMethod, rfl⟩ := method
  obtain ⟨params, writtenParams, rfl⟩ := params
  obtain ⟨_, writtenId, rfl⟩ := id
  obtain rfl := Except.ok.inj version
  rw [Json.write_natCast_eq_ok writtenId]
  refine ⟨method, params, writtenMethod, writtenParams, ?_⟩
  simp only [Text.join, List.intercalate, List.intersperse, List.flatten_cons, List.flatten_nil,
    List.append_assoc, List.append_nil]
  rfl

/-- The text of a request is its JSON. -/
theorem write_of_bodyOf
    {payload : Datum}
    {body : Text}
    (written : bodyOf payload = .ok body) :
    Json.write Json.compact payload = .ok body := by
  unfold bodyOf at written
  split at written
  · cases written
  · next text given =>
      split at written
      · cases written
        exact given
      · cases written

/-- The body of a batch with these documents. -/
def bracketed (documents : List Text) : Text :=
  Text.join ["[", (Text.ofString ",").intercalate documents, "]"]

/-- A list of requests is written as the list of their documents. -/
theorem exists_documents
    {requests : List Call}
    {body : Text}
    (written : Json.write Json.compact (.list (requests.map Call.toDatum)) = .ok body) :
    ∃ documents, List.Forall₂ Writes requests documents ∧ body = bracketed documents := by
  obtain ⟨documents, given, rfl⟩ := Json.write_list_eq_ok written
  have written := List.forall₂_map_left_iff.mp (Json.forall₂_of_writeItems given)
  refine ⟨documents, written.imp fun _ _ => writes_of_write, ?_⟩
  unfold bracketed Text.join
  rw [List.append_assoc]
  rfl

end Rpc
end ChainClient
