import ChainClient.Proofs.Rpc.Identifiers

/-!
# Requests that have a text

A datum is encodable if it has a document and UTF-8 can write the document. A list or a record is,
if its parts are. So a request is encodable whose method and parameters are, unless so many
identifiers were drawn before it that its own has too many digits.
-/

namespace ChainClient

namespace Text

theorem isScalar_append
    {front behind : Text}
    (frontScalar : front.IsScalar)
    (behindScalar : behind.IsScalar) :
    IsScalar (front ++ behind) :=
  List.forall_mem_append.mpr ⟨frontScalar, behindScalar⟩

/-- What UTF-8 can write in pieces it can write with a separator between them. -/
theorem isScalar_intercalate
    {separator : Text}
    {parts : List Text}
    (between : separator.IsScalar)
    (scalar : ∀ part ∈ parts, IsScalar part) :
    IsScalar (separator.intercalate parts) := by
  induction parts with
  | nil => exact List.forall_mem_nil _
  | cons first parts inductionHypothesis =>
      obtain ⟨firstScalar, restScalar⟩ := List.forall_mem_cons.mp scalar
      cases parts with
      | nil => simpa using firstScalar
      | cons second parts =>
          rw [List.intercalate_cons_cons]
          exact isScalar_append (isScalar_append firstScalar between)
            (inductionHypothesis restScalar)

/-- The documents of parts make the document of a list or a record. -/
theorem isScalar_enclosed
    {opening closing : Text}
    {parts : List Text}
    (opens : opening.IsScalar)
    (closes : closing.IsScalar)
    (scalar : ∀ part ∈ parts, IsScalar part) :
    IsScalar (opening ++ Json.compact.betweenItems.intercalate parts ++ closing) :=
  isScalar_append (isScalar_append opens (isScalar_intercalate (by decide) scalar)) closes

end Text

/-- UTF-8 can write decimal digits, and the sign in front of them. -/
theorem Decimal.isScalar_ofInt (n : Int) :
    (Decimal.ofInt n).IsScalar := by
  have digits : ∀ fuel n, Text.IsScalar (Decimal.digitsLittle fuel n) := by
    intro fuel
    induction fuel with
    | zero => exact fun n => List.forall_mem_nil _
    | succ fuel inductionHypothesis =>
        intro n
        rw [digitsLittle]
        split
        · exact List.forall_mem_nil _
        · refine List.forall_mem_cons.mpr ⟨?_, inductionHypothesis _⟩
          rintro ⟨high, -⟩
          simp only [digit] at high
          omega
  have natural : ∀ n, Text.IsScalar (Decimal.ofNat n) := by
    intro n
    rw [ofNat]
    split
    · decide
    · exact fun c present => digits _ n c (List.mem_reverse.mp present)
  cases n with
  | ofNat n => exact natural n
  | negSucc n => exact List.forall_mem_cons.mpr ⟨by decide, natural (n + 1)⟩

/-! ## Data with a text -/

namespace Datum

/-- The datum has a document, and UTF-8 can write it. -/
def IsEncodable (d : Datum) : Prop :=
  ∃ document, Json.write Json.compact d = .ok document ∧ document.IsScalar

theorem isEncodable_int
    {n : Int}
    (writable : Decimal.IsWritable n) :
    (int n).IsEncodable := by
  refine ⟨Decimal.ofInt n, ?_, Decimal.isScalar_ofInt n⟩
  rw [Json.write.eq_def]
  dsimp only
  rw [Decimal.ofInt?, if_pos writable]

theorem isEncodable_list
    {items : List Datum}
    (encodable : ∀ item ∈ items, item.IsEncodable) :
    (list items).IsEncodable := by
  have written : ∃ parts, Json.writeItems Json.compact items = .ok parts ∧
      ∀ part ∈ parts, Text.IsScalar part := by
    induction items with
    | nil => exact ⟨[], rfl, List.forall_mem_nil _⟩
    | cons item items inductionHypothesis =>
        obtain ⟨first, rest⟩ := List.forall_mem_cons.mp encodable
        obtain ⟨part, partWritten, partScalar⟩ := first
        obtain ⟨parts, partsWritten, partsScalar⟩ := inductionHypothesis rest
        refine ⟨part :: parts, ?_, List.forall_mem_cons.mpr ⟨partScalar, partsScalar⟩⟩
        rw [Json.writeItems, partWritten, partsWritten]
  obtain ⟨parts, partsWritten, scalar⟩ := written
  refine ⟨[0x5B] ++ Json.compact.betweenItems.intercalate parts ++ [0x5D], ?_, ?_⟩
  · rw [Json.write.eq_def]
    dsimp only
    rw [partsWritten]
  · exact Text.isScalar_enclosed (by decide) (by decide) scalar

theorem isEncodable_record
    {entries : Entries}
    (keys : ∀ entry ∈ entries, (Json.writeString false entry.1).IsScalar)
    (values : ∀ entry ∈ entries, entry.2.IsEncodable) :
    (record entries).IsEncodable := by
  have written : ∃ parts, Json.writeEntries Json.compact entries = .ok parts ∧
      ∀ part ∈ parts, Text.IsScalar part := by
    induction entries with
    | nil => exact ⟨[], rfl, List.forall_mem_nil _⟩
    | cons entry entries inductionHypothesis =>
        obtain ⟨firstKey, restKeys⟩ := List.forall_mem_cons.mp keys
        obtain ⟨⟨part, partWritten, partScalar⟩, restValues⟩ := List.forall_mem_cons.mp values
        obtain ⟨parts, partsWritten, partsScalar⟩ := inductionHypothesis restKeys restValues
        let first := Json.writeString false entry.1 ++ Json.compact.betweenKeyAndValue ++ part
        refine ⟨first :: parts, ?_, List.forall_mem_cons.mpr ⟨?_, partsScalar⟩⟩
        · rw [Json.writeEntries, partWritten, partsWritten]
          rfl
        · exact Text.isScalar_append (Text.isScalar_append firstKey (by decide)) partScalar
  obtain ⟨parts, partsWritten, scalar⟩ := written
  refine ⟨[0x7B] ++ Json.compact.betweenItems.intercalate parts ++ [0x7D], ?_, ?_⟩
  · rw [Json.write.eq_def]
    dsimp only
    rw [partsWritten]
  · exact Text.isScalar_enclosed (by decide) (by decide) scalar

end Datum

namespace Rpc

/-! ## Encodable requests -/

/-- These are the data whose text a client can send. -/
theorem isEncodable_iff
    {payload : Datum} :
    payload.IsEncodable ↔ ∃ body, bodyOf payload = .ok body := by
  constructor
  · rintro ⟨document, written, scalar⟩
    exact ⟨document, by rw [bodyOf, written]; exact if_pos scalar⟩
  · rintro ⟨body, sent⟩
    have written := write_of_bodyOf sent
    refine ⟨body, written, ?_⟩
    rw [bodyOf, written] at sent
    dsimp only at sent
    split at sent
    · next scalar => exact scalar
    · cases sent

/-- The method and the parameters of a call are encodable. -/
def IsEncodable (call : Datum × Datum) : Prop :=
  call.1.IsEncodable ∧ call.2.IsEncodable

/-- The parameters that an encodable call is sent with are encodable. -/
theorem isEncodable_of_positional
    {params : Datum}
    {items : List Datum}
    (encodable : params.IsEncodable)
    (given : positional params = .ok items) :
    (Datum.list items).IsEncodable := by
  unfold positional at given
  split at given
  · cases given
    exact Datum.isEncodable_list (List.forall_mem_nil _)
  · cases given
    exact encodable
  · cases given

/-- The request of an encodable call is encodable. -/
theorem Asks.isEncodable
    {call : Datum × Datum}
    {request : Call}
    (asks : Asks call request)
    (encodable : IsEncodable call)
    (writable : Decimal.IsWritable request.id) :
    request.toDatum.IsEncodable := by
  refine Datum.isEncodable_record ?_ ?_
  · simp only [List.forall_mem_cons]
    exact ⟨by decide, by decide, by decide, by decide, List.forall_mem_nil _⟩
  · simp only [List.forall_mem_cons]
    refine ⟨⟨_, rfl, by decide⟩, ?_, ?_, Datum.isEncodable_int writable, List.forall_mem_nil _⟩
    · rw [asks.method]
      exact encodable.1
    · exact isEncodable_of_positional encodable.2 asks.params

/-- The list of the requests of encodable calls is encodable. -/
theorem isEncodable_of_forall₂
    {calls : List (Datum × Datum)}
    {made : List Call}
    (asks : List.Forall₂ Asks calls made)
    (encodable : ∀ call ∈ calls, IsEncodable call)
    (writable : ∀ request ∈ made, Decimal.IsWritable request.id) :
    (Datum.list (made.map Call.toDatum)).IsEncodable := by
  apply Datum.isEncodable_list
  rw [List.forall_mem_map]
  induction asks with
  | nil => exact List.forall_mem_nil _
  | cons first _ inductionHypothesis =>
      obtain ⟨firstEncodable, restEncodable⟩ := List.forall_mem_cons.mp encodable
      obtain ⟨firstWritable, restWritable⟩ := List.forall_mem_cons.mp writable
      exact List.forall_mem_cons.mpr
        ⟨first.isEncodable firstEncodable firstWritable,
          inductionHypothesis restEncodable restWritable⟩

end Rpc
end ChainClient
