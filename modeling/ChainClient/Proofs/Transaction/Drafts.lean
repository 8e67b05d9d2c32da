import ChainClient.Proofs.Acceptance
import ChainClient.Proofs.Encoding.Spellings

/-!
# Signable bytes of a draft

The slots of a draft hold whatever a program put into them. Where they make a message, its bytes
are read as that very message; where they make none, they are refused as a malformed envelope or a
malformed amount.
-/

namespace ChainClient

open Wire (TransactionMessage IsAddressable)

/-- The failure of slots that have no bytes: a malformed envelope, or a malformed amount. -/
def Failure.RefusesSlots (failure : Failure) : Prop :=
  failure.IsMalformed ∨ ∃ reason, failure = .malformedValue reason

/-- UTF-8 can write the digits of an integer, and the sign in front of them. -/
theorem Hex.isScalar_ofInt (n : Int) :
    (Hex.ofInt n).IsScalar := by
  cases n with
  | ofNat n => exact Transaction.isScalar_ofNat n
  | negSucc n =>
      intro c present
      rcases List.mem_cons.mp present with rfl | digit
      · decide
      · exact Transaction.isScalar_ofNat _ c digit

/-! ## Messages of drafts -/

namespace Draft

theorem orUnfit_eq_ok_iff
    {α : Type}
    {result : Except Misuse α}
    {a : α} :
    orUnfit result = .ok a ↔ result = .ok a := by
  cases result with
  | ok found => simp [orUnfit]
  | error misuse => simp [orUnfit]

/-- The message of a draft is made of its slots, each converted by itself. -/
theorem toMessage_eq_ok_iff
    {draft : Draft}
    {m : TransactionMessage} :
    draft.toMessage = .ok m ↔
      draft.nonceHex = .ok m.nonce ∧
      draft.slots.data.bytesOfHex = .ok m.data ∧
      wireAmount draft.slots.value = .ok m.value ∧
      textOfSlot draft.slots.recipient = .ok m.recipient ∧
      uint64OfSlot draft.slots.quota = .ok m.quota ∧
      uint64OfSlot draft.slots.validUntilBlock = .ok m.validUntilBlock ∧
      int32OfSlot draft.slots.chainId = .ok m.chainId ∧
      int32OfSlot draft.slots.version = .ok m.version ∧
      m.unknown = [] := by
  simp only [toMessage, bind_eq_ok_iff, orUnfit_eq_ok_iff, pure, Except.pure, Except.ok.injEq]
  constructor
  · rintro ⟨nonce, nonceRead, data, dataRead, value, valueRead, recipient, recipientRead,
      quota, quotaRead, block, blockRead, chainId, chainIdRead, version, versionRead, rfl⟩
    exact ⟨nonceRead, dataRead, valueRead, recipientRead, quotaRead, blockRead, chainIdRead,
      versionRead, rfl⟩
  · rintro ⟨nonceRead, dataRead, valueRead, recipientRead, quotaRead, blockRead, chainIdRead,
      versionRead, known⟩
    refine ⟨_, nonceRead, _, dataRead, _, valueRead, _, recipientRead, _, quotaRead, _, blockRead,
      _, chainIdRead, _, versionRead, ?_⟩
    rw [← known]

theorem isScalar_of_textOfSlot
    {value : Datum}
    {t : Text}
    (read : textOfSlot value = .ok t) :
    t.IsScalar := by
  unfold textOfSlot at read
  split at read
  · cases read
    exact List.forall_mem_nil _
  · split at read
    · next scalar =>
        cases read
        exact scalar
    · cases read
  · split at read
    · next decoded =>
        cases read
        exact (Utf8.decode?_eq_some_iff.mp decoded).1
    · cases read
  · cases read

theorem isScalar_of_hexOfNonce
    {value : Datum}
    {digits : Text}
    (read : hexOfNonce value = .ok digits) :
    digits.IsScalar := by
  unfold hexOfNonce at read
  split at read
  · cases read
    exact Hex.isScalar_ofInt _
  · cases read
    exact Transaction.isScalar_ofNat _
  · cases read
  · cases read
  · cases read

/-- UTF-8 can write the texts of a draft's message. -/
theorem isScalar_of_toMessage
    {draft : Draft}
    {m : TransactionMessage}
    (made : draft.toMessage = .ok m) :
    m.IsScalar := by
  obtain ⟨nonce, -, -, recipient, -⟩ := toMessage_eq_ok_iff.mp made
  exact ⟨isScalar_of_textOfSlot recipient, isScalar_of_hexOfNonce nonce⟩

/-- A draft has the bytes of its message. -/
theorem serialize_eq_ok_iff
    {draft : Draft}
    {raw : Bytes} :
    draft.serialize = .ok raw ↔ ∃ m, draft.toMessage = .ok m ∧ m.encode = raw := by
  rw [serialize, map_eq_ok_iff]

/-- The signable bytes of a draft are read as its message, whatever its slots hold. -/
theorem decode?_of_toMessage
    {draft : Draft}
    {m : TransactionMessage}
    (made : draft.toMessage = .ok m)
    (addressable : IsAddressable m.encode) :
    TransactionMessage.decode? m.encode = some m := by
  obtain ⟨-, -, -, -, -, -, -, -, known⟩ := toMessage_eq_ok_iff.mp made
  exact TransactionMessage.decodeInto?_encode (isScalar_of_toMessage made) known addressable _

/-- Whatever a draft writes can be wrapped, under any signature. -/
theorem wrap_encode_eq_ok
    {draft : Draft}
    {m : TransactionMessage}
    (made : draft.toMessage = .ok m)
    (addressable : IsAddressable m.encode)
    (signature : Signature) :
    Envelope.wrap (.bytes m.encode) signature =
      .ok (Hex.encodeMarked (Envelope.messageOf m signature).encode) :=
  Envelope.wrap_eq_ok_iff.mpr ⟨m, decode?_of_toMessage made addressable, rfl, rfl⟩

/-! ### Refusals -/

theorem refusesSlots_unfit :
    unfit.RefusesSlots :=
  .inl ⟨_, rfl⟩

theorem failsOnlyWith_orUnfit
    {α : Type}
    (result : Except Misuse α) :
    FailsOnlyWith Failure.RefusesSlots (orUnfit result) := by
  cases result with
  | ok a => exact .ok a
  | error misuse => exact .error refusesSlots_unfit

/-- An amount is refused as a malformed value, as long as the fault has a message. -/
theorem failsOnlyWith_wireAmount (value : Datum) :
    FailsOnlyWith Failure.RefusesSlots (wireAmount value) := by
  intro failure fails
  unfold wireAmount at fails
  split at fails
  · cases fails
    exact refusesSlots_unfit
  · next noMisuse =>
      cases value with
      | text digits =>
          rw [Amount.wireOfCanonical, map_eq_error_iff, Amount.parse,
            mapError_eq_error_iff] at fails
          obtain ⟨fault, faulty, rfl⟩ := fails
          cases message : fault.message? with
          | some reason =>
              refine .inr ⟨reason, ?_⟩
              rw [Amount.Fault.toFailure, message]
              rfl
          | none =>
              -- Such a fault would be a misuse, which the first case has taken already.
              refine absurd ?_ (noMisuse (.badValue none))
              rw [Amount.wireOfCanonical, map_eq_error_iff, Amount.parse, mapError_eq_error_iff]
              refine ⟨fault, faulty, ?_⟩
              rw [Amount.Fault.toFailure, message]
              rfl
      | null | bool | int | float | bytes | list | record =>
          exact absurd rfl (noMisuse (.wrongKind none))

theorem failsOnlyWith_textOfSlot (value : Datum) :
    FailsOnlyWith Failure.RefusesSlots (textOfSlot value) := by
  unfold textOfSlot
  split
  · exact .ok _
  · split
    · exact .ok _
    · exact .error refusesSlots_unfit
  · split
    · exact .ok _
    · exact .error refusesSlots_unfit
  · exact .error refusesSlots_unfit

theorem failsOnlyWith_intOfSlot
    (low high : Int)
    (value : Datum) :
    FailsOnlyWith Failure.RefusesSlots (intOfSlot low high value) := by
  unfold intOfSlot
  split
  · exact .ok _
  · split
    · exact .ok _
    · exact .error refusesSlots_unfit
  · exact .error refusesSlots_unfit

/-- Slots that make no message are a malformed envelope or a malformed value, and nothing else. -/
theorem failsOnlyWith_toMessage (draft : Draft) :
    FailsOnlyWith Failure.RefusesSlots draft.toMessage := by
  unfold toMessage
  refine (failsOnlyWith_orUnfit _).bind fun nonce => ?_
  refine (failsOnlyWith_orUnfit _).bind fun data => ?_
  refine (failsOnlyWith_wireAmount _).bind fun value => ?_
  refine (failsOnlyWith_textOfSlot _).bind fun recipient => ?_
  refine (failsOnlyWith_intOfSlot _ _ _).map.bind fun quota => ?_
  refine (failsOnlyWith_intOfSlot _ _ _).map.bind fun block => ?_
  refine (failsOnlyWith_intOfSlot _ _ _).map.bind fun chainId => ?_
  refine (failsOnlyWith_intOfSlot _ _ _).map.bind fun version => ?_
  exact .ok _

theorem failsOnlyWith_serialize (draft : Draft) :
    FailsOnlyWith Failure.RefusesSlots draft.serialize :=
  (failsOnlyWith_toMessage draft).map

end Draft

end ChainClient
