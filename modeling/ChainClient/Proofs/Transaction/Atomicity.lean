import ChainClient.Proofs.Transaction.Drafts
import ChainClient.Proofs.Transaction.Signing

/-!
# Signing is all or nothing

Signing a draft with key material either gives an envelope and leaves the draft frozen, or fails
and leaves the draft as it was. All that can fail does so before the draft is frozen: the key
material is read first, then the slots are written, and what was written can always be wrapped.
-/

namespace ChainClient

open Wire (IsAddressable)

/-! ## Key material -/

/-- There is a message for the fault. -/
def Signing.Fault.IsTold (fault : Fault) : Prop :=
  fault.message?.isSome = true

/-- A fault with a message is reported as a failure to sign. -/
theorem Signing.Fault.IsTold.exists_toFailure_eq_signing
    {fault : Fault}
    (told : fault.IsTold) :
    ∃ reason, fault.toFailure = .signing reason := by
  obtain ⟨reason, message⟩ := Option.isSome_iff_exists.mp told
  refine ⟨reason, ?_⟩
  rw [toFailure, message]
  rfl

/-- A scheme is found under its tag. -/
theorem Scheme.ofDatum?_tag (scheme : Scheme) :
    ofDatum? (.int scheme.tag) = some scheme := by
  cases scheme with
  | ecdsa => rfl
  | ed25519 => rfl

namespace Signer

open Signing

theorem failsOnlyWith_materialBytes
    (material : Material)
    (key : Datum) :
    FailsOnlyWith Fault.IsTold (materialBytes material key) := by
  have sized : ∀ bytes : Bytes, FailsOnlyWith Fault.IsTold
      (if bytes.length ∈ material.lengths then (pure bytes : Except Fault Bytes)
        else throw (.keyLength material bytes.length)) := by
    intro bytes
    split
    · exact .ok _
    · exact .error rfl
  unfold materialBytes
  dsimp only
  split
  · split
    · exact sized _
    · exact .error rfl
  · exact sized _
  · exact .error rfl

theorem failsOnlyWith_ofKey
    (scheme : Scheme)
    (key : Datum) :
    FailsOnlyWith Fault.IsTold (ofKey scheme key) := by
  cases scheme with
  | ecdsa =>
      refine (failsOnlyWith_materialBytes .ecdsaKey key).bind fun bytes => ?_
      split
      · exact .ok _
      · exact .error rfl
  | ed25519 =>
      refine (failsOnlyWith_materialBytes .ed25519Key key).bind fun bytes => ?_
      dsimp only
      split
      · exact .error rfl
      · exact .ok _

/-- Whatever is given as key material of a scheme, it is a signer's or fails to be one. -/
theorem failsOnlyWith_make
    (scheme : Scheme)
    (key : Datum) :
    FailsOnlyWith (fun failure => ∃ reason, failure = .signing reason)
      (make (.int scheme.tag) key) := by
  rw [make, Scheme.ofDatum?_tag]
  exact (failsOnlyWith_ofKey scheme key).mapError fun _ told => told.exists_toFailure_eq_signing

end Signer

/-! ## Drafts -/

namespace Draft

/-- Whatever slots are written as can be wrapped. -/
theorem exists_wrap_eq_ok
    {draft : Draft}
    {raw : Bytes}
    (written : draft.serialize = .ok raw)
    (addressable : IsAddressable raw)
    (signature : Signature) :
    ∃ envelope, Envelope.wrap (.bytes raw) signature = .ok envelope := by
  obtain ⟨m, made, rfl⟩ := serialize_eq_ok_iff.mp written
  exact ⟨_, wrap_encode_eq_ok made addressable signature⟩

/-- Key material that is no signer's leaves the draft as it was. -/
theorem sign_of_make_eq_error
    {draft : Draft}
    {key scheme : Datum}
    {failure : Failure}
    (unusable : Signer.make scheme key = .error failure) :
    draft.sign key scheme = (.error failure, draft) := by
  rw [sign, unusable]

/-- Slots without bytes leave the draft as it was. -/
theorem sign_of_serialize_eq_error
    {draft : Draft}
    {key scheme : Datum}
    {signer : Signer}
    {failure : Failure}
    (usable : Signer.make scheme key = .ok signer)
    (unfit : draft.serialize = .error failure) :
    draft.sign key scheme = (.error failure, draft) := by
  rw [sign, usable]
  simp only [signWith, unfit]
  rfl

/-- Nothing fails once the slots are written. -/
theorem sign_of_serialize_eq_ok
    {draft : Draft}
    {key scheme : Datum}
    {signer : Signer}
    {raw : Bytes}
    (usable : Signer.make scheme key = .ok signer)
    (written : draft.serialize = .ok raw)
    (addressable : IsAddressable raw) :
    ∃ envelope, Envelope.wrap (.bytes raw) (signer.sign raw) = .ok envelope ∧
      draft.sign key scheme = (.ok envelope, draft.freeze) := by
  obtain ⟨envelope, wrapped⟩ := exists_wrap_eq_ok written addressable (signer.sign raw)
  refine ⟨envelope, wrapped, ?_⟩
  rw [sign, usable]
  simp only [signWith_eq_ok written wrapped]
  rfl

/-- What signing under a scheme makes of a draft: an envelope, with the draft frozen and its slots
as they were, or a failure, with the draft as it was. -/
inductive SignsOrStays
    (draft : Draft)
    (key : Datum)
    (scheme : Scheme) : Outcome Text × Draft → Prop
  | signed
      {signer : Signer}
      {raw : Bytes}
      {envelope : Text}
      {after : Draft} :
      Signer.make (.int scheme.tag) key = .ok signer →
      draft.serialize = .ok raw →
      Envelope.wrap (.bytes raw) (signer.sign raw) = .ok envelope →
      after.IsFrozen →
      after.slots = draft.slots →
      SignsOrStays draft key scheme (.ok envelope, after)
  | unusableKey
      {reason : Text} :
      Signer.make (.int scheme.tag) key = .error (.signing reason) →
      SignsOrStays draft key scheme (.error (.signing reason), draft)
  | unfitSlots
      {signer : Signer}
      {failure : Failure} :
      Signer.make (.int scheme.tag) key = .ok signer →
      draft.serialize = .error failure →
      failure.RefusesSlots →
      SignsOrStays draft key scheme (.error failure, draft)

/-- Whatever the slots hold and whatever is given as key material, signing under a scheme gives an
envelope and leaves the draft frozen with its slots unchanged, or fails as a failure to sign, a
malformed envelope or a malformed amount and leaves the draft as it was. Nothing fails in between,
because what the slots are written as can be wrapped under any signature. -/
theorem sign_all_or_nothing
    {draft : Draft}
    (addressable : ∀ raw, draft.serialize = .ok raw → IsAddressable raw)
    (key : Datum)
    (scheme : Scheme) :
    draft.SignsOrStays key scheme (draft.sign key (.int scheme.tag)) ∧
    ∀ raw, draft.serialize = .ok raw →
      ∀ signature, ∃ envelope, Envelope.wrap (.bytes raw) signature = .ok envelope := by
  refine ⟨?_, fun raw written => exists_wrap_eq_ok written (addressable raw written)⟩
  cases made : Signer.make (.int scheme.tag) key with
  | error failure =>
      obtain ⟨reason, rfl⟩ := Signer.failsOnlyWith_make scheme key failure made
      rw [sign_of_make_eq_error made]
      exact .unusableKey made
  | ok signer =>
      cases written : draft.serialize with
      | error failure =>
          rw [sign_of_serialize_eq_error made written]
          exact .unfitSlots made written (failsOnlyWith_serialize draft failure written)
      | ok raw =>
          obtain ⟨envelope, wrapped, signed⟩ :=
            sign_of_serialize_eq_ok made written (addressable raw written)
          rw [signed]
          exact .signed made written wrapped draft.isFrozen_freeze rfl

/-- A draft whose slots hold values of other kinds than a transaction's fields, and which is frozen
already, if by no truth value. -/
def loose : Draft where
  slots :=
    { recipient := .null
      nonce := .bool true
      quota := .null
      validUntilBlock := .int 5
      version := .int (-1)
      chainId := .null
      value := .text "0fF"
      data := .text "0XaB" }
  frozenMark := .text "yes"

theorem sign_all_or_nothing_loose :
    ∃ envelope after,
      loose.sign (.bytes (List.replicate 32 0)) (.int Scheme.ed25519.tag) = (.ok envelope, after) ∧
        after.IsFrozen ∧ after.slots = loose.slots := by
  have written : loose.serialize = .ok
      { nonce := "1", validUntilBlock := 5, data := [0xAB], value := [0xFF], version := -1 :
        Wire.TransactionMessage }.encode := rfl
  have usable : Signer.make (.int Scheme.ed25519.tag) (.bytes (List.replicate 32 0)) =
      .ok Transaction.zeroSeed := rfl
  have addressable : ∀ raw, loose.serialize = .ok raw → IsAddressable raw := by
    intro raw same
    rw [written] at same
    cases same
    decide +kernel
  generalize result : loose.sign (.bytes (List.replicate 32 0)) (.int Scheme.ed25519.tag) = outcome
  have signs := (sign_all_or_nothing addressable (.bytes (List.replicate 32 0)) .ed25519).1
  rw [result] at signs
  cases signs with
  | signed _ _ _ frozen same => exact ⟨_, _, rfl, frozen, same⟩
  | unusableKey fails =>
      rw [usable] at fails
      cases fails
  | unfitSlots _ fails =>
      rw [written] at fails
      cases fails

end Draft

end ChainClient
