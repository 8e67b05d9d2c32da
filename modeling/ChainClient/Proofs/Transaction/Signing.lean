import ChainClient.Proofs.Acceptance
import ChainClient.Proofs.Curve.Points
import ChainClient.Transaction.Signed

/-!
# Signed transactions

Signing freezes a draft. From then on no operation changes it, so that the envelope, the
signed bytes and the draft say the same for ever.
-/

namespace ChainClient

open Wire (IsAddressable TransactionMessage)

namespace Draft

/-! ## Operations -/

/-- What a program can do with a draft. -/
inductive Operation where
  | assign (name : Text) (value : Datum)
  | freeze
  | serialize
  | signWith (signer : Signer)
  | sign (key scheme : Datum)

/-- The draft after an operation, whether it failed or not. -/
def perform
    (draft : Draft) : Operation → Draft
  | .assign name value =>
      match draft.assign name value with
      | .ok assigned => assigned
      | .error _ => draft
  | .freeze => draft.freeze
  | .serialize => draft
  | .signWith signer => (draft.signWith signer).2
  | .sign key scheme => (draft.sign key scheme).2

/-- The draft after some operations. -/
def performAll
    (draft : Draft)
    (operations : List Operation) : Draft :=
  operations.foldl perform draft

/-- Signing leaves a draft as it is, or freezes it. -/
theorem signWith_snd
    (draft : Draft)
    (signer : Signer) :
    (draft.signWith signer).2 = draft ∨ (draft.signWith signer).2 = draft.freeze := by
  unfold signWith
  cases draft.serialize with
  | error failure => exact .inl rfl
  | ok raw =>
      cases wrapped : Envelope.wrap (.bytes raw) (signer.sign raw) with
      | error failure => simp only [wrapped, or_true]
      | ok envelope => simp only [wrapped, or_true]

theorem sign_snd
    (draft : Draft)
    (key scheme : Datum) :
    (draft.sign key scheme).2 = draft ∨ (draft.sign key scheme).2 = draft.freeze := by
  unfold sign
  split
  · exact .inl rfl
  · next signer _ => exact draft.signWith_snd signer

/-- No operation changes a draft that was frozen. -/
theorem perform_freeze
    (draft : Draft)
    (operation : Operation) :
    draft.freeze.perform operation = draft.freeze := by
  cases operation with
  | assign name value => rw [perform, assign_of_isFrozen draft.isFrozen_freeze]
  | freeze => rfl
  | serialize => rfl
  | signWith signer => rcases draft.freeze.signWith_snd signer with same | same <;> exact same
  | sign key scheme => rcases draft.freeze.sign_snd key scheme with same | same <;> exact same

/-- A draft that was frozen stays as it is. -/
theorem performAll_freeze
    (draft : Draft)
    (operations : List Operation) :
    draft.freeze.performAll operations = draft.freeze := by
  induction operations with
  | nil => rfl
  | cons operation operations inductionHypothesis =>
      rw [performAll, List.foldl_cons, perform_freeze]
      exact inductionHypothesis

/-- The signable bytes depend on the slots alone. -/
theorem serialize_congr
    {draft other : Draft}
    (same : draft.slots = other.slots) :
    draft.serialize = other.serialize := by
  obtain ⟨slots, mark⟩ := draft
  obtain ⟨otherSlots, otherMark⟩ := other
  subst same
  rfl

/-- Signing succeeds where there are bytes and these can be wrapped. -/
theorem signWith_eq_ok
    {draft : Draft}
    {signer : Signer}
    {raw : Bytes}
    {envelope : Text}
    (serialized : draft.serialize = .ok raw)
    (wrapped : Envelope.wrap (.bytes raw) (signer.sign raw) = .ok envelope) :
    draft.signWith signer = (.ok ⟨raw, signer.sign raw, envelope⟩, draft.freeze) := by
  rw [signWith, serialized]
  simp only [wrapped]

end Draft

namespace Signing

open Curve

/-! ## Checks of signatures -/

/-- A secp256k1 signature is valid if the key that it reveals is the expected one. -/
theorem verify_of_ecdsa
    {message key : Bytes}
    {signature : Signature}
    {own found : Secp256k1.PublicKey}
    (isEcdsa : signature.scheme = .ecdsa)
    (parsed : Secp256k1.PublicKey.parse? key = some own)
    (recovered : (Secp256k1.RecoverableSignature.parse? signature.data).bind
      (Secp256k1.recover? (Scheme.ecdsa.digest message)) = some found) :
    verify message signature (some key) = .ok (found.uncompressed == own.uncompressed) := by
  simp only [verify, isEcdsa, verifyEcdsa, parsed, recoverPublicKey, recovered, ne_eq,
    not_true_eq_false, if_false]

/-- An Ed25519 signature is valid if the curve says so of the key behind it. -/
theorem verify_of_ed25519
    {message key : Bytes}
    {signature : Signature}
    (isEd25519 : signature.scheme = .ed25519)
    (embedded : signature.data.drop 64 = key) :
    verify message signature (some key) =
      .ok (Ed25519.verify key (Scheme.ed25519.digest message) signature.core) := by
  simp only [verify, isEd25519, verifyEd25519, embedded, ne_eq, not_true_eq_false, and_false,
    if_false]

end Signing

namespace Signer

open Curve

/-! ## Own signatures -/

/-- What the curve of a signer keeps for one digest. A secp256k1 signature reveals the key of its
signer, and an Ed25519 signature is valid under its own key. -/
def KeepsLaws
    (signer : Signer)
    (digest : Bytes) : Prop :=
  match signer with
  | .ecdsa key =>
      ((Secp256k1.RecoverableSignature.parse? (Secp256k1.sign key digest).toBytes).bind
        (Secp256k1.recover? digest)).map Secp256k1.PublicKey.uncompressed = some key.publicKey
  | .ed25519 seed =>
      Ed25519.verify (Ed25519.publicKey seed) digest (Ed25519.sign seed digest) = true

theorem keepsLaws_ecdsa_iff
    {key : Secp256k1.PrivateKey}
    {digest : Bytes} :
    (ecdsa key).KeepsLaws digest ↔
      ∃ found, (Secp256k1.RecoverableSignature.parse? (Secp256k1.sign key digest).toBytes).bind
        (Secp256k1.recover? digest) = some found ∧ found.uncompressed = key.publicKey := by
  rw [KeepsLaws, Option.map_eq_some_iff]

@[simp] theorem scheme_sign
    (signer : Signer)
    (message : Bytes) :
    (signer.sign message).scheme = signer.scheme := rfl

theorem data_sign_ecdsa
    (key : Secp256k1.PrivateKey)
    (message : Bytes) :
    ((ecdsa key).sign message).data =
      (Secp256k1.sign key (Scheme.ecdsa.digest message)).toBytes := rfl

/-- An Ed25519 signature has the public key of its signer behind it. -/
theorem data_sign_ed25519
    (seed message : Bytes) :
    ((ed25519 seed).sign message).data =
      Ed25519.sign seed (Scheme.ed25519.digest message) ++ Ed25519.publicKey seed := rfl

theorem length_sign_ed25519 (seed digest : Bytes) :
    (Ed25519.sign seed digest).length = 64 := by
  simp [Ed25519.sign, Ed25519.Point.encode, Bytes.ofNatLittle]

theorem verify_sign_ecdsa
    {key : Secp256k1.PrivateKey}
    {message : Bytes}
    (lawful : (ecdsa key).KeepsLaws (Scheme.ecdsa.digest message)) :
    Signing.verify message ((ecdsa key).sign message) (some key.publicKey) = .ok true := by
  obtain ⟨own, parsed, same⟩ := key.exists_parse
  obtain ⟨found, recovered, equal⟩ := keepsLaws_ecdsa_iff.mp lawful
  rw [← data_sign_ecdsa] at recovered
  rw [Signing.verify_of_ecdsa (scheme_sign _ _) parsed recovered, same, equal,
    beq_self_eq_true]

theorem verify_sign_ed25519
    {seed message : Bytes}
    (lawful : (ed25519 seed).KeepsLaws (Scheme.ed25519.digest message)) :
    Signing.verify message ((ed25519 seed).sign message) (some (Ed25519.publicKey seed)) =
      .ok true := by
  have length := length_sign_ed25519 seed (Scheme.ed25519.digest message)
  have embedded : ((ed25519 seed).sign message).data.drop 64 = Ed25519.publicKey seed := by
    rw [data_sign_ed25519, ← length, List.drop_left]
  have core : ((ed25519 seed).sign message).core =
      Ed25519.sign seed (Scheme.ed25519.digest message) := by
    rw [Signature.core, data_sign_ed25519, ← length, List.take_left]
  rw [KeepsLaws] at lawful
  rw [Signing.verify_of_ed25519 (scheme_sign _ _) embedded, core, lawful]

/-- A signature is valid for its message under the key of its signer. -/
theorem verify_sign
    {signer : Signer}
    {message : Bytes}
    (lawful : signer.KeepsLaws (signer.scheme.digest message)) :
    Signing.verify message (signer.sign message) (some signer.publicKey) = .ok true := by
  cases signer with
  | ecdsa key => exact verify_sign_ecdsa lawful
  | ed25519 seed => exact verify_sign_ed25519 lawful

end Signer

namespace Transaction

/-! ## Signed transactions -/

variable {tx : Transaction}
variable {object : Draft}

/-- The signable bytes of a draft that shows a transaction. -/
theorem serialize_of_slots_eq
    (shown : object.slots = tx.toSlots)
    (scalar : tx.recipient.IsScalar) :
    object.serialize = .ok tx.message.encode := by
  have same : object.slots = tx.toDraft.slots := shown
  rw [Draft.serialize_congr same]
  exact serialize_toDraft_of_isScalar scalar

/-- The signable bytes of a transaction are wrapped with every signature, and what was
wrapped is read back. -/
theorem wrap_encode_message
    (scalar : tx.recipient.IsScalar)
    (addressable : IsAddressable tx.message.encode)
    (signature : Signature) :
    ∃ bytes, Envelope.wrap (.bytes tx.message.encode) signature = .ok (Hex.encodeMarked bytes) ∧
      Envelope.deserialize (.text (Hex.encodeMarked bytes)) =
        .ok ⟨tx, tx.message.encode, signature⟩ := by
  have decoded : TransactionMessage.decode? tx.message.encode = some tx.message :=
    TransactionMessage.decodeInto?_encode (isScalar_message scalar) rfl addressable _
  have room := TransactionMessage.leavesRoom_encode (isScalar_message scalar) rfl addressable
  have read := Envelope.ofBytes_encode_messageOf room addressable decoded rfl
    (ofMessage_message tx) signature
  refine ⟨(Envelope.messageOf tx.message signature).encode, ?_, ?_⟩
  · exact Envelope.wrap_eq_ok_iff.mpr ⟨tx.message, decoded, rfl, rfl⟩
  · exact Envelope.deserialize_eq_ok (Envelope.bytesOf_text (Hex.spells_encodeMarked _)) read

/-- The digest by which a node knows an envelope: Keccak-256 or the chain's BLAKE2b,
whatever the scheme of its signer asks for. -/
def envelopeDigest
    (signer : Signer)
    (bytes : Bytes) : Bytes :=
  match signer with
  | .ecdsa _ => Digest.keccak256 bytes
  | .ed25519 _ => chainBlake2b 32 bytes

theorem digest_scheme
    (signer : Signer)
    (bytes : Bytes) :
    signer.scheme.digest bytes = envelopeDigest signer bytes := by
  cases signer with
  | ecdsa key => rfl
  | ed25519 seed => rfl

/-- An envelope and a frozen draft say the same: the draft takes no value, the envelope
carries what the draft shows, the bytes that the draft writes and a valid signature of its
signer over them, and its hash is the digest of its own bytes. -/
structure Agrees
    (signer : Signer)
    (signed : SignedTransaction)
    (object : Draft) : Prop where
  refuses (name : Text) (value : Datum) :
    object.assign name value = .error (Draft.frozenFailure name)
  content :
    ∃ content, Envelope.deserialize (.text signed.envelope) = .ok content ∧
      content.transaction.toSlots = object.slots ∧
      content.raw = signed.raw ∧
      object.serialize = .ok content.raw ∧
      content.signature = signer.sign signed.raw ∧
      content.signature.scheme = signer.scheme ∧
      Signing.verify content.raw content.signature (some signer.publicKey) = .ok true
  hash :
    ∃ bytes, signed.envelope = Hex.encodeMarked bytes ∧
      Envelope.transactionHash (.text signed.envelope) =
        .ok (Hex.encodeMarked (envelopeDigest signer bytes))

theorem agrees_freeze
    {signer : Signer}
    {bytes : Bytes}
    (shown : object.slots = tx.toSlots)
    (scalar : tx.recipient.IsScalar)
    (lawful : signer.KeepsLaws (signer.scheme.digest tx.message.encode))
    (read : Envelope.deserialize (.text (Hex.encodeMarked bytes)) =
      .ok ⟨tx, tx.message.encode, signer.sign tx.message.encode⟩) :
    Agrees signer
      ⟨tx.message.encode, signer.sign tx.message.encode, Hex.encodeMarked bytes⟩
      object.freeze where
  refuses := Draft.assign_of_isFrozen object.isFrozen_freeze
  content :=
    ⟨_, read, shown.symm, rfl, serialize_of_slots_eq shown scalar, rfl, rfl,
      Signer.verify_sign lawful⟩
  hash := by
    refine ⟨bytes, rfl, ?_⟩
    rw [← digest_scheme]
    refine Envelope.transactionHash_eq_ok_iff.mpr ⟨_, bytes, read, ?_, rfl⟩
    exact Envelope.bytesOf_eq_ok_iff.mp (Envelope.bytesOf_text (Hex.spells_encodeMarked bytes))

/-- A draft that shows a transaction is signed by every signer. Whatever is done with it
afterwards, it stays as it is and agrees with the envelope. -/
theorem signWith_endures
    {signer : Signer}
    (shown : object.slots = tx.toSlots)
    (scalar : tx.recipient.IsScalar)
    (addressable : IsAddressable tx.message.encode)
    (lawful : signer.KeepsLaws (signer.scheme.digest tx.message.encode)) :
    ∃ signed, object.signWith signer = (.ok signed, object.freeze) ∧
      ∀ operations, object.freeze.performAll operations = object.freeze ∧
        Agrees signer signed (object.freeze.performAll operations) := by
  obtain ⟨bytes, wrapped, read⟩ :=
    wrap_encode_message scalar addressable (signer.sign tx.message.encode)
  refine ⟨_, Draft.signWith_eq_ok (serialize_of_slots_eq shown scalar) wrapped, ?_⟩
  intro operations
  rw [Draft.performAll_freeze]
  exact ⟨rfl, agrees_freeze shown scalar lawful read⟩

/-- The signer of the smallest secp256k1 key. -/
def unitKey : Signer :=
  .ecdsa ⟨1, Nat.one_pos, by decide⟩

/-- The signer of the Ed25519 seed that is all zeros. -/
def zeroSeed : Signer :=
  .ed25519 (List.replicate 32 0)

set_option maxRecDepth 100000 in
theorem keepsLaws_unitKey :
    unitKey.KeepsLaws (unitKey.scheme.digest creation.message.encode) := by
  rw [unitKey, Signer.KeepsLaws]
  decide +kernel

set_option maxRecDepth 100000 in
theorem keepsLaws_zeroSeed :
    zeroSeed.KeepsLaws (zeroSeed.scheme.digest creation.message.encode) := by
  rw [zeroSeed, Signer.KeepsLaws]
  decide +kernel

/-- Two drafts of one transaction, signed under both schemes. An assignment and the other
signature come too late. -/
theorem signWith_endures_creation :
    (∃ signed, creation.toDraft.signWith unitKey = (.ok signed, creation.toDraft.freeze) ∧
      Agrees unitKey signed
        (creation.toDraft.freeze.performAll [.assign "nonce" (.int 5), .signWith zeroSeed])) ∧
    ∃ signed, creation.toDraft.signWith zeroSeed = (.ok signed, creation.toDraft.freeze) ∧
      Agrees zeroSeed signed
        (creation.toDraft.freeze.performAll [.assign "_frozen" .null, .signWith unitKey]) := by
  have shown : creation.toDraft.slots = creation.toSlots := rfl
  have scalar : creation.recipient.IsScalar := by decide
  have addressable : IsAddressable creation.message.encode := by decide +kernel
  obtain ⟨signed, success, endures⟩ :=
    signWith_endures shown scalar addressable keepsLaws_unitKey
  obtain ⟨other, otherSuccess, otherEndures⟩ :=
    signWith_endures shown scalar addressable keepsLaws_zeroSeed
  exact ⟨⟨signed, success, (endures _).2⟩, other, otherSuccess, (otherEndures _).2⟩

end Transaction

end ChainClient
