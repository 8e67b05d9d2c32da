import ChainClient.Proofs.Curve.Points
import ChainClient.Proofs.Results
import ChainClient.Proofs.Transaction.Signing

/-!
# Checks against a signer's own key

A check looks at the scheme of the signature, whoever the signer is. A secp256k1 signer can read
its own key, so its checks always end with a truth value. An Ed25519 key is too short for the
check of a secp256k1 signature, which then fails; every other check of an Ed25519 signer ends with
a truth value too. A signature is valid only for the scheme and the key of the signer.
-/

namespace ChainClient

open Curve

namespace Signing

variable {message key : Bytes} {signature : Signature}

/-! ## Secp256k1 signatures -/

/-- The key that a signature reveals is found only if the signature is a secp256k1 one. -/
theorem scheme_of_recoverPublicKey
    {found : Bytes}
    (recovered : recoverPublicKey message signature = .ok found) :
    signature.scheme = .ecdsa := by
  by_contra other
  rw [recoverPublicKey, if_pos other] at recovered
  cases recovered

theorem eq_unrecoverable_of_recoverPublicKey
    {fault : Fault}
    (isEcdsa : signature.scheme = .ecdsa)
    (failed : recoverPublicKey message signature = .error fault) :
    fault = .unrecoverable := by
  rw [recoverPublicKey, if_neg (not_not_intro isEcdsa)] at failed
  dsimp only at failed
  split at failed
  · cases failed
  · cases failed
    rfl

/-- Under a key that can be read, a check has no other outcome than a truth value. -/
theorem verifyEcdsa_of_parse
    {own : Secp256k1.PublicKey}
    (parsed : Secp256k1.PublicKey.parse? key = some own) :
    ∃ valid, verifyEcdsa message signature key = .ok valid ∧
      (valid = true ↔ recoverPublicKey message signature = .ok own.uncompressed) := by
  rw [verifyEcdsa, parsed]
  cases recoverPublicKey message signature with
  | ok found => exact ⟨_, rfl, by simp⟩
  | error fault => exact ⟨false, rfl, by simp⟩

/-- Keys have a mark in front of one coordinate or of two. -/
theorem parse?_eq_none
    (compressed : key.length ≠ 33)
    (full : key.length ≠ 65) :
    Secp256k1.PublicKey.parse? key = none := by
  cases key with
  | nil => rfl
  | cons head body =>
      rw [List.length_cons] at compressed full
      have notCompressed : body.length ≠ 32 := by omega
      have notFull : body.length ≠ 64 := by omega
      rw [Secp256k1.PublicKey.parse?, if_neg (fun fits => notCompressed fits.1),
        if_neg (fun fits => notFull fits.1)]

/-! ## Ed25519 signatures -/

theorem embeddedKey?_of_ed25519
    (isEd25519 : signature.scheme = .ed25519) :
    signature.embeddedKey? = some (signature.data.drop 64) := by
  rw [Signature.embeddedKey?, isEd25519]

/-- An Ed25519 signature is valid under an expected key if that is the key behind it, and valid
by the curve. -/
theorem verifyEd25519_some_iff :
    verifyEd25519 message signature (some key) = true ↔
      signature.data.drop 64 = key ∧
        Ed25519.verify key (Scheme.ed25519.digest message) signature.core = true := by
  by_cases embedded : signature.data.drop 64 = key
  · simp [verifyEd25519, embedded]
  · simp [verifyEd25519, embedded, Ne.symm embedded]

/-! ## Given bytes -/

/-- The key that a signature reveals of given bytes. -/
theorem recoverGiven_bytes
    (isEcdsa : signature.scheme = .ecdsa) :
    recoverGiven (.bytes message) signature =
      (recoverPublicKey message signature).mapError Fault.toFailure := by
  rw [recoverGiven, if_neg (not_not_intro isEcdsa)]
  rfl

theorem ecdsaKey_bytes :
    ecdsaKey (.bytes key) =
      match Secp256k1.PublicKey.parse? key with
      | none => .error Fault.invalidPublicKey.toFailure
      | some own => .ok own := rfl

theorem verifyEcdsaGiven_bytes
    (isEcdsa : signature.scheme = .ecdsa) :
    verifyEcdsaGiven (.bytes message) signature (.bytes key) =
      (verifyEcdsa message signature key).mapError Fault.toFailure := by
  rw [verifyEcdsaGiven, ecdsaKey_bytes, recoverGiven_bytes isEcdsa, verifyEcdsa]
  cases Secp256k1.PublicKey.parse? key with
  | none => rfl
  | some own =>
      cases recovered : recoverPublicKey message signature with
      | ok found => rfl
      | error fault =>
          -- a fault without a message would be passed on
          rw [eq_unrecoverable_of_recoverPublicKey isEcdsa recovered]
          rfl

theorem verifyEd25519Given_bytes
    (isEd25519 : signature.scheme = .ed25519) :
    verifyEd25519Given (.bytes message) signature (.bytes key) =
      .ok (verifyEd25519 message signature (some key)) := by
  have given : verifyEd25519Given (.bytes message) signature (.bytes key) =
      if (some key).isSome ∧ some key ≠ signature.embeddedKey? then .ok false
      else .ok (verifyEd25519 message signature (some key)) := rfl
  rw [given, embeddedKey?_of_ed25519 isEd25519]
  split
  · next other => rw [verifyEd25519, if_pos other]
  · rfl

/-- Bytes that a caller gives are checked as they are. -/
theorem verifyGiven_bytes :
    verifyGiven (.bytes message) signature (.bytes key) =
      (verify message signature (some key)).mapError Fault.toFailure := by
  cases scheme : signature.scheme with
  | ecdsa =>
      simp only [verifyGiven, verify, scheme]
      exact verifyEcdsaGiven_bytes scheme
  | ed25519 =>
      simp only [verifyGiven, verify, scheme]
      exact verifyEd25519Given_bytes scheme

end Signing

namespace Signer

open Signing

variable {signer : Signer} {message : Bytes} {signature : Signature}

/-! ## Signers -/

/-- What makes a signature of a message the signer's own: it is of the signer's scheme, and the key
that it reveals, or has behind it and is valid under, is the signer's. -/
structure Owns
    (signer : Signer)
    (message : Bytes)
    (signature : Signature) : Prop where
  scheme : signature.scheme = signer.scheme
  revealed :
    signer.scheme = .ecdsa → recoverPublicKey message signature = .ok signer.publicKey
  embedded :
    signer.scheme = .ed25519 → signature.embeddedKey? = some signer.publicKey
  accepted :
    signer.scheme = .ed25519 →
      Ed25519.verify signer.publicKey (Scheme.ed25519.digest message) signature.core = true

theorem owns_ecdsa_iff
    {key : Secp256k1.PrivateKey} :
    (ecdsa key).Owns message signature ↔
      recoverPublicKey message signature = .ok key.publicKey := by
  constructor
  · intro owns
    exact owns.revealed rfl
  · intro revealed
    exact ⟨scheme_of_recoverPublicKey revealed, fun _ => revealed, nofun, nofun⟩

theorem owns_ed25519_iff
    {seed : Bytes} :
    (ed25519 seed).Owns message signature ↔
      signature.embeddedKey? = some (Ed25519.publicKey seed) ∧
        Ed25519.verify (Ed25519.publicKey seed) (Scheme.ed25519.digest message)
          signature.core = true := by
  constructor
  · intro owns
    exact ⟨owns.embedded rfl, owns.accepted rfl⟩
  · rintro ⟨embedded, accepted⟩
    refine ⟨?_, nofun, fun _ => embedded, fun _ => accepted⟩
    cases isEd25519 : signature.scheme with
    | ed25519 => rfl
    | ecdsa =>
        rw [Signature.embeddedKey?, isEd25519] at embedded
        cases embedded

theorem length_publicKey_ed25519 (seed : Bytes) :
    (Ed25519.publicKey seed).length = 32 := by
  simp [Ed25519.publicKey, Ed25519.Point.encode, Bytes.ofNatLittle]

/-- The key of a secp256k1 signer, of 65 bytes, is no Ed25519 key. -/
theorem length_publicKey_ecdsa (key : Secp256k1.PrivateKey) :
    key.publicKey.length = 65 := by
  obtain ⟨own, -, written⟩ := key.exists_parse
  rw [← written]
  simp [Secp256k1.PublicKey.uncompressed, Secp256k1.bytes32]

/-- The check of a secp256k1 signer always ends with a truth value. -/
theorem verify_ecdsa
    (key : Secp256k1.PrivateKey)
    (message : Bytes)
    (signature : Signature) :
    ∃ valid, (ecdsa key).verify message signature = .ok valid ∧
      (valid = true ↔ (ecdsa key).Owns message signature) := by
  rw [owns_ecdsa_iff, verify, publicKey]
  cases scheme : signature.scheme with
  | ecdsa =>
      obtain ⟨own, parsed, written⟩ := key.exists_parse
      rw [← written] at parsed ⊢
      simp only [Signing.verify, scheme]
      exact verifyEcdsa_of_parse parsed
  | ed25519 =>
      -- the key behind the signature has 32 bytes
      have apart : signature.data.drop 64 ≠ key.publicKey := by
        intro same
        have lengths := congrArg List.length same
        rw [List.length_drop, signature.length_data, scheme, length_publicKey_ecdsa] at lengths
        exact absurd lengths (by decide)
      have invalid : verifyEd25519 message signature (some key.publicKey) ≠ true := by
        rw [Ne, verifyEd25519_some_iff]
        exact fun valid => apart valid.1
      have hidden : recoverPublicKey message signature ≠ .ok key.publicKey := by
        intro recovered
        rw [scheme_of_recoverPublicKey recovered] at scheme
        cases scheme
      simp only [Signing.verify, scheme]
      exact ⟨_, rfl, iff_of_false invalid hidden⟩

/-- The check of an Ed25519 signer ends with a truth value for an Ed25519 signature. -/
theorem verify_ed25519
    (seed message : Bytes)
    (isEd25519 : signature.scheme = .ed25519) :
    ∃ valid, (ed25519 seed).verify message signature = .ok valid ∧
      (valid = true ↔ (ed25519 seed).Owns message signature) := by
  rw [owns_ed25519_iff, embeddedKey?_of_ed25519 isEd25519, Option.some_inj,
    ← verifyEd25519_some_iff]
  simp only [verify, publicKey, Signing.verify, isEd25519]
  exact ⟨_, rfl, Iff.rfl⟩

/-- For a secp256k1 signature it fails, because the key cannot be read as a secp256k1 key. -/
theorem verify_crossed
    (seed message : Bytes)
    (isEcdsa : signature.scheme = .ecdsa) :
    (ed25519 seed).verify message signature = .error .invalidPublicKey := by
  have unread : Secp256k1.PublicKey.parse? (Ed25519.publicKey seed) = none := by
    apply parse?_eq_none
    · rw [length_publicKey_ed25519]
      decide
    · rw [length_publicKey_ed25519]
      decide
  simp only [verify, publicKey, Signing.verify, isEcdsa, verifyEcdsa, unread]

theorem verifyGiven_eq :
    signer.verifyGiven (.bytes message) signature =
      (signer.verify message signature).mapError Fault.toFailure :=
  verifyGiven_bytes

/-- A check against a signer's own key fails for a secp256k1 signature and an Ed25519 signer. All
other checks end with a truth value, and it is true exactly for the signer's own signatures: their
scheme is the signer's, and an Ed25519 signature has the signer's public key behind it. -/
theorem verifyGiven_outcome
    (signer : Signer)
    (message : Bytes)
    (signature : Signature) :
    (signer.scheme = .ed25519 ∧ signature.scheme = .ecdsa →
      signer.verifyGiven (.bytes message) signature =
        .error Fault.invalidPublicKey.toFailure) ∧
    (¬ (signer.scheme = .ed25519 ∧ signature.scheme = .ecdsa) →
      ∃ valid, signer.verifyGiven (.bytes message) signature = .ok valid) ∧
    (signer.verifyGiven (.bytes message) signature = .ok true ↔
      signer.Owns message signature) := by
  rw [verifyGiven_eq]
  simp only [mapError_eq_ok_iff]
  cases signer with
  | ecdsa key =>
      obtain ⟨valid, checked, correct⟩ := verify_ecdsa key message signature
      rw [checked, ← correct]
      refine ⟨?_, fun _ => ⟨valid, rfl⟩, by simp⟩
      rintro ⟨isEd25519, -⟩
      cases isEd25519
  | ed25519 seed =>
      cases isOf : signature.scheme with
      | ecdsa =>
          have other : ¬ (ed25519 seed).Owns message signature := by
            intro owns
            rw [owns.scheme] at isOf
            cases isOf
          rw [verify_crossed seed message isOf]
          refine ⟨fun _ => rfl, fun uncrossed => absurd ⟨rfl, rfl⟩ uncrossed, ?_⟩
          simp [other]
      | ed25519 =>
          obtain ⟨valid, checked, correct⟩ := verify_ed25519 seed message isOf
          rw [checked, ← correct]
          refine ⟨?_, fun _ => ⟨valid, rfl⟩, by simp⟩
          rintro ⟨-, isEcdsa⟩
          cases isEcdsa

/-- A secp256k1 signature of 65 zeros. -/
def zeroSignature : Signature :=
  ⟨.ecdsa, List.replicate 65 0, rfl⟩

/-- Not every check of a signer that key material made ends with a truth value: the one of a
secp256k1 signature under the Ed25519 seed of zeros fails. -/
theorem not_verifyGiven_total :
    ¬ ∀ (scheme key : Datum) (signer : Signer) (message : Bytes) (signature : Signature),
      Signer.make scheme key = .ok signer →
        ∃ valid, signer.verifyGiven (.bytes message) signature = .ok valid := by
  intro total
  have made : Signer.make (.int 1) (.bytes (List.replicate 32 0)) =
      .ok (.ed25519 (List.replicate 32 0)) := rfl
  have isEcdsa : zeroSignature.scheme = .ecdsa := rfl
  obtain ⟨valid, checked⟩ := total _ _ _ [] zeroSignature made
  rw [verifyGiven_eq, mapError_eq_ok_iff, verify_crossed _ _ isEcdsa] at checked
  cases checked

end Signer

end ChainClient
