import ChainClient.Proofs.Signing.Verification
import ChainClient.Proofs.Transaction.Atomicity

/-!
# Key material

Key material is the bytes of a secret, or a hexadecimal spelling of them; for Ed25519 the public key
may stand behind the secret. A signer is made exactly of the material of its scheme, and everything
else is a failure to sign. What a signer does depends on the secret alone, not on how it was given.
-/

namespace ChainClient

open Curve
open Envelope (IsGiven)

/-- A text is given as the bytes that are read from it, but for the blanks around it. -/
theorem Hex.parse_trim_eq_ok_iff
    {t : Text}
    {bytes : Bytes} :
    Hex.parse t.trim = .ok bytes ↔ IsGiven (.text t) bytes := by
  rw [← Envelope.bytesOf_eq_ok_iff]
  exact mapError_eq_ok_iff.symm

/-- A number that is not zero and below the order is a private key. -/
theorem Curve.Secp256k1.PrivateKey.ofBytes?_eq_some_iff
    {bytes : Bytes}
    {key : PrivateKey} :
    ofBytes? bytes = some key ↔ key.scalar = bytes.toNat := by
  unfold ofBytes?
  split
  · obtain ⟨scalar, pos, small⟩ := key
    simp [eq_comm]
  · next outside =>
      constructor
      · intro read
        cases read
      · intro same
        exact absurd ⟨same ▸ key.pos, same ▸ key.lt_order⟩ outside

namespace Signer

open Signing

/-- The key material of a secret under a scheme. For secp256k1 it is the secret itself, a number of
32 bytes from one up to below the order of the group. For Ed25519 it is the secret itself, any 32
bytes, or the secret with its public key behind it. -/
inductive IsMaterial : Scheme → Bytes → Bytes → Prop
  | scalar
      {secret : Bytes} :
      secret.length = 32 →
      0 < secret.toNat →
      secret.toNat < Secp256k1.order →
      IsMaterial .ecdsa secret secret
  | seed
      {secret : Bytes} :
      secret.length = 32 →
      IsMaterial .ed25519 secret secret
  | pair
      {secret : Bytes} :
      secret.length = 32 →
      IsMaterial .ed25519 (secret ++ Ed25519.publicKey secret) secret

/-- The secret by which a signer signs. -/
def HasSecret
    (signer : Signer)
    (secret : Bytes) : Prop :=
  match signer with
  | ecdsa key => key.scalar = secret.toNat
  | ed25519 seed => seed = secret

section

variable
    {scheme : Scheme}
    {key : Datum}
    {bytes secret : Bytes}
    {signer : Signer}

/-- The scheme and the secret determine a signer. -/
theorem HasSecret.unique
    {other : Signer}
    (has : signer.HasSecret secret)
    (otherHas : other.HasSecret secret)
    (sameScheme : signer.scheme = other.scheme) :
    signer = other := by
  cases signer with
  | ecdsa key =>
      cases other with
      | ecdsa otherKey =>
          obtain ⟨scalar, pos, small⟩ := key
          obtain ⟨otherScalar, otherPos, otherSmall⟩ := otherKey
          obtain rfl : scalar = otherScalar := has.trans otherHas.symm
          rfl
      | ed25519 seed => cases sameScheme
  | ed25519 seed =>
      cases other with
      | ecdsa otherKey => cases sameScheme
      | ed25519 otherSeed => exact congrArg ed25519 (has.trans otherHas.symm)

/-- Material has a secret that a signer of its scheme holds. -/
theorem IsMaterial.exists_hasSecret
    (material : IsMaterial scheme bytes secret) :
    ∃ signer : Signer, signer.scheme = scheme ∧ signer.HasSecret secret := by
  cases material with
  | scalar _ pos small => exact ⟨.ecdsa ⟨_, pos, small⟩, rfl, rfl⟩
  | seed | pair => exact ⟨.ed25519 _, rfl, rfl⟩

/-- The bytes of material are those that were given, if their length is one of the material. -/
theorem materialBytes_eq_ok_iff
    {material : Material} :
    materialBytes material key = .ok bytes ↔
      IsGiven key bytes ∧ bytes.length ∈ material.lengths := by
  cases key with
  | text t =>
      rw [← Hex.parse_trim_eq_ok_iff]
      unfold materialBytes
      cases parsed : Hex.parse t.trim with
      | ok given =>
          simp only [parsed, Except.ok.injEq]
          refine ite_pure_throw_eq_ok_iff.trans (and_congr_right ?_)
          rintro rfl
          rfl
      | error fault =>
          simp only [parsed]
          exact iff_of_false nofun nofun
  | bytes given =>
      have denoted : IsGiven (.bytes given) bytes ↔ given = bytes := by
        constructor
        · intro is
          cases is
          rfl
        · rintro rfl
          exact .bytes given
      rw [denoted]
      refine ite_pure_throw_eq_ok_iff.trans (and_congr_right ?_)
      rintro rfl
      rfl
  | null | bool | int | float | list | record =>
      constructor
      · intro thrown
        cases thrown
      · rintro ⟨given, -⟩
        cases given

/-- A secp256k1 signer is made of 32 bytes that are the secret. -/
theorem ofEcdsaKey_eq_ok_iff :
    ofEcdsaKey key = .ok signer ↔
      ∃ bytes secret, IsGiven key bytes ∧ IsMaterial .ecdsa bytes secret ∧
        signer.scheme = .ecdsa ∧ signer.HasSecret secret := by
  unfold ofEcdsaKey
  rw [bind_eq_ok_iff]
  constructor
  · rintro ⟨bytes, read, made⟩
    obtain ⟨given, fits⟩ := materialBytes_eq_ok_iff.mp read
    split at made
    · next key denoted =>
        cases made
        have scalar := Secp256k1.PrivateKey.ofBytes?_eq_some_iff.mp denoted
        exact ⟨bytes, bytes, given,
          .scalar (List.mem_singleton.mp fits) (scalar ▸ key.pos) (scalar ▸ key.lt_order),
          rfl, scalar⟩
    · cases made
  · rintro ⟨bytes, secret, given, material, scheme, has⟩
    cases material with
    | scalar long pos small =>
        refine ⟨bytes, materialBytes_eq_ok_iff.mpr ⟨given, List.mem_singleton.mpr long⟩, ?_⟩
        cases signer with
        | ecdsa key =>
            rw [Secp256k1.PrivateKey.ofBytes?_eq_some_iff.mpr has]
            rfl
        | ed25519 seed => cases scheme

/-- Material for Ed25519 begins with the secret, and only its public key may stand behind it. -/
theorem isMaterial_ed25519_iff :
    IsMaterial .ed25519 bytes secret ↔
      bytes.length ∈ Material.ed25519Key.lengths ∧ secret = bytes.take 32 ∧
        ¬ (32 < bytes.length ∧ bytes.drop 32 ≠ Ed25519.publicKey (bytes.take 32)) := by
  constructor
  · intro material
    cases material with
    | seed long => simp [Material.lengths, long]
    | pair long =>
        have front : (secret ++ Ed25519.publicKey secret).take 32 = secret := by
          rw [← long, List.take_left]
        have behind : (secret ++ Ed25519.publicKey secret).drop 32 = Ed25519.publicKey secret := by
          rw [← long, List.drop_left]
        refine ⟨?_, front.symm, fun differs => differs.2 (by rw [front, behind])⟩
        simp [Material.lengths, long, length_publicKey_ed25519]
  · rintro ⟨fits, rfl, sound⟩
    have lengths : bytes.length = 32 ∨ bytes.length = 64 := by
      simpa [Material.lengths] using fits
    rcases lengths with short | long
    · rw [List.take_of_length_le (by omega)]
      exact .seed short
    · have behind : bytes.drop 32 = Ed25519.publicKey (bytes.take 32) := by
        by_contra apart
        exact sound ⟨by omega, apart⟩
      have split := List.take_append_drop 32 bytes
      rw [behind] at split
      have paired : IsMaterial .ed25519 (bytes.take 32 ++ Ed25519.publicKey (bytes.take 32))
          (bytes.take 32) := .pair (by simp [long])
      rwa [split] at paired

/-- An Ed25519 signer is made of a seed of 32 bytes, and only of its own public key behind it. -/
theorem ofEd25519Key_eq_ok_iff :
    ofEd25519Key key = .ok signer ↔
      ∃ bytes secret, IsGiven key bytes ∧ IsMaterial .ed25519 bytes secret ∧
        signer.scheme = .ed25519 ∧ signer.HasSecret secret := by
  unfold ofEd25519Key
  rw [bind_eq_ok_iff]
  simp only [isMaterial_ed25519_iff, materialBytes_eq_ok_iff]
  constructor
  · rintro ⟨bytes, ⟨given, fits⟩, made⟩
    split at made
    · cases made
    · next sound =>
        cases made
        exact ⟨bytes, bytes.take 32, given, ⟨fits, rfl, sound⟩, rfl, rfl⟩
  · rintro ⟨bytes, secret, given, ⟨fits, rfl, sound⟩, scheme, has⟩
    refine ⟨bytes, ⟨given, fits⟩, ?_⟩
    rw [if_neg sound]
    cases signer with
    | ecdsa key => cases scheme
    | ed25519 seed => exact congrArg (fun seed => Except.ok (ed25519 seed)) has.symm

/-- A signer is made of the material of its secret. -/
theorem make_eq_ok_iff :
    make (.int scheme.tag) key = .ok signer ↔
      ∃ bytes secret, IsGiven key bytes ∧ IsMaterial scheme bytes secret ∧
        signer.scheme = scheme ∧ signer.HasSecret secret := by
  rw [make, Scheme.ofDatum?_tag]
  dsimp only
  rw [mapError_eq_ok_iff]
  cases scheme with
  | ecdsa => exact ofEcdsaKey_eq_ok_iff
  | ed25519 => exact ofEd25519Key_eq_ok_iff

/-- Every spelling of the material makes a signer of the secret. -/
theorem exists_make_eq_ok
    (given : IsGiven key bytes)
    (material : IsMaterial scheme bytes secret) :
    ∃ signer, make (.int scheme.tag) key = .ok signer ∧ signer.scheme = scheme ∧
      signer.HasSecret secret := by
  obtain ⟨signer, isOf, has⟩ := material.exists_hasSecret
  exact ⟨signer, make_eq_ok_iff.mpr ⟨bytes, secret, given, material, isOf, has⟩, isOf, has⟩

end

/-- Whatever is given as a key of a scheme, a signer of that scheme is made of it, or it is a
failure to sign. A signer is made exactly of what is given as the material of a secret, and it holds
that secret. Two keys that are material of one secret make signers with the same public key, the
same address, and the same signature of every message. -/
theorem make_outcome
    (scheme : Scheme)
    (key : Datum) :
    (∀ signer, make (.int scheme.tag) key = .ok signer ↔
      ∃ bytes secret, IsGiven key bytes ∧ IsMaterial scheme bytes secret ∧
        signer.scheme = scheme ∧ signer.HasSecret secret) ∧
    ((∃ signer, make (.int scheme.tag) key = .ok signer) ↔
      ∃ bytes secret, IsGiven key bytes ∧ IsMaterial scheme bytes secret) ∧
    (∀ failure, make (.int scheme.tag) key = .error failure →
      ∃ reason, failure = .signing reason) ∧
    ∀ other bytes otherBytes secret,
      IsGiven key bytes → IsMaterial scheme bytes secret →
      IsGiven other otherBytes → IsMaterial scheme otherBytes secret →
      ∃ signer otherSigner, make (.int scheme.tag) key = .ok signer ∧
        make (.int scheme.tag) other = .ok otherSigner ∧
        signer.publicKey = otherSigner.publicKey ∧ signer.address = otherSigner.address ∧
        ∀ message, signer.signGiven message = otherSigner.signGiven message := by
  refine ⟨fun _ => make_eq_ok_iff, ⟨?_, ?_⟩, failsOnlyWith_make scheme key, ?_⟩
  · rintro ⟨signer, made⟩
    obtain ⟨bytes, secret, given, material, -⟩ := make_eq_ok_iff.mp made
    exact ⟨bytes, secret, given, material⟩
  · rintro ⟨bytes, secret, given, material⟩
    obtain ⟨signer, made, -⟩ := exists_make_eq_ok given material
    exact ⟨signer, made⟩
  · intro other bytes otherBytes secret given material otherGiven otherMaterial
    obtain ⟨signer, made, isOf, has⟩ := exists_make_eq_ok given material
    obtain ⟨otherSigner, otherMade, otherIsOf, otherHas⟩ :=
      exists_make_eq_ok otherGiven otherMaterial
    obtain rfl := has.unique otherHas (isOf.trans otherIsOf.symm)
    exact ⟨signer, signer, made, otherMade, rfl, rfl, fun _ => rfl⟩

end Signer

end ChainClient
