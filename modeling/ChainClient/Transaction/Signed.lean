import ChainClient.Envelope
import ChainClient.Signing.Signer

/-!
# Signing drafts

Signing writes the signable bytes of a draft, freezes it, signs the bytes and wraps them. A draft
that has no signable bytes stays as it is.
-/

namespace ChainClient

/-- A draft's bytes with their signature, and the envelope that carries both. -/
structure SignedTransaction where
  raw : Bytes
  signature : Signature
  envelope : Text

namespace Draft

/-- Signs a draft; the second part is the draft afterwards. -/
def signWith (draft : Draft) (signer : Signer) : Outcome SignedTransaction × Draft :=
  match draft.serialize with
  | .error failure => (.error failure, draft)
  | .ok raw =>
    let signature := signer.sign raw
    match Envelope.wrap (.bytes raw) signature with
    | .error failure => (.error failure, draft.freeze)
    | .ok envelope => (.ok ⟨raw, signature, envelope⟩, draft.freeze)

/-- Signs a draft with key material under a scheme, for the envelope alone. -/
def sign (draft : Draft) (key scheme : Datum) : Outcome Text × Draft :=
  match Signer.make scheme key with
  | .error failure => (.error failure, draft)
  | .ok signer =>
    let (outcome, draft) := draft.signWith signer
    (SignedTransaction.envelope <$> outcome, draft)

end Draft

end ChainClient
