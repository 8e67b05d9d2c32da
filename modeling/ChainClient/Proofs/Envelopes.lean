import ChainClient.Envelope
import ChainClient.Proofs.Transaction.SignableBytes

/-!
# Reading envelopes back

An envelope embeds signable bytes in canonical form. Reading it writes the embedded
message anew, which gives those very bytes, the transaction that they denote and the
signature over them.
-/

namespace ChainClient

open Wire (TransactionMessage EnvelopeMessage IsAddressable LeavesRoom)

namespace Transaction

theorem messageOfRaw_eq_ok_iff
    {raw : Bytes}
    {body : TransactionMessage} :
    messageOfRaw (.bytes raw) = .ok body ↔ TransactionMessage.decode? raw = some body := by
  simp only [messageOfRaw]
  split
  · next found => simp [found]
  · next missing => simp [missing]

/-- Signable bytes are read as the transaction of their message. -/
theorem deserialize_eq_ok_iff
    {raw : Bytes}
    {tx : Transaction} :
    deserialize (.bytes raw) = .ok tx ↔
      ∃ body, TransactionMessage.decode? raw = some body ∧ ofMessage body = .ok tx := by
  simp only [deserialize, mapError_eq_ok_iff, ofRaw, bind_eq_ok_iff, messageOfRaw_eq_ok_iff]

end Transaction

namespace Envelope

/-- Signable bytes are wrapped if they are the bytes of the message that they denote. -/
theorem wrapBytes_eq_ok_iff
    {raw bytes : Bytes}
    {signature : Signature} :
    wrapBytes (.bytes raw) signature = .ok bytes ↔
      ∃ body, TransactionMessage.decode? raw = some body ∧ body.encode = raw ∧
        (messageOf body signature).encode = bytes := by
  simp only [wrapBytes, bind_eq_ok_iff, Transaction.messageOfRaw_eq_ok_iff]
  refine exists_congr fun body => and_congr_right fun _ => ?_
  by_cases canonical : body.encode = raw
  · simp [canonical, pure, Except.pure]
  · simp [canonical]

theorem wrap_eq_ok_iff
    {raw : Bytes}
    {signature : Signature}
    {text : Text} :
    wrap (.bytes raw) signature = .ok text ↔
      ∃ body, TransactionMessage.decode? raw = some body ∧ body.encode = raw ∧
        Hex.encodeMarked (messageOf body signature).encode = text := by
  simp only [wrap, mapError_eq_ok_iff, map_eq_ok_iff, wrapBytes_eq_ok_iff]
  constructor
  · rintro ⟨_, ⟨body, decoded, canonical, rfl⟩, written⟩
    exact ⟨body, decoded, canonical, written⟩
  · rintro ⟨body, decoded, canonical, written⟩
    exact ⟨_, ⟨body, decoded, canonical, rfl⟩, written⟩

/-- The bytes of a signature are as many as its scheme asks for. -/
theorem signature_ofBytes_data (signature : Signature) :
    Signature.ofBytes signature.scheme signature.data = .ok signature := by
  rw [Signature.ofBytes, dif_pos signature.length_data]

theorem isAddressable_data (signature : Signature) :
    IsAddressable signature.data := by
  obtain ⟨scheme, data, length⟩ := signature
  rw [IsAddressable, length]
  cases scheme with
  | ecdsa => decide
  | ed25519 => decide

/-- A scheme is found under the tag that the message carries. -/
theorem ofTag?_toInt_ofNat_tag (scheme : Scheme) :
    Scheme.ofTag? (Int32.ofNat scheme.tag).toInt = some scheme := by
  cases scheme with
  | ecdsa => rfl
  | ed25519 => rfl

/-- The message of an envelope carries what was put into it. -/
theorem ofMessage_messageOf
    {body : TransactionMessage}
    {tx : Transaction}
    (denoted : Transaction.ofMessage body = .ok tx)
    (signature : Signature) :
    ofMessage (messageOf body signature) = .ok ⟨tx, body.encode, signature⟩ := by
  simp only [ofMessage, messageOf, ofTag?_toInt_ofNat_tag, signature_ofBytes_data, denoted]
  rfl

/-- The bytes of an envelope carry what was put into it. -/
theorem ofBytes_encode_messageOf
    {raw : Bytes}
    {body : TransactionMessage}
    {tx : Transaction}
    (room : LeavesRoom raw)
    (addressable : IsAddressable raw)
    (decoded : TransactionMessage.decode? raw = some body)
    (canonical : body.encode = raw)
    (denoted : Transaction.ofMessage body = .ok tx)
    (signature : Signature) :
    ofBytes (messageOf body signature).encode = .ok ⟨tx, raw, signature⟩ := by
  subst canonical
  have read : EnvelopeMessage.decode? (messageOf body signature).encode =
      some (messageOf body signature) :=
    EnvelopeMessage.decode?_encode _ addressable (isAddressable_data signature)
      (TransactionMessage.decodeInto?_of_leavesRoom room decoded)
  simp only [ofBytes, read]
  exact ofMessage_messageOf denoted signature

/-- An envelope is read by its bytes, in whatever form they are given. -/
theorem deserialize_eq_ok
    {given : Datum}
    {bytes : Bytes}
    {content : Envelope}
    (denoted : bytesOf given = .ok bytes)
    (read : ofBytes bytes = .ok content) :
    deserialize given = .ok content := by
  rw [deserialize, mapError_eq_ok_iff, ofDatum, denoted]
  exact read

theorem bytesOf_text
    {spelling : Text}
    {bytes : Bytes}
    (spells : Hex.Spells spelling bytes) :
    bytesOf (.text spelling) = .ok bytes := by
  rw [bytesOf, mapError_eq_ok_iff]
  exact spells.parse_trim

/-- What is wrapped is read back: the transaction that the signable bytes denote, these
bytes and the signature. This holds for the text that wrapping gives, for the bytes
behind it, and for every spelling of these bytes. -/
theorem deserialize_wrap
    {raw : Bytes}
    {signature : Signature}
    {text : Text}
    {tx : Transaction}
    (room : LeavesRoom raw)
    (addressable : IsAddressable raw)
    (wrapped : wrap (.bytes raw) signature = .ok text)
    (denoted : Transaction.deserialize (.bytes raw) = .ok tx) :
    deserialize (.text text) = .ok ⟨tx, raw, signature⟩ ∧
      ∃ bytes, text = Hex.encodeMarked bytes ∧
        deserialize (.bytes bytes) = .ok ⟨tx, raw, signature⟩ ∧
        ∀ spelling, Hex.Spells spelling bytes →
          deserialize (.text spelling) = .ok ⟨tx, raw, signature⟩ := by
  obtain ⟨body, decoded, canonical, rfl⟩ := wrap_eq_ok_iff.mp wrapped
  obtain ⟨same, found, made⟩ := Transaction.deserialize_eq_ok_iff.mp denoted
  obtain rfl : same = body := by
    rw [found, Option.some.injEq] at decoded
    exact decoded
  have read := ofBytes_encode_messageOf room addressable decoded canonical made signature
  have spelled : ∀ spelling, Hex.Spells spelling (messageOf same signature).encode →
      deserialize (.text spelling) = .ok ⟨tx, raw, signature⟩ :=
    fun _ spells => deserialize_eq_ok (bytesOf_text spells) read
  exact ⟨spelled _ (Hex.spells_encodeMarked _), _, rfl, deserialize_eq_ok rfl read, spelled⟩

/-- Signable bytes with a record behind them whose field number no field has. -/
def extendedBody : TransactionMessage :=
  { Transaction.creation.message with unknown := [0x48, 0x05] }

/-- A signature under the scheme whose tag is written. -/
def blankSignature : Signature :=
  ⟨.ed25519, List.replicate 96 0, rfl⟩

theorem deserialize_wrap_extendedBody :
    ∃ bytes, wrap (.bytes extendedBody.encode) blankSignature = .ok (Hex.encodeMarked bytes) ∧
      deserialize (.bytes bytes) =
        .ok ⟨Transaction.creation, extendedBody.encode, blankSignature⟩ := by
  have decoded : TransactionMessage.decode? extendedBody.encode = some extendedBody := by
    decide +kernel
  have denoted : Transaction.deserialize (.bytes extendedBody.encode) = .ok Transaction.creation :=
    Transaction.deserialize_eq_ok_iff.mpr
      ⟨extendedBody, decoded, Transaction.ofMessage_message Transaction.creation⟩
  have room : LeavesRoom extendedBody.encode :=
    Option.isSome_iff_exists.mp (by decide +kernel)
  have wrapped : wrap (.bytes extendedBody.encode) blankSignature =
      .ok (Hex.encodeMarked (messageOf extendedBody blankSignature).encode) :=
    wrap_eq_ok_iff.mpr ⟨extendedBody, decoded, rfl, rfl⟩
  obtain ⟨_, bytes, written, read, _⟩ :=
    deserialize_wrap room (by decide +kernel) wrapped denoted
  exact ⟨bytes, written ▸ wrapped, read⟩

end Envelope

end ChainClient
