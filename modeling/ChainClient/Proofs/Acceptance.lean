import ChainClient.Proofs.Envelopes
import ChainClient.Proofs.Wire.Grammar

/-!
# What decoders accept

Signable bytes and envelopes are accepted exactly if they follow the grammar of the wire
and the rules of their fields. Everything else is refused in one way, as malformed.
-/

namespace ChainClient

namespace Wire

/-- The bytes are made of words for records, and these records, taken one after the other,
make the message. -/
def Schema.Reads
    {M : Type}
    (schema : Schema M)
    (bytes : Bytes)
    (m : M) : Prop :=
  ∃ records : List Record, bytes = records.flatMap Record.raw ∧
    (∀ record ∈ records, IsRecord Schema.depthLimit record) ∧
    records.foldlM (schema.takeRecord? Schema.depthLimit) schema.empty = some m

theorem Schema.decode?_eq_some_iff
    {M : Type}
    {schema : Schema M}
    {bytes : Bytes}
    {m : M} :
    schema.decode? bytes = some m ↔ schema.Reads bytes m := by
  simp only [decode?, decodeInto?_eq_some_iff, readRecords?_eq_some_iff_isRecord, Reads,
    and_assoc]

end Wire

open Wire (TransactionMessage EnvelopeMessage)

/-! ## Faults -/

/-- There is a message for the fault. -/
def EnvelopeFault.IsTold (fault : EnvelopeFault) : Prop :=
  fault.message?.isSome = true

/-- The failure is a malformed envelope. -/
def Failure.IsMalformed (failure : Failure) : Prop :=
  ∃ reason, failure = .malformedEnvelope reason

/-- A fault with a message is reported as a malformed envelope. -/
theorem EnvelopeFault.IsTold.isMalformed_toFailure
    {fault : EnvelopeFault}
    (told : fault.IsTold) :
    fault.toFailure.IsMalformed := by
  obtain ⟨reason, message⟩ := Option.isSome_iff_exists.mp told
  refine ⟨reason, ?_⟩
  rw [toFailure, message]
  rfl

namespace Transaction

/-! ## Signable bytes -/

/-- The rules of a transaction's fields: the nonce has one to 64 hexadecimal digits, and
the amount at most 32 bytes. -/
structure ObeysRules (m : TransactionMessage) : Prop where
  nonce_ne_nil : m.nonce ≠ []
  length_nonce_le : m.nonce.length ≤ 64
  isSome_digit? : ∀ c ∈ m.nonce, (Hex.digit? c).isSome = true
  length_value_le : m.value.length ≤ 32

theorem exists_nonceOfDigits_eq_ok_iff {digits : Text} :
    (∃ nonce, nonceOfDigits digits = .ok nonce) ↔
      digits ≠ [] ∧ digits.length ≤ 64 ∧ ∀ c ∈ digits, (Hex.digit? c).isSome = true := by
  rw [← Hex.exists_toNat?_eq_some_iff, nonceOfDigits]
  by_cases wrongCount : digits = [] ∨ maxNonceDigits < digits.length
  · rw [if_pos wrongCount]
    constructor
    · rintro ⟨nonce, equal⟩
      cases equal
    · rintro ⟨nonempty, short, -⟩
      rcases wrongCount with empty | long
      · exact absurd empty nonempty
      · exact absurd short (Nat.not_le_of_lt long)
  · rw [if_neg wrongCount]
    have rightCount : digits ≠ [] ∧ digits.length ≤ 64 :=
      ⟨fun empty => wrongCount (.inl empty), Nat.le_of_not_lt fun long => wrongCount (.inr long)⟩
    cases Hex.toNat? digits with
    | none => simp
    | some n => simpa using rightCount

theorem exists_amountOfBytes_eq_ok_iff {bytes : Bytes} :
    (∃ amount, Amount.ofBytes bytes = .ok amount) ↔ bytes.length ≤ 32 := by
  rw [Amount.ofBytes, Amount.maxBytes]
  split
  · next short => simpa using short
  · next long => simpa using long

/-- A message is a transaction exactly if its fields obey the rules. -/
theorem exists_ofMessage_eq_ok_iff {m : TransactionMessage} :
    (∃ tx, ofMessage m = .ok tx) ↔ ObeysRules m := by
  simp only [ofMessage, bind_eq_ok_iff, mapError_eq_ok_iff]
  constructor
  · rintro ⟨_, nonce, nonceRead, amount, amountRead, -⟩
    obtain ⟨nonempty, short, digits⟩ := exists_nonceOfDigits_eq_ok_iff.mp ⟨nonce, nonceRead⟩
    exact ⟨nonempty, short, digits, exists_amountOfBytes_eq_ok_iff.mp ⟨amount, amountRead⟩⟩
  · rintro ⟨nonempty, short, digits, narrow⟩
    obtain ⟨nonce, nonceRead⟩ := exists_nonceOfDigits_eq_ok_iff.mpr ⟨nonempty, short, digits⟩
    obtain ⟨amount, amountRead⟩ := exists_amountOfBytes_eq_ok_iff.mpr narrow
    exact ⟨_, nonce, nonceRead, amount, amountRead, rfl⟩

theorem failsOnlyWith_nonceOfDigits (digits : Text) :
    FailsOnlyWith EnvelopeFault.IsTold (nonceOfDigits digits) := by
  unfold nonceOfDigits
  split
  · exact .error rfl
  · split
    · exact .ok _
    · exact .error rfl

theorem failsOnlyWith_amountOfBytes (bytes : Bytes) :
    FailsOnlyWith (fun fault => (EnvelopeFault.amount fault).IsTold) (Amount.ofBytes bytes) := by
  unfold Amount.ofBytes
  split
  · exact .ok _
  · exact .error rfl

theorem failsOnlyWith_ofMessage (m : TransactionMessage) :
    FailsOnlyWith EnvelopeFault.IsTold (ofMessage m) := by
  unfold ofMessage
  refine (failsOnlyWith_nonceOfDigits m.nonce).bind fun nonce => ?_
  refine ((failsOnlyWith_amountOfBytes m.value).mapError fun _ => id).bind fun amount => ?_
  exact .ok _

theorem failsOnlyWith_messageOfRaw (given : Datum) :
    FailsOnlyWith EnvelopeFault.IsTold (messageOfRaw given) := by
  unfold messageOfRaw
  split
  · split
    · exact .ok _
    · exact .error rfl
  · exact .error rfl

/-- Signable bytes are read exactly if they are bytes that denote a message whose fields
obey the rules. -/
theorem exists_deserialize_eq_ok_iff {given : Datum} :
    (∃ tx, deserialize given = .ok tx) ↔
      ∃ raw m, given = .bytes raw ∧ TransactionMessage.schema.Reads raw m ∧ ObeysRules m := by
  simp only [deserialize, mapError_eq_ok_iff, ofRaw, bind_eq_ok_iff]
  constructor
  · rintro ⟨tx, m, denoted, made⟩
    unfold messageOfRaw at denoted
    split at denoted
    · next raw =>
        split at denoted
        · next found =>
            cases denoted
            exact ⟨raw, m, rfl, Wire.Schema.decode?_eq_some_iff.mp found,
              exists_ofMessage_eq_ok_iff.mp ⟨tx, made⟩⟩
        · cases denoted
    · cases denoted
  · rintro ⟨raw, m, rfl, reads, obeys⟩
    obtain ⟨tx, made⟩ := exists_ofMessage_eq_ok_iff.mpr obeys
    exact ⟨tx, m, messageOfRaw_eq_ok_iff.mpr (Wire.Schema.decode?_eq_some_iff.mpr reads), made⟩

/-- What is not read as signable bytes is malformed. -/
theorem failsOnlyWith_deserialize (given : Datum) :
    FailsOnlyWith Failure.IsMalformed (deserialize given) := by
  have raw : FailsOnlyWith EnvelopeFault.IsTold (ofRaw given) :=
    (failsOnlyWith_messageOfRaw given).bind failsOnlyWith_ofMessage
  exact raw.mapError fun _ told => told.isMalformed_toFailure

end Transaction

namespace Envelope

/-! ## Envelopes -/

/-- The bytes of an envelope as they are given: as such, or as text that, but for blanks
around it, is an even number of hexadecimal digits, perhaps behind a mark. -/
inductive IsGiven : Datum → Bytes → Prop
  | bytes (bytes : Bytes) : IsGiven (.bytes bytes) bytes
  | text
      {t mark digits : Text}
      {bytes : Bytes} :
      t.trim = mark ++ digits →
      mark ∈ Hex.marks →
      digits.length % 2 = 0 →
      (∀ c ∈ digits, (Hex.digit? c).isSome = true) →
      digits.toLower = Hex.encode bytes →
      IsGiven (.text t) bytes

theorem bytesOf_eq_ok_iff
    {given : Datum}
    {bytes : Bytes} :
    bytesOf given = .ok bytes ↔ IsGiven given bytes := by
  constructor
  · intro denoted
    unfold bytesOf at denoted
    split at denoted
    · rw [mapError_eq_ok_iff, Hex.parse_eq_ok_iff] at denoted
      obtain ⟨mark, digits, known, trimmed, spelled⟩ := denoted
      obtain ⟨paired, hexadecimal⟩ := Hex.exists_toLower_eq_encode_iff.mp ⟨bytes, spelled⟩
      exact .text trimmed known paired hexadecimal spelled
    · cases denoted
      exact .bytes bytes
    · cases denoted
  · intro isGiven
    cases isGiven with
    | bytes => rfl
    | text trimmed known _ _ spelled =>
        rw [bytesOf, mapError_eq_ok_iff, Hex.parse_eq_ok_iff]
        exact ⟨_, _, known, trimmed, spelled⟩

/-- The rules of an envelope's fields: there is a transaction, which obeys its own rules,
and the tag of a scheme with a signature of the length that the scheme asks for. -/
structure ObeysRules (m : EnvelopeMessage) : Prop where
  transaction : ∃ body, m.transaction = some body ∧ Transaction.ObeysRules body
  signature :
    m.crypto = 0 ∧ m.signature.length = 65 ∨ m.crypto = 1 ∧ m.signature.length = 96

theorem ofTag?_toInt_eq_some_iff
    {tag : Int32}
    {scheme : Scheme} :
    Scheme.ofTag? tag.toInt = some scheme ↔
      tag = 0 ∧ scheme = .ecdsa ∨ tag = 1 ∧ scheme = .ed25519 := by
  have zero : tag.toInt = 0 ↔ tag = 0 := by
    rw [← Int32.toInt_inj]
    rfl
  have one : tag.toInt = 1 ↔ tag = 1 := by
    rw [← Int32.toInt_inj]
    rfl
  simp only [Scheme.ofTag?, zero, one]
  split
  · next isZero => simp [isZero, eq_comm]
  · next notZero =>
      split
      · next isOne => simp [isOne, eq_comm]
      · next notOne => simp [notZero, notOne]

theorem exists_signatureOfBytes_eq_ok_iff
    {scheme : Scheme}
    {data : Bytes} :
    (∃ signature, Signature.ofBytes scheme data = .ok signature) ↔
      data.length = scheme.signatureLength := by
  rw [Signature.ofBytes]
  split
  · next sized => simpa using sized
  · next other => simpa using other

/-- A message with a transaction is an envelope if it has a scheme and a signature of it. -/
theorem ofMessage_eq_ok_iff
    {m : EnvelopeMessage}
    {content : Envelope} :
    ofMessage m = .ok content ↔
      ∃ body scheme signature tx, m.transaction = some body ∧
        Scheme.ofTag? m.crypto.toInt = some scheme ∧
        Signature.ofBytes scheme m.signature = .ok signature ∧
        Transaction.ofMessage body = .ok tx ∧ content = ⟨tx, body.encode, signature⟩ := by
  rw [ofMessage]
  cases m.transaction with
  | none => simp
  | some body =>
      cases Scheme.ofTag? m.crypto.toInt with
      | none => simp
      | some scheme =>
          constructor
          · intro read
            obtain ⟨signature, signed, read⟩ := bind_eq_ok_iff.mp read
            obtain ⟨tx, made, read⟩ := bind_eq_ok_iff.mp read
            cases read
            exact ⟨body, scheme, signature, tx, rfl, rfl, mapError_eq_ok_iff.mp signed, made, rfl⟩
          · rintro ⟨_, _, signature, tx, ⟨⟩, ⟨⟩, signed, made, rfl⟩
            exact bind_eq_ok_iff.mpr ⟨signature, mapError_eq_ok_iff.mpr signed,
              bind_eq_ok_iff.mpr ⟨tx, made, rfl⟩⟩

/-- A message is an envelope exactly if its fields obey the rules. -/
theorem exists_ofMessage_eq_ok_iff {m : EnvelopeMessage} :
    (∃ content, ofMessage m = .ok content) ↔ ObeysRules m := by
  simp only [ofMessage_eq_ok_iff]
  constructor
  · rintro ⟨_, body, scheme, signature, tx, present, tagged, signed, made, -⟩
    have sized := exists_signatureOfBytes_eq_ok_iff.mp ⟨signature, signed⟩
    refine ⟨⟨body, present, Transaction.exists_ofMessage_eq_ok_iff.mp ⟨tx, made⟩⟩, ?_⟩
    rcases ofTag?_toInt_eq_some_iff.mp tagged with ⟨tag, rfl⟩ | ⟨tag, rfl⟩
    · exact .inl ⟨tag, sized⟩
    · exact .inr ⟨tag, sized⟩
  · rintro ⟨⟨body, present, obeys⟩, sized⟩
    obtain ⟨tx, made⟩ := Transaction.exists_ofMessage_eq_ok_iff.mpr obeys
    obtain ⟨scheme, tagged, length⟩ : ∃ scheme, Scheme.ofTag? m.crypto.toInt = some scheme ∧
        m.signature.length = scheme.signatureLength := by
      rcases sized with ⟨tag, length⟩ | ⟨tag, length⟩
      · exact ⟨.ecdsa, ofTag?_toInt_eq_some_iff.mpr (.inl ⟨tag, rfl⟩), length⟩
      · exact ⟨.ed25519, ofTag?_toInt_eq_some_iff.mpr (.inr ⟨tag, rfl⟩), length⟩
    obtain ⟨signature, signed⟩ := exists_signatureOfBytes_eq_ok_iff.mpr length
    exact ⟨_, body, scheme, signature, tx, present, tagged, signed, made, rfl⟩

theorem failsOnlyWith_signatureOfBytes
    (scheme : Scheme)
    (data : Bytes) :
    FailsOnlyWith (fun fault => (EnvelopeFault.signature fault).IsTold)
      (Signature.ofBytes scheme data) := by
  unfold Signature.ofBytes
  split
  · exact .ok _
  · exact .error rfl

theorem failsOnlyWith_ofMessage (m : EnvelopeMessage) :
    FailsOnlyWith EnvelopeFault.IsTold (ofMessage m) := by
  unfold ofMessage
  split
  · exact .error rfl
  · split
    · exact .error rfl
    · refine ((failsOnlyWith_signatureOfBytes _ m.signature).mapError fun _ => id).bind
        fun signature => ?_
      refine (Transaction.failsOnlyWith_ofMessage _).bind fun tx => ?_
      exact .ok _

theorem ofBytes_eq_ok_iff
    {bytes : Bytes}
    {content : Envelope} :
    ofBytes bytes = .ok content ↔
      ∃ m, EnvelopeMessage.schema.Reads bytes m ∧ ofMessage m = .ok content := by
  constructor
  · intro read
    unfold ofBytes at read
    split at read
    · next m found => exact ⟨m, Wire.Schema.decode?_eq_some_iff.mp found, read⟩
    · cases read
  · rintro ⟨m, reads, made⟩
    have found : EnvelopeMessage.decode? bytes = some m :=
      Wire.Schema.decode?_eq_some_iff.mpr reads
    rw [ofBytes, found]
    exact made

theorem failsOnlyWith_bytesOf (given : Datum) :
    FailsOnlyWith EnvelopeFault.IsTold (bytesOf given) := by
  unfold bytesOf
  split
  · intro fault fails
    obtain ⟨inner, -, rfl⟩ := mapError_eq_error_iff.mp fails
    rfl
  · exact .ok _
  · exact .error rfl

theorem failsOnlyWith_ofBytes (bytes : Bytes) :
    FailsOnlyWith EnvelopeFault.IsTold (ofBytes bytes) := by
  unfold ofBytes
  split
  · exact failsOnlyWith_ofMessage _
  · exact .error rfl

/-- An envelope is read exactly if its bytes denote a message whose fields obey the
rules. -/
theorem exists_deserialize_eq_ok_iff {given : Datum} :
    (∃ content, deserialize given = .ok content) ↔
      ∃ bytes m, IsGiven given bytes ∧ EnvelopeMessage.schema.Reads bytes m ∧ ObeysRules m := by
  simp only [deserialize, mapError_eq_ok_iff, ofDatum, bind_eq_ok_iff, bytesOf_eq_ok_iff,
    ofBytes_eq_ok_iff]
  constructor
  · rintro ⟨content, bytes, isGiven, m, reads, made⟩
    exact ⟨bytes, m, isGiven, reads, exists_ofMessage_eq_ok_iff.mp ⟨content, made⟩⟩
  · rintro ⟨bytes, m, isGiven, reads, obeys⟩
    obtain ⟨content, made⟩ := exists_ofMessage_eq_ok_iff.mpr obeys
    exact ⟨content, bytes, isGiven, m, reads, made⟩

/-- What is not read as an envelope is malformed. -/
theorem failsOnlyWith_deserialize (given : Datum) :
    FailsOnlyWith Failure.IsMalformed (deserialize given) := by
  have content : FailsOnlyWith EnvelopeFault.IsTold (ofDatum given) :=
    (failsOnlyWith_bytesOf given).bind failsOnlyWith_ofBytes
  exact content.mapError fun _ told => told.isMalformed_toFailure

/-! ## Hashes -/

/-- The digest of an envelope is that of its bytes under the scheme that it names. -/
theorem digest_eq (given : Datum) :
    digest given = do
      let content ← ofDatum given
      let bytes ← bytesOf given
      return content.signature.scheme.digest bytes := by
  rw [digest, ofDatum]
  cases bytesOf given with
  | error fault => rfl
  | ok bytes =>
      change (ofBytes bytes >>= fun content => pure (content.signature.scheme.digest bytes)) =
        (ofBytes bytes >>= fun content => pure (content.signature.scheme.digest bytes))
      rfl

theorem transactionHash_eq_ok_iff
    {given : Datum}
    {hash : Text} :
    transactionHash given = .ok hash ↔
      ∃ content bytes, deserialize given = .ok content ∧ IsGiven given bytes ∧
        hash = Hex.encodeMarked (content.signature.scheme.digest bytes) := by
  simp only [transactionHash, deserialize, digest_eq, mapError_eq_ok_iff, map_eq_ok_iff,
    bind_eq_ok_iff, bytesOf_eq_ok_iff]
  constructor
  · rintro ⟨_, ⟨content, read, bytes, isGiven, equal⟩, rfl⟩
    cases equal
    exact ⟨content, bytes, read, isGiven, rfl⟩
  · rintro ⟨content, bytes, read, isGiven, rfl⟩
    exact ⟨_, ⟨content, read, bytes, isGiven, rfl⟩, rfl⟩

/-- What is read was given as bytes. -/
theorem exists_bytesOf_eq_ok
    {given : Datum}
    {content : Envelope}
    (read : ofDatum given = .ok content) :
    ∃ bytes, bytesOf given = .ok bytes := by
  obtain ⟨bytes, denoted, -⟩ := bind_eq_ok_iff.mp read
  exact ⟨bytes, denoted⟩

/-- There is no hash exactly where the envelope is not read, and for the same reason. -/
theorem transactionHash_eq_error_iff
    {given : Datum}
    {failure : Failure} :
    transactionHash given = .error failure ↔ deserialize given = .error failure := by
  simp only [transactionHash, deserialize, digest_eq, mapError_eq_error_iff, map_eq_error_iff,
    bind_eq_error_iff]
  constructor
  · rintro ⟨fault, refused | ⟨content, read, refused | ⟨bytes, _, equal⟩⟩, rfl⟩
    · exact ⟨fault, refused, rfl⟩
    · obtain ⟨bytes, denoted⟩ := exists_bytesOf_eq_ok read
      cases denoted.symm.trans refused
    · cases equal
  · rintro ⟨fault, refused, rfl⟩
    exact ⟨fault, .inl refused, rfl⟩

/-- A spelling has the hash of the bytes that it spells. -/
theorem transactionHash_text
    {t : Text}
    {bytes : Bytes}
    (isGiven : IsGiven (.text t) bytes) :
    transactionHash (.text t) = transactionHash (.bytes bytes) := by
  have same : bytesOf (.text t) = bytesOf (.bytes bytes) :=
    bytesOf_eq_ok_iff.mpr isGiven
  rw [transactionHash, digest, same]
  rfl

/-- Whatever is given: an envelope, signable bytes and a hash are read exactly from what
follows the grammar and the rules, and everything else is a malformed envelope. There is
a hash where there is an envelope, and it is the same for all spellings of the bytes. -/
theorem decoders_accept (given : Datum) :
    ((∃ content, deserialize given = .ok content) ↔
        ∃ bytes m, IsGiven given bytes ∧ EnvelopeMessage.schema.Reads bytes m ∧ ObeysRules m) ∧
      (∀ failure, deserialize given = .error failure →
        ∃ reason, failure = .malformedEnvelope reason) ∧
      ((∃ tx, Transaction.deserialize given = .ok tx) ↔
        ∃ raw m, given = .bytes raw ∧ TransactionMessage.schema.Reads raw m ∧
          Transaction.ObeysRules m) ∧
      (∀ failure, Transaction.deserialize given = .error failure →
        ∃ reason, failure = .malformedEnvelope reason) ∧
      (∀ failure, transactionHash given = .error failure ↔ deserialize given = .error failure) ∧
      (∀ hash, transactionHash given = .ok hash ↔
        ∃ content bytes, deserialize given = .ok content ∧ IsGiven given bytes ∧
          hash = Hex.encodeMarked (content.signature.scheme.digest bytes)) ∧
      ∀ bytes, IsGiven given bytes → transactionHash given = transactionHash (.bytes bytes) := by
  refine ⟨exists_deserialize_eq_ok_iff, failsOnlyWith_deserialize given,
    Transaction.exists_deserialize_eq_ok_iff, Transaction.failsOnlyWith_deserialize given,
    fun _ => transactionHash_eq_error_iff, fun _ => transactionHash_eq_ok_iff, ?_⟩
  intro bytes isGiven
  cases isGiven with
  | bytes => rfl
  | text trimmed known paired hexadecimal spelled =>
      exact transactionHash_text (.text trimmed known paired hexadecimal spelled)

end Envelope

end ChainClient
