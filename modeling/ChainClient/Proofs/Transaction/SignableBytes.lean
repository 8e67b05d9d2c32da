import ChainClient.Proofs.Encoding.Amounts
import ChainClient.Proofs.Encoding.Hexadecimal
import ChainClient.Proofs.Transaction.Building
import ChainClient.Proofs.Wire.Messages
import ChainClient.Transaction.Codec

/-!
# Signable bytes of a transaction

The bytes that a signature covers can be written for every transaction whose recipient
UTF-8 can write. They are read back as the transaction.
-/

namespace ChainClient

open Wire (TransactionMessage IsAddressable LeavesRoom)

namespace Transaction

/-- The message of a transaction. -/
def message (tx : Transaction) : TransactionMessage where
  recipient := tx.recipient
  nonce := Hex.ofNat tx.nonce.val
  quota := tx.quota
  validUntilBlock := tx.validUntilBlock
  data := tx.payload
  value := tx.amount.toBytes
  chainId := tx.chainId
  version := tx.version

/-! ## Writing -/

theorem uint64OfSlot_toNat (n : UInt64) :
    Draft.uint64OfSlot (.int n.toNat) = .ok n := by
  have below := toNat_le_maxUInt64 n
  have inRange : 0 ≤ (n.toNat : Int) ∧ (n.toNat : Int) ≤ UInt64.size - 1 :=
    ⟨Int.natCast_nonneg _, below⟩
  simp only [Draft.uint64OfSlot, Draft.intOfSlot, if_pos inRange]
  simp [Functor.map, Except.map]

theorem int32OfSlot_toInt (n : Int32) :
    Draft.int32OfSlot (.int n.toInt) = .ok n := by
  have inRange : Int32.minValue.toInt ≤ n.toInt ∧ n.toInt ≤ Int32.maxValue.toInt :=
    ⟨n.le_toInt, n.toInt_le⟩
  simp only [Draft.int32OfSlot, Draft.intOfSlot, if_pos inRange]
  simp [Functor.map, Except.map]

/-- The draft of a transaction has its message, as long as UTF-8 can write the recipient. -/
theorem toMessage_toDraft (tx : Transaction) :
    tx.toDraft.toMessage =
      if tx.recipient.IsScalar then .ok tx.message else .error Draft.unfit := by
  simp only [Draft.toMessage, toDraft, toSlots, Draft.nonceHex, Draft.hexOfNonce, Hex.ofInt,
    Draft.orUnfit, Datum.bytesOfHex, Hex.parse_encodeMarked, Draft.wireAmount,
    Amount.wireOfCanonical_canonical, Draft.textOfSlot, uint64OfSlot_toNat, int32OfSlot_toInt]
  split
  · rfl
  · rfl

/-- The signable bytes of a transaction whose recipient UTF-8 can write. -/
theorem serialize_toDraft_of_isScalar
    {tx : Transaction}
    (scalar : tx.recipient.IsScalar) :
    tx.toDraft.serialize = .ok tx.message.encode := by
  rw [Draft.serialize, toMessage_toDraft, if_pos scalar]
  rfl

/-- A recipient with a lone surrogate has no signable bytes. -/
theorem serialize_toDraft_of_not_isScalar
    {tx : Transaction}
    (surrogate : ¬ tx.recipient.IsScalar) :
    tx.toDraft.serialize = .error Draft.unfit := by
  rw [Draft.serialize, toMessage_toDraft, if_neg surrogate]
  rfl

/-! ## Reading -/

/-- The digits of a nonce denote it. -/
theorem nonceOfDigits_ofNat (nonce : Nonce) :
    nonceOfDigits (Hex.ofNat nonce.val) = .ok nonce := by
  have below : nonce.val < 16 ^ maxNonceDigits :=
    Nat.lt_of_lt_of_le nonce.isLt (by decide)
  have short : (Hex.ofNat nonce.val).length ≤ maxNonceDigits :=
    Hex.length_ofNat_le below (by decide)
  have sized : ¬ (Hex.ofNat nonce.val = [] ∨ maxNonceDigits < (Hex.ofNat nonce.val).length) := by
    rintro (empty | long)
    · exact Hex.ofNat_ne_nil _ empty
    · omega
  rw [nonceOfDigits, if_neg sized, Hex.toNat?_ofNat]
  simp only [Bytes.truncate_val]

/-- The message of a transaction denotes it. -/
@[simp] theorem ofMessage_message (tx : Transaction) :
    ofMessage tx.message = .ok tx := by
  simp only [ofMessage, message, nonceOfDigits_ofNat, Amount.ofBytes_toBytes]
  rfl

/-- UTF-8 can write hexadecimal digits. -/
theorem isScalar_ofNat (n : Nat) :
    (Hex.ofNat n).IsScalar := by
  intro c present
  have small : ∀ value, ¬ (Hex.digit value).IsSurrogate := by decide
  obtain ⟨value, rfl⟩ := Hex.mem_ofNat present
  exact small value

theorem isScalar_message
    {tx : Transaction}
    (scalar : tx.recipient.IsScalar) :
    tx.message.IsScalar :=
  ⟨scalar, isScalar_ofNat _⟩

/-- Signable bytes are read back as the transaction. -/
theorem deserialize_encode_message
    {tx : Transaction}
    (scalar : tx.recipient.IsScalar)
    (addressable : IsAddressable tx.message.encode) :
    deserialize (.bytes tx.message.encode) = .ok tx := by
  have read : TransactionMessage.decode? tx.message.encode = some tx.message :=
    TransactionMessage.decodeInto?_encode (isScalar_message scalar) rfl addressable _
  simp only [deserialize, ofRaw, messageOfRaw, read]
  exact mapError_eq_ok_iff.mpr (ofMessage_message tx)

/-! ## Built transactions -/

/-- A built transaction has the fields that its arguments denote. It has signable bytes
exactly if its recipient holds no lone surrogate. They are read back as the transaction,
and what was read has the same bytes. -/
theorem signableBytes_roundTrip
    {values : Slots}
    {tx : Transaction}
    (built : build values = .ok tx) :
    values.Denote tx ∧
      ((∃ raw, tx.toDraft.serialize = .ok raw) ↔ tx.recipient.IsScalar) ∧
      (¬ tx.recipient.IsScalar →
        ∃ reason, tx.toDraft.serialize = .error (.malformedEnvelope reason)) ∧
      ∀ raw, tx.toDraft.serialize = .ok raw → IsAddressable raw →
        ∃ decoded, deserialize (.bytes raw) = .ok decoded ∧
          decoded = tx ∧ decoded.toDraft.serialize = .ok raw := by
  refine ⟨build_eq_ok_iff.mp built, ?_, ?_, ?_⟩
  · constructor
    · rintro ⟨raw, serialized⟩
      by_contra surrogate
      rw [serialize_toDraft_of_not_isScalar surrogate] at serialized
      cases serialized
    · intro scalar
      exact ⟨_, serialize_toDraft_of_isScalar scalar⟩
  · intro surrogate
    exact ⟨_, serialize_toDraft_of_not_isScalar surrogate⟩
  · intro raw serialized addressable
    by_cases scalar : tx.recipient.IsScalar
    · have known := serialized
      rw [serialize_toDraft_of_isScalar scalar, Except.ok.injEq] at known
      subst known
      exact ⟨tx, deserialize_encode_message scalar addressable, rfl, serialized⟩
    · rw [serialize_toDraft_of_not_isScalar scalar] at serialized
      cases serialized

/-- The values of a creation of a contract with the greatest nonce, nothing to pay and
the payload of one byte in capital digits. -/
def creationValues : Slots where
  recipient := .text [0x20]
  nonce := .int maxNonce
  quota := .int 1
  validUntilBlock := .int maxUInt64
  version := .int 0
  chainId := .int maxInt32
  value := .text [0x30, 0x30]
  data := .text [0x41, 0x42]

/-- The transaction that `creationValues` denote. -/
def creation : Transaction where
  recipient := []
  nonce := Bytes.truncate 32 maxNonce.toNat
  quota := 1
  validUntilBlock := UInt64.ofNat maxUInt64.toNat
  version := 0
  chainId := Int32.maxValue
  amount := Bytes.truncate 32 0
  payload := [0xAB]

theorem signableBytes_roundTrip_creation :
    build creationValues = .ok creation ∧
      ∃ raw, creation.toDraft.serialize = .ok raw ∧ IsAddressable raw ∧
        deserialize (.bytes raw) = .ok creation := by
  have built : build creationValues = .ok creation := rfl
  have scalar : creation.recipient.IsScalar := by decide
  obtain ⟨_, writable, _, readBack⟩ := signableBytes_roundTrip built
  obtain ⟨raw, serialized⟩ := writable.mpr scalar
  have bytes : raw = creation.message.encode := by
    rw [serialize_toDraft_of_isScalar scalar, Except.ok.injEq] at serialized
    exact serialized.symm
  have addressable : IsAddressable raw := by
    rw [bytes]
    decide +kernel
  obtain ⟨decoded, found, rfl, _⟩ := readBack raw serialized addressable
  exact ⟨built, raw, serialized, addressable, found⟩

end Transaction

end ChainClient
