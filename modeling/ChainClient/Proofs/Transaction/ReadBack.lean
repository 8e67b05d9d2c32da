import ChainClient.Proofs.Transaction.Drafts
import ChainClient.Proofs.Transaction.Signing

/-!
# Reading drafts back

A draft whose slots have the kinds of a transaction's fields can still hold values that no
transaction has. Its signable bytes, where it has any, are read back as the transaction that shows
its values, but for one gap: a draft takes any integer as its nonce, and a negative or overlong
nonce is written in digits that no reader takes.
-/

namespace ChainClient

open Wire (TransactionMessage EnvelopeMessage IsAddressable)

/-! ## Nonces -/

/-- Digits denote less than the power of sixteen that their count is the exponent of. -/
theorem Hex.lt_pow_length
    {t : Text}
    {n : Nat}
    (read : Hex.toNat? t = some n) :
    n < 16 ^ t.length := by
  induction t using List.reverseRecOn generalizing n with
  | nil =>
      cases read
      exact Nat.one_pos
  | append_singleton t c inductionHypothesis =>
      rw [toNat?_append_singleton] at read
      split at read
      · next high value highRead valueRead =>
          cases read
          have below := inductionHypothesis highRead
          have digit := value.isLt
          rw [List.length_append, List.length_singleton, Nat.pow_succ]
          omega
      · cases read

/-- Up to 64 digits denote less than 2^256. -/
theorem Hex.lt_capacity_of_length_le
    {t : Text}
    {n : Nat}
    (read : Hex.toNat? t = some n)
    (short : t.length ≤ 64) :
    n < Bytes.capacity 32 :=
  calc
    n < 16 ^ t.length := Hex.lt_pow_length read
    _ ≤ 16 ^ 64 := Nat.pow_le_pow_right (by decide) short
    _ = Bytes.capacity 32 := by decide

/-- A nonce is read from the digits of an integer exactly if it is that integer: there are none
for an integer that is negative or has too many digits. -/
theorem Transaction.nonceOfDigits_ofInt_eq_ok_iff
    {n : Int}
    {nonce : Nonce} :
    nonceOfDigits (Hex.ofInt n) = .ok nonce ↔ (nonce.val : Int) = n := by
  constructor
  · intro read
    obtain ⟨-, short, digits⟩ := exists_nonceOfDigits_eq_ok_iff.mp ⟨nonce, read⟩
    cases n with
    | ofNat n =>
        have below : n < Bytes.capacity 32 :=
          Hex.lt_capacity_of_length_le (Hex.toNat?_ofNat n) short
        have known : nonceOfDigits (Hex.ofNat n) = .ok ⟨n, below⟩ := nonceOfDigits_ofNat ⟨n, below⟩
        obtain rfl : (⟨n, below⟩ : Nonce) = nonce := Except.ok.inj (known.symm.trans read)
        rfl
    | negSucc n =>
        -- The sign in front is the one code point that is no digit.
        have sign : (Hex.digit? 0x2D).isSome = true := digits 0x2D List.mem_cons_self
        exact absurd sign (by decide)
  · rintro rfl
    exact nonceOfDigits_ofNat nonce

/-! ## Slots of the right kinds -/

/-- Slots whose values have the kinds of a transaction's fields, and are otherwise arbitrary. -/
structure TypedSlots where
  recipient : Text
  nonce : Int
  quota : Int
  validUntilBlock : Int
  version : Int
  chainId : Int
  value : Text
  data : Text

namespace TypedSlots

/-- The slots that hold the values. -/
def toSlots (slots : TypedSlots) : Slots where
  recipient := .text slots.recipient
  nonce := .int slots.nonce
  quota := .int slots.quota
  validUntilBlock := .int slots.validUntilBlock
  version := .int slots.version
  chainId := .int slots.chainId
  value := .text slots.value
  data := .text slots.data

/-- A draft with the values, frozen or not. -/
def toDraft
    (slots : TypedSlots)
    (frozenMark : Datum) : Draft where
  slots := slots.toSlots
  frozenMark := frozenMark

/-- Text that writes an amount: hexadecimal digits without a mark, with blanks at most behind
them. -/
def WritesAmount
    (t : Text)
    (n : Nat) : Prop :=
  ∃ digits blanks, t = digits ++ blanks ∧ digits ≠ [] ∧ IsNumeral 16 digits n ∧
    ∀ c ∈ blanks, c.isBlank = true

/-- Text that writes a payload: pairs of hexadecimal digits, perhaps behind a mark. -/
def WritesPayload
    (t : Text)
    (payload : Bytes) : Prop :=
  ∃ mark digits, mark ∈ Hex.marks ∧ t = mark ++ digits ∧ digits.toLower = Hex.encode payload

/-- The values are those of a transaction, but perhaps for its nonce. -/
structure ShowsButNonce
    (slots : TypedSlots)
    (tx : Transaction) : Prop where
  recipient : tx.recipient = slots.recipient
  quota : (tx.quota.toNat : Int) = slots.quota
  validUntilBlock : (tx.validUntilBlock.toNat : Int) = slots.validUntilBlock
  version : tx.version.toInt = slots.version
  chainId : tx.chainId.toInt = slots.chainId
  amount : WritesAmount slots.value tx.amount.val
  payload : WritesPayload slots.data tx.payload

/-- The values are those of a transaction. -/
structure Shows
    (slots : TypedSlots)
    (tx : Transaction) : Prop extends slots.ShowsButNonce tx where
  nonce : (tx.nonce.val : Int) = slots.nonce

/-- A transaction can have the nonce. -/
def HasNonce (slots : TypedSlots) : Prop :=
  0 ≤ slots.nonce ∧ slots.nonce < Bytes.capacity 32

theorem hasNonce_iff {slots : TypedSlots} :
    slots.HasNonce ↔ ∃ nonce : Nonce, (nonce.val : Int) = slots.nonce := by
  constructor
  · rintro ⟨natural, below⟩
    refine ⟨⟨slots.nonce.toNat, by omega⟩, ?_⟩
    exact Int.toNat_of_nonneg natural
  · rintro ⟨nonce, same⟩
    have below := nonce.isLt
    rw [HasNonce, ← same]
    omega

/-! ### Conversions -/

/-- With the mark in front, only blanks at the end are trimmed. -/
theorem exists_trim_mark_append (t : Text) :
    ∃ digits blanks, t = digits ++ blanks ∧ (∀ c ∈ blanks, c.isBlank = true) ∧
      (Hex.mark ++ t).trim = Hex.mark ++ digits := by
  have markStays : (Hex.mark ++ t).dropWhile CodePoint.isBlank = Hex.mark ++ t := rfl
  have markReversed : (Hex.mark.reverse).dropWhile CodePoint.isBlank = Hex.mark.reverse := rfl
  refine ⟨(t.reverse.dropWhile CodePoint.isBlank).reverse,
    (t.reverse.takeWhile CodePoint.isBlank).reverse, ?_, ?_, ?_⟩
  · rw [← List.reverse_append, List.takeWhile_append_dropWhile, List.reverse_reverse]
  · intro c present
    exact List.mem_takeWhile_imp (List.mem_reverse.mp present)
  · rw [Text.trim, Text.trimBy, markStays, List.reverse_append, List.dropWhile_append]
    split
    · next blank =>
        rw [markReversed, List.reverse_reverse, List.isEmpty_iff.mp blank]
        rfl
    · rw [List.reverse_append, List.reverse_reverse]

theorem spells_mark_append_iff
    {t : Text}
    {n : Nat} :
    Amount.Spells (.text (Hex.mark ++ t)) n ↔ WritesAmount t n := by
  constructor
  · intro spells
    obtain ⟨digits, blanks, split, blank, trimmed⟩ := exists_trim_mark_append t
    cases spells with
    | decimal nonempty numeral =>
        obtain ⟨decimal, -⟩ := Amount.ofAsciiDigits_eq_iff.mpr numeral
        have letter : (0x78 : CodePoint) ∈ (Hex.mark ++ t).trim := by
          rw [trimmed]
          exact List.mem_append_left _ (by decide)
        exact absurd (decimal _ letter) (by decide)
    | @hexadecimal _ mark found _ read known markNonempty nonempty numeral =>
        rw [trimmed] at read
        simp only [Hex.marks, List.mem_cons, List.not_mem_nil, or_false] at known
        rcases known with rfl | rfl | rfl
        · exact absurd rfl markNonempty
        · obtain rfl := List.append_cancel_left read
          exact ⟨digits, blanks, split, nonempty, numeral, blank⟩
        · cases read
  · rintro ⟨digits, blanks, rfl, nonempty, numeral, blank⟩
    have hexadecimal := Hex.exists_toNat?_eq_some_iff.mp ⟨n, Hex.toNat?_eq_some_iff.mpr numeral⟩
    have solid : ∀ c ∈ Hex.mark ++ digits, c.isBlank = false := by
      intro c present
      rcases List.mem_append.mp present with inMark | inDigits
      · exact Hex.isBlank_of_mem_marks Hex.mark_mem_marks inMark
      · exact Hex.isBlank_eq_false_of_isSome_digit? (hexadecimal c inDigits)
    have trimmed : (Hex.mark ++ (digits ++ blanks)).trim = Hex.mark ++ digits := by
      have surrounded : ([] ++ (Hex.mark ++ digits) ++ blanks : Text).trim = Hex.mark ++ digits :=
        Text.trimBy_surrounded (List.forall_mem_nil _) solid blank
      rwa [List.nil_append, List.append_assoc] at surrounded
    exact .hexadecimal trimmed Hex.mark_mem_marks (by decide) nonempty numeral

theorem wireAmount_text_eq_ok_iff
    {t : Text}
    {bytes : Bytes} :
    Draft.wireAmount (.text t) = .ok bytes ↔
      ∃ amount : Amount, WritesAmount t amount.val ∧ amount.toBytes = bytes := by
  simp only [← spells_mark_append_iff, ← Amount.parse_eq_ok_iff, ← map_eq_ok_iff]
  rw [Draft.wireAmount, Amount.wireOfCanonical]
  split
  · next misused => simp [misused]
  · exact Iff.rfl

theorem bytesOfHex_text_eq_ok_iff
    {t : Text}
    {bytes : Bytes} :
    (Datum.text t).bytesOfHex = .ok bytes ↔ WritesPayload t bytes := by
  rw [WritesPayload, ← Hex.parse_eq_ok_iff, Datum.bytesOfHex]
  split
  · next found => simp [found]
  · next fault => simp [fault]

theorem textOfSlot_text_eq_ok_iff
    {t written : Text} :
    Draft.textOfSlot (.text t) = .ok written ↔ t.IsScalar ∧ t = written := by
  rw [Draft.textOfSlot]
  split
  · next scalar => simp [scalar]
  · next surrogate => simp [surrogate]

theorem intOfSlot_int_eq_ok_iff
    {low high n found : Int} :
    Draft.intOfSlot low high (.int n) = .ok found ↔ (low ≤ n ∧ n ≤ high) ∧ n = found := by
  rw [Draft.intOfSlot]
  split
  · next within => simp [within]
  · next outside => simp [outside]

theorem uint64OfSlot_int_eq_ok_iff
    {n : Int}
    {found : UInt64} :
    Draft.uint64OfSlot (.int n) = .ok found ↔ (found.toNat : Int) = n := by
  constructor
  · intro read
    simp only [Draft.uint64OfSlot, map_eq_ok_iff, intOfSlot_int_eq_ok_iff] at read
    obtain ⟨_, ⟨⟨natural, below⟩, rfl⟩, rfl⟩ := read
    rw [UInt64.toNat_ofNat_of_lt' (by omega)]
    exact Int.toNat_of_nonneg natural
  · rintro rfl
    exact Transaction.uint64OfSlot_toNat found

theorem int32OfSlot_int_eq_ok_iff
    {n : Int}
    {found : Int32} :
    Draft.int32OfSlot (.int n) = .ok found ↔ found.toInt = n := by
  constructor
  · intro read
    simp only [Draft.int32OfSlot, map_eq_ok_iff, intOfSlot_int_eq_ok_iff] at read
    obtain ⟨_, ⟨⟨above, below⟩, rfl⟩, rfl⟩ := read
    exact Int32.toInt_ofInt_of_le (by simpa using above) (by
      have : Int32.maxValue.toInt = 2 ^ 31 - 1 := rfl
      omega)
  · rintro rfl
    exact Transaction.int32OfSlot_toInt found

/-- The message of typed slots is that of a transaction with their values, but for the digits of
the nonce, which are those of any integer. -/
theorem toMessage_eq_ok_iff
    {slots : TypedSlots}
    {frozenMark : Datum}
    {m : TransactionMessage} :
    (slots.toDraft frozenMark).toMessage = .ok m ↔
      slots.recipient.IsScalar ∧ ∃ tx, slots.ShowsButNonce tx ∧
        { tx.message with nonce := Hex.ofInt slots.nonce } = m := by
  simp only [Draft.toMessage_eq_ok_iff, toDraft, toSlots, Draft.nonceHex, Draft.hexOfNonce,
    bytesOfHex_text_eq_ok_iff, wireAmount_text_eq_ok_iff, textOfSlot_text_eq_ok_iff,
    uint64OfSlot_int_eq_ok_iff, int32OfSlot_int_eq_ok_iff, Except.ok.injEq]
  constructor
  · rintro ⟨nonce, payload, ⟨amount, written, value⟩, ⟨scalar, recipient⟩, quota, block, chainId,
      version, known⟩
    refine ⟨scalar, ⟨m.recipient, 0, m.quota, m.validUntilBlock, m.version, m.chainId, amount,
      m.data⟩, ⟨recipient.symm, quota, block, version, chainId, written, payload⟩, ?_⟩
    rw [Transaction.message, nonce, value, ← known]
  · rintro ⟨scalar, tx, shows, rfl⟩
    exact ⟨rfl, shows.payload, ⟨tx.amount, shows.amount, rfl⟩, ⟨scalar, shows.recipient.symm⟩,
      shows.quota, shows.validUntilBlock, shows.chainId, shows.version, rfl⟩

end TypedSlots

/-! ## Reading -/

/-- Signable bytes that are read as a transaction, alone and in an envelope under any signature. -/
def IsReadAs
    (raw : Bytes)
    (tx : Transaction) : Prop :=
  Transaction.deserialize (.bytes raw) = .ok tx ∧
    ∀ signature, ∃ text, Envelope.wrap (.bytes raw) signature = .ok text ∧
      Envelope.deserialize (.text text) = .ok ⟨tx, raw, signature⟩

/-- Signable bytes that nobody reads, although they can be signed and wrapped. -/
def IsUnreadable (raw : Bytes) : Prop :=
  (∃ failure, Transaction.deserialize (.bytes raw) = .error failure) ∧
    ∀ signature, ∃ text, Envelope.wrap (.bytes raw) signature = .ok text ∧
      ∃ failure, Envelope.deserialize (.text text) = .error failure

/-- The message of a transaction with other digits for its nonce denotes the transaction with
the nonce that they denote. -/
theorem Transaction.ofMessage_withNonce_eq_ok_iff
    {tx read : Transaction}
    {digits : Text} :
    ofMessage { tx.message with nonce := digits } = .ok read ↔
      ∃ nonce, nonceOfDigits digits = .ok nonce ∧ { tx with nonce := nonce } = read := by
  simp only [ofMessage, message, bind_eq_ok_iff, mapError_eq_ok_iff, Amount.ofBytes_toBytes,
    Except.ok.injEq, exists_eq_left', pure, Except.pure]

namespace Envelope

/-- The message of an envelope carries nothing if its body denotes no transaction. -/
theorem ofMessage_messageOf_eq_ok_iff
    {body : TransactionMessage}
    {signature : Signature}
    {content : Envelope} :
    ofMessage (messageOf body signature) = .ok content ↔
      ∃ tx, Transaction.ofMessage body = .ok tx ∧ ⟨tx, body.encode, signature⟩ = content := by
  simp only [ofMessage, messageOf, ofTag?_toInt_ofNat_tag, signature_ofBytes_data]
  change (Transaction.ofMessage body >>= fun tx => pure _) = Except.ok content ↔ _
  simp only [bind_eq_ok_iff, pure, Except.pure, Except.ok.injEq]

/-- The envelope of a message is read as what the message denotes, and not at all if it denotes
nothing. -/
theorem deserialize_encodeMarked_eq_ok_iff
    {body : TransactionMessage}
    {signature : Signature}
    {content : Envelope}
    (scalar : body.IsScalar)
    (known : body.unknown = [])
    (addressable : IsAddressable body.encode) :
    deserialize (.text (Hex.encodeMarked (messageOf body signature).encode)) = .ok content ↔
      ∃ tx, Transaction.ofMessage body = .ok tx ∧ ⟨tx, body.encode, signature⟩ = content := by
  have read : EnvelopeMessage.decode? (messageOf body signature).encode =
      some (messageOf body signature) :=
    EnvelopeMessage.decode?_encode _ addressable (isAddressable_data signature)
      (TransactionMessage.decodeInto?_encode scalar known addressable _)
  have bytes : bytesOf (.text (Hex.encodeMarked (messageOf body signature).encode)) =
      .ok (messageOf body signature).encode := bytesOf_text (Hex.spells_encodeMarked _)
  rw [deserialize, mapError_eq_ok_iff, ofDatum, bytes, ← ofMessage_messageOf_eq_ok_iff]
  change ofBytes _ = _ ↔ _
  rw [ofBytes, read]

end Envelope

namespace Draft

variable {draft : Draft} {m : TransactionMessage}

/-- The signable bytes of a draft are read as what its message denotes. -/
theorem isReadAs_of_toMessage
    {tx : Transaction}
    (made : draft.toMessage = .ok m)
    (addressable : IsAddressable m.encode)
    (denoted : Transaction.ofMessage m = .ok tx) :
    IsReadAs m.encode tx := by
  obtain ⟨-, -, -, -, -, -, -, -, known⟩ := toMessage_eq_ok_iff.mp made
  have decoded := decode?_of_toMessage made addressable
  refine ⟨Transaction.deserialize_eq_ok_iff.mpr ⟨m, decoded, denoted⟩, fun signature => ?_⟩
  refine ⟨_, wrap_encode_eq_ok made addressable signature, ?_⟩
  exact (Envelope.deserialize_encodeMarked_eq_ok_iff (isScalar_of_toMessage made) known
    addressable).mpr ⟨tx, denoted, rfl⟩

/-- The signable bytes of a draft are not read if its message denotes nothing. -/
theorem isUnreadable_of_toMessage
    (made : draft.toMessage = .ok m)
    (addressable : IsAddressable m.encode)
    (meaningless : ∀ tx, Transaction.ofMessage m ≠ .ok tx) :
    IsUnreadable m.encode := by
  obtain ⟨-, -, -, -, -, -, -, -, known⟩ := toMessage_eq_ok_iff.mp made
  have decoded := decode?_of_toMessage made addressable
  refine ⟨not_exists_ok_iff.mp ?_, fun signature => ?_⟩
  · rintro ⟨tx, read⟩
    obtain ⟨same, found, denoted⟩ := Transaction.deserialize_eq_ok_iff.mp read
    obtain rfl : m = same := Option.some.inj (decoded.symm.trans found)
    exact meaningless tx denoted
  · refine ⟨_, wrap_encode_eq_ok made addressable signature, not_exists_ok_iff.mp ?_⟩
    rintro ⟨content, read⟩
    obtain ⟨tx, denoted, -⟩ := (Envelope.deserialize_encodeMarked_eq_ok_iff
      (isScalar_of_toMessage made) known addressable).mp read
    exact meaningless tx denoted

end Draft

namespace TypedSlots

/-- The message of typed slots denotes a transaction with their values, if there is one. -/
theorem ofMessage_eq_ok_iff
    {slots : TypedSlots}
    {tx read : Transaction} :
    Transaction.ofMessage { tx.message with nonce := Hex.ofInt slots.nonce } = .ok read ↔
      ∃ nonce : Nonce, (nonce.val : Int) = slots.nonce ∧ { tx with nonce := nonce } = read := by
  simp only [Transaction.ofMessage_withNonce_eq_ok_iff, Transaction.nonceOfDigits_ofInt_eq_ok_iff]

/-- Typed slots have signable bytes exactly if, but perhaps for the nonce, their values are those
of a transaction whose recipient UTF-8 can write. Otherwise they are refused. The bytes are read
back, alone and in an envelope, as a transaction with these very values, as long as a transaction
can have the nonce; with any other nonce they are written, can be signed and wrapped, and are
read by nobody. -/
theorem serialize_readBack
    (slots : TypedSlots)
    (frozenMark : Datum) :
    ((∃ raw, (slots.toDraft frozenMark).serialize = .ok raw) ↔
      slots.recipient.IsScalar ∧ ∃ tx, slots.ShowsButNonce tx) ∧
    FailsOnlyWith Failure.RefusesSlots (slots.toDraft frozenMark).serialize ∧
    ∀ raw, (slots.toDraft frozenMark).serialize = .ok raw → IsAddressable raw →
      (slots.HasNonce → ∃ tx, slots.Shows tx ∧ IsReadAs raw tx) ∧
      (¬ slots.HasNonce → IsUnreadable raw) := by
  refine ⟨?_, Draft.failsOnlyWith_serialize _, ?_⟩
  · simp only [Draft.serialize_eq_ok_iff, toMessage_eq_ok_iff]
    constructor
    · rintro ⟨_, _, ⟨scalar, tx, shows, -⟩, -⟩
      exact ⟨scalar, tx, shows⟩
    · rintro ⟨scalar, tx, shows⟩
      exact ⟨_, _, ⟨scalar, tx, shows, rfl⟩, rfl⟩
  · intro raw written addressable
    obtain ⟨m, made, rfl⟩ := Draft.serialize_eq_ok_iff.mp written
    obtain ⟨-, tx, shows, rfl⟩ := toMessage_eq_ok_iff.mp made
    constructor
    · intro possible
      obtain ⟨nonce, same⟩ := hasNonce_iff.mp possible
      refine ⟨{ tx with nonce := nonce }, ⟨⟨shows.recipient, shows.quota, shows.validUntilBlock,
        shows.version, shows.chainId, shows.amount, shows.payload⟩, same⟩, ?_⟩
      exact Draft.isReadAs_of_toMessage made addressable
        (ofMessage_eq_ok_iff.mpr ⟨nonce, same, rfl⟩)
    · intro impossible
      refine Draft.isUnreadable_of_toMessage made addressable fun read denoted => ?_
      obtain ⟨nonce, same, -⟩ := ofMessage_eq_ok_iff.mp denoted
      exact impossible (hasNonce_iff.mpr ⟨nonce, same⟩)

/-- Values that no builder leaves in a draft: digits of both cases with a zero in front and a blank
behind, a mark in capitals, and a negative version. -/
def unusual : TypedSlots where
  recipient := "to"
  nonce := 0
  quota := 0
  validUntilBlock := Transaction.maxUInt64
  version := -7
  chainId := Transaction.maxInt32
  value := "0fF "
  data := "0XaB"

/-- The transaction with the values of `unusual`. -/
def unusualTransaction : Transaction where
  recipient := "to"
  nonce := Bytes.truncate 32 0
  quota := 0
  validUntilBlock := UInt64.ofNat Transaction.maxUInt64.toNat
  version := -7
  chainId := Int32.maxValue
  amount := ⟨255, by decide⟩
  payload := [0xAB]

theorem unusual_shows :
    unusual.Shows unusualTransaction where
  recipient := rfl
  nonce := by decide
  quota := by decide
  validUntilBlock := by decide
  version := by decide
  chainId := by decide
  amount := ⟨"0fF", [0x20], by decide, by decide,
    ⟨[0, 15, 15], by decide, by decide, rfl⟩,
    List.forall_mem_singleton.mpr (by decide)⟩
  payload := ⟨"0X", "aB", by decide, by decide, by decide⟩

theorem serialize_readBack_unusual :
    ∃ raw, (unusual.toDraft (.bool true)).serialize = .ok raw ∧ IsAddressable raw ∧
      unusual.HasNonce ∧ ∃ tx, unusual.Shows tx ∧ IsReadAs raw tx := by
  have made : (unusual.toDraft (.bool true)).toMessage = .ok _ :=
    toMessage_eq_ok_iff.mpr ⟨by decide, unusualTransaction, unusual_shows.1, rfl⟩
  have success := Draft.serialize_eq_ok_iff.mpr ⟨_, made, rfl⟩
  have addressable : IsAddressable
      { unusualTransaction.message with nonce := Hex.ofInt unusual.nonce }.encode := by
    decide +kernel
  have possible : unusual.HasNonce := ⟨by decide, by decide⟩
  have readBack := (serialize_readBack unusual (.bool true)).2.2 _ success addressable
  exact ⟨_, success, addressable, possible, readBack.1 possible⟩

/-- The values of a transaction, but for a nonce below zero. -/
def negativeNonce : TypedSlots where
  recipient := ""
  nonce := -1
  quota := 1
  validUntilBlock := 1
  version := 0
  chainId := 1
  value := "0"
  data := "0x"

/-- A negative nonce is written as a minus sign with a digit. The bytes can be signed and wrapped,
and no envelope that carries them is read. -/
theorem isUnreadable_negativeNonce :
    ∃ raw, (negativeNonce.toDraft (.bool false)).serialize = .ok raw ∧ IsAddressable raw ∧
      IsUnreadable raw := by
  let tx : Transaction := ⟨"", 0, 1, 1, 0, 1, 0, []⟩
  have shows : negativeNonce.ShowsButNonce tx :=
    { recipient := rfl
      quota := rfl
      validUntilBlock := rfl
      version := rfl
      chainId := rfl
      amount := ⟨"0", [], rfl, by decide, ⟨[0], by decide, by decide, rfl⟩, List.forall_mem_nil _⟩
      payload := ⟨"0x", [], by decide, rfl, rfl⟩ }
  have made : (negativeNonce.toDraft (.bool false)).toMessage = .ok _ :=
    toMessage_eq_ok_iff.mpr ⟨List.forall_mem_nil _, tx, shows, rfl⟩
  have addressable : IsAddressable { tx.message with nonce := Hex.ofInt (-1) }.encode := by
    decide +kernel
  refine ⟨_, Draft.serialize_eq_ok_iff.mpr ⟨_, made, rfl⟩, addressable, ?_⟩
  refine Draft.isUnreadable_of_toMessage made addressable fun read denoted => ?_
  obtain ⟨nonce, same, -⟩ := ofMessage_eq_ok_iff.mp denoted
  have natural : (0 : Int) ≤ nonce.val := Int.natCast_nonneg _
  rw [same] at natural
  exact absurd natural (by decide)

end TypedSlots

end ChainClient
