import ChainClient.Proofs.Encoding.Spellings
import ChainClient.Proofs.Transaction.SignableBytes

/-!
# Values that denote the same transaction

One transaction has many spellings. Two lists of values that a builder accepts give the same
signable bytes if and only if they agree, slot by slot, on what they spell.
-/

namespace ChainClient

/-- Values agree: texts up to blanks around them, integers as such, and amounts and payloads
in what they spell. -/
structure Slots.Agree
    (left right : Slots) :
    Prop where
  recipient :
    ∃ s t, left.recipient = .text s ∧ right.recipient = .text t ∧ s.trim = t.trim
  nonce : left.nonce = right.nonce
  quota : left.quota = right.quota
  validUntilBlock : left.validUntilBlock = right.validUntilBlock
  version : left.version = right.version
  chainId : left.chainId = right.chainId
  amount : ∃ amount : Amount, Amount.Spells left.value amount.val ∧
    Amount.Spells right.value amount.val
  payload :
    ∃ bytes, Transaction.SpellsPayload left.data bytes ∧
      Transaction.SpellsPayload right.data bytes

namespace Transaction

open Wire (IsAddressable)

/-- Values of one transaction agree. -/
theorem agree_of_denote
    {left right : Slots}
    {tx : Transaction}
    (leftDenote : left.Denote tx)
    (rightDenote : right.Denote tx) :
    left.Agree right := by
  obtain ⟨s, leftGiven, leftTrimmed⟩ := leftDenote.recipient
  obtain ⟨t, rightGiven, rightTrimmed⟩ := rightDenote.recipient
  exact {
    recipient := ⟨s, t, leftGiven, rightGiven, leftTrimmed.trans rightTrimmed.symm⟩
    nonce := leftDenote.nonce.trans rightDenote.nonce.symm
    quota := leftDenote.quota.trans rightDenote.quota.symm
    validUntilBlock := leftDenote.validUntilBlock.trans rightDenote.validUntilBlock.symm
    version := leftDenote.version.trans rightDenote.version.symm
    chainId := leftDenote.chainId.trans rightDenote.chainId.symm
    amount := ⟨tx.amount, Amount.parse_eq_ok_iff.mp leftDenote.amount,
      Amount.parse_eq_ok_iff.mp rightDenote.amount⟩
    payload := ⟨tx.payload, payloadBytes_eq_ok_iff.mp leftDenote.payload,
      payloadBytes_eq_ok_iff.mp rightDenote.payload⟩ }

/-- Values that agree with those of a transaction denote it as well. -/
theorem denote_of_agree
    {left right : Slots}
    {tx : Transaction}
    (denote : left.Denote tx)
    (agree : left.Agree right) :
    right.Denote tx := by
  obtain ⟨s, t, leftGiven, rightGiven, trimmed⟩ := agree.recipient
  obtain ⟨same, sameGiven, sameTrimmed⟩ := denote.recipient
  obtain rfl : same = s := Datum.text.inj (sameGiven.symm.trans leftGiven)
  obtain ⟨amount, leftAmount, rightAmount⟩ := agree.amount
  obtain rfl : amount = tx.amount :=
    Except.ok.inj ((Amount.parse_eq_ok_iff.mpr leftAmount).symm.trans denote.amount)
  obtain ⟨payload, leftPayload, rightPayload⟩ := agree.payload
  obtain rfl : payload = tx.payload :=
    Except.ok.inj ((payloadBytes_eq_ok_iff.mpr leftPayload).symm.trans denote.payload)
  exact {
    recipient := ⟨t, rightGiven, trimmed.symm.trans sameTrimmed⟩
    nonce := agree.nonce.symm.trans denote.nonce
    quota := agree.quota.symm.trans denote.quota
    quotaPositive := denote.quotaPositive
    validUntilBlock := agree.validUntilBlock.symm.trans denote.validUntilBlock
    validUntilBlockPositive := denote.validUntilBlockPositive
    version := agree.version.symm.trans denote.version
    versionNatural := denote.versionNatural
    chainId := agree.chainId.symm.trans denote.chainId
    chainIdNatural := denote.chainIdNatural
    amount := Amount.parse_eq_ok_iff.mpr rightAmount
    payload := payloadBytes_eq_ok_iff.mpr rightPayload }

/-- Values that agree are those that the same transaction is built from. -/
theorem eq_iff_agree
    {left right : Slots}
    {first second : Transaction}
    (leftBuilt : build left = .ok first)
    (rightBuilt : build right = .ok second) :
    first = second ↔ left.Agree right := by
  rw [build_eq_ok_iff] at leftBuilt
  constructor
  · rintro rfl
    exact agree_of_denote leftBuilt (build_eq_ok_iff.mp rightBuilt)
  · intro agree
    have rebuilt := build_eq_ok_iff.mpr (denote_of_agree leftBuilt agree)
    exact Except.ok.inj (rebuilt.symm.trans rightBuilt)

/-- Transactions with the same signable bytes are the same. -/
theorem encode_message_inj
    {first second : Transaction}
    (firstScalar : first.recipient.IsScalar)
    (secondScalar : second.recipient.IsScalar)
    (addressable : IsAddressable first.message.encode)
    (same : first.message.encode = second.message.encode) :
    first = second := by
  have read := deserialize_encode_message firstScalar addressable
  rw [same] at addressable read
  exact Except.ok.inj (read.symm.trans (deserialize_encode_message secondScalar addressable))

/-- Values that a builder accepts and whose recipients UTF-8 can write have signable bytes.
They give the same transaction, and the same bytes, exactly if they agree. -/
theorem serialize_eq_iff_agree
    {left right : Slots}
    {first second : Transaction}
    (leftBuilt : build left = .ok first)
    (rightBuilt : build right = .ok second)
    (firstScalar : first.recipient.IsScalar)
    (secondScalar : second.recipient.IsScalar) :
    ∃ raw other, first.toDraft.serialize = .ok raw ∧ second.toDraft.serialize = .ok other ∧
      (left.Agree right → first = second) ∧
      (IsAddressable raw → (raw = other ↔ left.Agree right)) := by
  refine ⟨first.message.encode, second.message.encode, serialize_toDraft_of_isScalar firstScalar,
    serialize_toDraft_of_isScalar secondScalar, (eq_iff_agree leftBuilt rightBuilt).mpr, ?_⟩
  intro addressable
  rw [← eq_iff_agree leftBuilt rightBuilt]
  constructor
  · exact encode_message_inj firstScalar secondScalar addressable
  · rintro rfl
    rfl

/-- The values of a call with an amount of 255 and a payload of one byte. -/
def plainValues : Slots where
  recipient := .text [0x30, 0x78, 0x61, 0x62]
  nonce := .int 7
  quota := .int 21000
  validUntilBlock := .int 1088
  version := .int 1
  chainId := .int 1
  value := .int 255
  data := .bytes [0xAB]

/-- The same values, with blanks around the recipient and the payload, and the amount in
hexadecimal digits of either case behind two zeros. -/
def ornateValues : Slots :=
  { plainValues with
    recipient := .text [0x20, 0x30, 0x78, 0x61, 0x62, 0x0A]
    value := .text [0x30, 0x58, 0x30, 0x30, 0x66, 0x46]
    data := .text [0x09, 0x30, 0x78, 0x61, 0x42] }

/-- The transaction that both lists of values denote. -/
def plainCall : Transaction where
  recipient := [0x30, 0x78, 0x61, 0x62]
  nonce := Bytes.truncate 32 7
  quota := 21000
  validUntilBlock := 1088
  version := 1
  chainId := 1
  amount := Bytes.truncate 32 255
  payload := [0xAB]

theorem agree_ornateValues :
    plainValues.Agree ornateValues := by
  have amount : IsNumeral 16 [0x30, 0x30, 0x66, 0x46] 255 :=
    IsNumeral.padded (by decide) ⟨[15, 15], rfl, by decide, rfl⟩ 2
  have payload : Hex.Spells [0x09, 0x30, 0x78, 0x61, 0x42] [0xAB] :=
    ⟨[0x09], Hex.mark, [0x61, 0x42], [], rfl, List.forall_mem_singleton.mpr rfl,
      List.forall_mem_nil _, Hex.mark_mem_marks, rfl⟩
  have marked : Text.trim [0x30, 0x58, 0x30, 0x30, 0x66, 0x46] =
      [0x30, 0x58] ++ [0x30, 0x30, 0x66, 0x46] := rfl
  exact {
    recipient := ⟨_, _, rfl, rfl, rfl⟩
    nonce := rfl
    quota := rfl
    validUntilBlock := rfl
    version := rfl
    chainId := rfl
    amount := ⟨Bytes.truncate 32 255, .integer 255,
      .hexadecimal marked (by decide) (by decide) (by decide) amount⟩
    payload := ⟨[0xAB], .bytes [0xAB], .text payload⟩ }

theorem serialize_eq_iff_agree_ornateValues :
    build plainValues = .ok plainCall ∧ build ornateValues = .ok plainCall ∧
      ∃ raw other, plainCall.toDraft.serialize = .ok raw ∧
        plainCall.toDraft.serialize = .ok other ∧ IsAddressable raw ∧ raw = other := by
  have plainBuilt : build plainValues = .ok plainCall := rfl
  have ornateBuilt : build ornateValues = .ok plainCall := rfl
  have scalar : plainCall.recipient.IsScalar := by decide
  obtain ⟨raw, other, serialized, otherSerialized, -, same⟩ :=
    serialize_eq_iff_agree plainBuilt ornateBuilt scalar scalar
  have bytes : raw = plainCall.message.encode :=
    Except.ok.inj (serialized.symm.trans (serialize_toDraft_of_isScalar scalar))
  have addressable : IsAddressable raw := by
    rw [bytes]
    decide +kernel
  exact ⟨plainBuilt, ornateBuilt, raw, other, serialized, otherSerialized, addressable,
    (same addressable).mpr agree_ornateValues⟩

end Transaction

end ChainClient
