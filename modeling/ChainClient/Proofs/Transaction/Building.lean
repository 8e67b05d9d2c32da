import ChainClient.Transaction.Builder
import ChainClient.Proofs.Encoding.Numerals
import ChainClient.Proofs.Results

/-!
# What a builder accepts

A transaction is built exactly from the values that denote it.
-/

namespace ChainClient

/-- The values denote a transaction: texts up to blanks around them, integers within the
bounds of their fields, and every spelling of the amount and of the payload. -/
structure Slots.Denote
    (values : Slots)
    (tx : Transaction) :
    Prop where
  recipient : ∃ t, values.recipient = .text t ∧ t.trim = tx.recipient
  nonce : values.nonce = .int tx.nonce.val
  quota : values.quota = .int tx.quota.toNat
  quotaPositive : 1 ≤ tx.quota.toNat
  validUntilBlock : values.validUntilBlock = .int tx.validUntilBlock.toNat
  validUntilBlockPositive : 1 ≤ tx.validUntilBlock.toNat
  version : values.version = .int tx.version.toInt
  versionNatural : 0 ≤ tx.version.toInt
  chainId : values.chainId = .int tx.chainId.toInt
  chainIdNatural : 0 ≤ tx.chainId.toInt
  amount : Amount.parse values.value = .ok tx.amount
  payload : Transaction.payloadBytes values.data = .ok tx.payload

namespace Transaction

/-- An integer slot takes the integers within its bounds and nothing else. -/
theorem requireInt_eq_ok_iff
    {field : Text}
    {low high n : Int}
    {value : Datum} :
    requireInt field low high value = .ok n ↔ value = .int n ∧ low ≤ n ∧ n ≤ high := by
  rw [requireInt, mapError_eq_ok_iff]
  cases value with
  | int m =>
      simp only [boundedInt, Datum.int.injEq]
      by_cases outside : m < low ∨ high < m
      · simp only [if_pos outside, reduceCtorEq, false_iff]
        rintro ⟨rfl, lowBound, highBound⟩
        omega
      · simp only [if_neg outside, Except.ok.injEq]
        constructor
        · rintro rfl
          exact ⟨rfl, by omega, by omega⟩
        · rintro ⟨same, _, _⟩
          exact same
  | null | bool | float | text | bytes | list | record => simp [boundedInt]

theorem truncate_toNat
    {n : Int}
    (lowBound : 0 ≤ n)
    (highBound : n ≤ maxNonce) :
    ((Bytes.truncate 32 n.toNat : Nonce).val : Int) = n := by
  have below : n.toNat < Bytes.capacity 32 := by
    rw [maxNonce] at highBound
    omega
  simp only [Bytes.truncate, Nat.mod_eq_of_lt below]
  exact Int.toNat_of_nonneg lowBound

theorem uint64_ofNat_toNat
    {n : Int}
    (lowBound : 1 ≤ n)
    (highBound : n ≤ maxUInt64) :
    ((UInt64.ofNat n.toNat).toNat : Int) = n := by
  have below : n.toNat < UInt64.size := by
    rw [maxUInt64] at highBound
    omega
  rw [UInt64.toNat_ofNat_of_lt' below]
  exact Int.toNat_of_nonneg (by omega)

theorem int32_toInt_ofInt
    {n : Int}
    (lowBound : 0 ≤ n)
    (highBound : n ≤ maxInt32) :
    (Int32.ofInt n).toInt = n := by
  have bound : maxInt32 = 2 ^ 31 - 1 := by decide
  exact Int32.toInt_ofInt_of_le (by omega) (by omega)

theorem val_le_maxNonce (nonce : Nonce) :
    (nonce.val : Int) ≤ maxNonce := by
  have below := nonce.isLt
  rw [maxNonce]
  omega

theorem toNat_le_maxUInt64 (n : UInt64) :
    (n.toNat : Int) ≤ maxUInt64 := by
  have below := n.toNat_lt_size
  rw [maxUInt64]
  omega

theorem toInt_le_maxInt32 (n : Int32) :
    n.toInt ≤ maxInt32 :=
  n.toInt_le

/-- The slot of the nonce holds the number that is read from it. -/
theorem exists_requireInt_nonce_iff
    {field : Text}
    {value : Datum}
    {nonce : Nonce} :
    (∃ n, requireInt field 0 maxNonce value = .ok n ∧ Bytes.truncate 32 n.toNat = nonce) ↔
      value = .int nonce.val := by
  simp only [requireInt_eq_ok_iff]
  constructor
  · rintro ⟨n, ⟨rfl, low, high⟩, rfl⟩
    rw [truncate_toNat low high]
  · rintro rfl
    exact ⟨_, ⟨rfl, Int.natCast_nonneg _, val_le_maxNonce nonce⟩, Bytes.truncate_val nonce⟩

/-- A slot of 64 bits holds the number that is read from it, which is not zero. -/
theorem exists_requireInt_uint64_iff
    {field : Text}
    {value : Datum}
    {m : UInt64} :
    (∃ n, requireInt field 1 maxUInt64 value = .ok n ∧ UInt64.ofNat n.toNat = m) ↔
      value = .int m.toNat ∧ 1 ≤ m.toNat := by
  simp only [requireInt_eq_ok_iff]
  constructor
  · rintro ⟨n, ⟨rfl, low, high⟩, rfl⟩
    have kept := uint64_ofNat_toNat low high
    exact ⟨congrArg Datum.int kept.symm, by omega⟩
  · rintro ⟨rfl, positive⟩
    exact ⟨_, ⟨rfl, Int.ofNat_le.mpr positive, toNat_le_maxUInt64 m⟩, UInt64.ofNat_toNat⟩

/-- A slot of 32 bits holds the number that is read from it, which is not negative. -/
theorem exists_requireInt_int32_iff
    {field : Text}
    {value : Datum}
    {m : Int32} :
    (∃ n, requireInt field 0 maxInt32 value = .ok n ∧ Int32.ofInt n = m) ↔
      value = .int m.toInt ∧ 0 ≤ m.toInt := by
  simp only [requireInt_eq_ok_iff]
  constructor
  · rintro ⟨n, ⟨rfl, low, high⟩, rfl⟩
    have kept := int32_toInt_ofInt low high
    exact ⟨congrArg Datum.int kept.symm, kept.symm.subst low⟩
  · rintro ⟨rfl, natural⟩
    exact ⟨_, ⟨rfl, natural, toInt_le_maxInt32 m⟩, Int32.ofInt_toInt m⟩

/-- Without a text for the recipient nothing is built. -/
theorem exists_text_of_build
    {values : Slots}
    {tx : Transaction}
    (built : build values = .ok tx) :
    ∃ t, values.recipient = .text t := by
  cases given : values.recipient with
  | text t => exact ⟨t, rfl⟩
  | null | bool | int | float | bytes | list | record =>
      simp only [build, given] at built
      cases built

/-- The values that a transaction is built from denote it. -/
theorem denote_of_build
    {values : Slots}
    {tx : Transaction}
    (built : build values = .ok tx) :
    values.Denote tx := by
  obtain ⟨recipient, recipientGiven⟩ := exists_text_of_build built
  simp only [build, recipientGiven, bind_eq_ok_iff, mapError_eq_ok_iff,
    pure, Except.pure, Except.ok.injEq, exists_eq_left'] at built
  obtain ⟨nonce, nonceRead, quota, quotaRead, block, blockRead, version, versionRead,
    chainId, chainIdRead, amount, amountRead, payload, payloadRead, rfl⟩ := built
  have quotaSlot := exists_requireInt_uint64_iff.mp ⟨quota, quotaRead, rfl⟩
  have blockSlot := exists_requireInt_uint64_iff.mp ⟨block, blockRead, rfl⟩
  have versionSlot := exists_requireInt_int32_iff.mp ⟨version, versionRead, rfl⟩
  have chainIdSlot := exists_requireInt_int32_iff.mp ⟨chainId, chainIdRead, rfl⟩
  exact {
    recipient := ⟨recipient, recipientGiven, rfl⟩
    nonce := exists_requireInt_nonce_iff.mp ⟨nonce, nonceRead, rfl⟩
    quota := quotaSlot.1
    quotaPositive := quotaSlot.2
    validUntilBlock := blockSlot.1
    validUntilBlockPositive := blockSlot.2
    version := versionSlot.1
    versionNatural := versionSlot.2
    chainId := chainIdSlot.1
    chainIdNatural := chainIdSlot.2
    amount := amountRead
    payload := payloadRead }

/-- From values that denote a transaction this transaction is built. -/
theorem build_eq_ok_of_denote
    {values : Slots}
    {tx : Transaction}
    (denote : values.Denote tx) :
    build values = .ok tx := by
  obtain ⟨recipient, recipientGiven, trimmed⟩ := denote.recipient
  obtain ⟨nonce, nonceRead, nonceKept⟩ := exists_requireInt_nonce_iff.mpr denote.nonce
  obtain ⟨quota, quotaRead, quotaKept⟩ :=
    exists_requireInt_uint64_iff.mpr ⟨denote.quota, denote.quotaPositive⟩
  obtain ⟨block, blockRead, blockKept⟩ :=
    exists_requireInt_uint64_iff.mpr ⟨denote.validUntilBlock, denote.validUntilBlockPositive⟩
  obtain ⟨version, versionRead, versionKept⟩ :=
    exists_requireInt_int32_iff.mpr ⟨denote.version, denote.versionNatural⟩
  obtain ⟨chainId, chainIdRead, chainIdKept⟩ :=
    exists_requireInt_int32_iff.mpr ⟨denote.chainId, denote.chainIdNatural⟩
  simp only [build, recipientGiven, bind_eq_ok_iff, mapError_eq_ok_iff,
    pure, Except.pure, Except.ok.injEq, exists_eq_left']
  refine ⟨nonce, nonceRead, quota, quotaRead, block, blockRead, version, versionRead,
    chainId, chainIdRead, _, denote.amount, _, denote.payload, ?_⟩
  rw [trimmed, nonceKept, quotaKept, blockKept, versionKept, chainIdKept]

/-- A transaction is built from the values that denote it, and from no others. -/
theorem build_eq_ok_iff
    {values : Slots}
    {tx : Transaction} :
    build values = .ok tx ↔ values.Denote tx :=
  ⟨denote_of_build, build_eq_ok_of_denote⟩

end Transaction

end ChainClient
