import ChainClient.Proofs.Encoding.CanonicalForms
import ChainClient.Proofs.Transaction.Building

/-!
# What a builder refuses

A builder takes the values of the slots in their order, and the first that breaks the rule of its
slot decides the failure: it names the slot and shows the value. An integer of too many digits
cannot be shown, and to refuse it is no failure of the library's own.
-/

namespace ChainClient

/-- What a builder hands out: a draft that can still be changed, with a trimmed recipient, and with
its amount and its payload in canonical form. -/
structure Draft.IsCanonical (draft : Draft) : Prop where
  changeable : ¬ draft.IsFrozen
  recipient : ∃ t, draft.slots.recipient = .text t ∧ t.trim = t
  value : ∃ digits, draft.slots.value = .text digits ∧ Hex.IsCanonical digits
  data : ∃ digits, draft.slots.data = .text (Hex.mark ++ digits) ∧ digits.length % 2 = 0 ∧
    ∀ c ∈ digits, ∃ value, c = Hex.digit value

namespace Transaction

/-! ## Rules -/

/-- What a transaction is built for: anything, to create a contract, or to call one. -/
inductive Builder where
  | any
  | creation
  | call
deriving DecidableEq

/-- An integer between two others. -/
def IsBetween
    (low high : Int)
    (value : Datum) : Prop :=
  ∃ n : Int, value = .int n ∧ low ≤ n ∧ n ≤ high

namespace Builder

/-- Builds a transaction from values of any kind. -/
def build : Builder → Slots → Outcome Transaction
  | any => Transaction.build
  | creation => buildCreation
  | call => buildCall

/-- The values that a builder goes by: one that creates a contract takes no recipient. -/
def given : Builder → Slots → Slots
  | creation, values => { values with recipient := .text [] }
  | any, values | call, values => values

/-- The rule for the recipient: text, and to call a contract not a blank one. -/
def AcceptsRecipient : Builder → Datum → Prop
  | any, value => ∃ t, value = .text t
  | creation, _ => True
  | call, value => ∃ t, value = .text t ∧ t.trim ≠ []

/-- The rules of the slots. -/
def Accepts (builder : Builder) : Slot → Datum → Prop
  | .recipient, value => builder.AcceptsRecipient value
  | .nonce, value => IsBetween 0 (2 ^ 256 - 1) value
  | .quota, value | .validUntilBlock, value => IsBetween 1 (2 ^ 64 - 1) value
  | .version, value | .chainId, value => IsBetween 0 (2 ^ 31 - 1) value
  | .value, value => ∃ n < 2 ^ 256, Amount.Spells value n
  | .data, value => ∃ payload, SpellsPayload value payload

/-- The slot is the first whose value breaks its rule. -/
def FirstRefused
    (builder : Builder)
    (values : Slots)
    (slot : Slot) : Prop :=
  ∃ before after, Slot.all = before ++ slot :: after ∧
    (∀ earlier ∈ before, builder.Accepts earlier (values.get earlier)) ∧
    ¬ builder.Accepts slot (values.get slot)

end Builder

/-- An integer that a slot refuses, with more digits than a message may show. An amount is shown
only if it is negative. -/
def IsUntold : Slot → Datum → Prop
  | .recipient, _ | .data, _ => False
  | .value, value => ∃ n : Int, value = .int n ∧ n < 0 ∧ ¬ Decimal.IsWritable n
  | .nonce, value | .quota, value | .validUntilBlock, value | .version, value | .chainId, value =>
      ∃ n : Int, value = .int n ∧ ¬ Decimal.IsWritable n

/-- The failure that reports the value of a slot. -/
inductive Reports (slot : Slot) (value : Datum) : Failure → Prop
  | field
      (reason : Text) :
      slot ≠ .value →
      ¬ IsUntold slot value →
      Reports slot value (.invalidField slot.name reason)
  | amount
      (reason : Text) :
      slot = .value →
      ¬ IsUntold slot value →
      Reports slot value (.malformedValue reason)
  | untold :
      IsUntold slot value →
      Reports slot value (.misuse (.badValue none))

/-! ## Checks -/

namespace Builder

/-- Reads the recipient. -/
def recipientOf : Builder → Datum → Outcome Text
  | any, .text t => .ok t.trim
  | any, other => .error (FieldFault.toFailure Slot.recipient.name (.notText other.kindName))
  | creation, _ => .ok []
  | call, .text t =>
    if t.trim = [] then .error (FieldFault.toFailure Slot.recipient.name .noRecipient)
    else .ok t.trim
  | call, _ => .error (FieldFault.toFailure Slot.recipient.name .noRecipient)

/-- Reads the value of a slot, for its failures only. -/
def check (builder : Builder) : Slot → Datum → Outcome Unit
  | .recipient, value => (fun _ => ()) <$> builder.recipientOf value
  | .nonce, value => (fun _ => ()) <$> requireInt Slot.nonce.name 0 maxNonce value
  | .quota, value => (fun _ => ()) <$> requireInt Slot.quota.name 1 maxUInt64 value
  | .validUntilBlock, value =>
      (fun _ => ()) <$> requireInt Slot.validUntilBlock.name 1 maxUInt64 value
  | .version, value => (fun _ => ()) <$> requireInt Slot.version.name 0 maxInt32 value
  | .chainId, value => (fun _ => ()) <$> requireInt Slot.chainId.name 0 maxInt32 value
  | .value, value => (fun _ => ()) <$> Amount.parse value
  | .data, value =>
      (fun _ => ()) <$> (payloadBytes value).mapError (FieldFault.toFailure Slot.data.name)

end Builder

/-- Builds a transaction for a recipient from the values of the other slots. -/
def assemble
    (values : Slots)
    (recipient : Text) : Outcome Transaction := do
  let nonce ← requireInt Slot.nonce.name 0 maxNonce values.nonce
  let quota ← requireInt Slot.quota.name 1 maxUInt64 values.quota
  let validUntilBlock ← requireInt Slot.validUntilBlock.name 1 maxUInt64 values.validUntilBlock
  let version ← requireInt Slot.version.name 0 maxInt32 values.version
  let chainId ← requireInt Slot.chainId.name 0 maxInt32 values.chainId
  let amount ← Amount.parse values.value
  let payload ← (payloadBytes values.data).mapError (FieldFault.toFailure Slot.data.name)
  return {
    recipient := recipient
    nonce := Bytes.truncate 32 nonce.toNat
    quota := UInt64.ofNat quota.toNat
    validUntilBlock := UInt64.ofNat validUntilBlock.toNat
    version := Int32.ofInt version
    chainId := Int32.ofInt chainId
    amount := amount
    payload := payload }

section

variable
    {builder : Builder}
    {values : Slots}
    {slot : Slot}
    {value : Datum}
    {failure : Failure}

/-- Every builder reads the recipient first, and then the values of the other slots. -/
theorem Builder.build_eq :
    builder.build values = builder.recipientOf values.recipient >>= assemble values := by
  have read : ∀ t, values.recipient = .text t →
      Transaction.build values = assemble values t.trim := by
    intro t given
    unfold Transaction.build
    rw [given]
    rfl
  cases builder with
  | any =>
      change Transaction.build values = _
      cases given : values.recipient with
      | text t => exact read t given
      | null | bool | int | float | bytes | list | record =>
          unfold Transaction.build
          dsimp only
          rw [given]
          rfl
  | creation => rfl
  | call =>
      change buildCall values = _
      unfold buildCall recipientOf
      cases given : values.recipient with
      | text t =>
          dsimp only
          split
          · rfl
          · exact read t given
      | null | bool | int | float | bytes | list | record => rfl

/-- A chain that starts with a check and a list of checks fail alike if what follows does. -/
theorem bind_eq_error_iff_mapM
    {α β : Type}
    {first : Outcome α}
    {next : α → Outcome β}
    {check : Slot → Outcome Unit}
    {others : List Slot}
    (reads : check slot = (fun _ => ()) <$> first)
    (rest : ∀ a, next a = .error failure ↔ others.mapM check = .error failure) :
    (first >>= next) = .error failure ↔ (slot :: others).mapM check = .error failure := by
  simp [List.mapM_cons, bind_eq_error_iff, reads, map_eq_error_iff, rest]

/-- A builder fails as the first of its checks that does. -/
theorem Builder.build_eq_error_iff :
    builder.build values = .error failure ↔
      Slot.all.mapM (fun slot => builder.check slot (values.get slot)) = .error failure := by
  rw [build_eq]
  unfold assemble
  refine bind_eq_error_iff_mapM rfl fun recipient => ?_
  refine bind_eq_error_iff_mapM rfl fun nonce => ?_
  refine bind_eq_error_iff_mapM rfl fun quota => ?_
  refine bind_eq_error_iff_mapM rfl fun validUntilBlock => ?_
  refine bind_eq_error_iff_mapM rfl fun version => ?_
  refine bind_eq_error_iff_mapM rfl fun chainId => ?_
  refine bind_eq_error_iff_mapM rfl fun amount => ?_
  refine bind_eq_error_iff_mapM rfl fun payload => ?_
  simp [pure, Except.pure]

/-! ## What the checks accept -/

theorem exists_requireInt_iff
    {field : Text}
    {low high : Int} :
    (∃ n, requireInt field low high value = .ok n) ↔ IsBetween low high value := by
  simp only [requireInt_eq_ok_iff, IsBetween]

theorem Builder.exists_recipientOf_iff :
    (∃ t, builder.recipientOf value = .ok t) ↔ builder.AcceptsRecipient value := by
  cases builder with
  | any => cases value <;> simp [recipientOf, AcceptsRecipient]
  | creation => simp [recipientOf, AcceptsRecipient]
  | call =>
      cases value with
      | text t => by_cases blank : t.trim = [] <;> simp [recipientOf, AcceptsRecipient, blank]
      | null | bool | int | float | bytes | list | record =>
          simp [recipientOf, AcceptsRecipient]

/-- A check passes exactly if the value keeps the rule of the slot. -/
theorem Builder.exists_check_iff :
    (∃ result, builder.check slot value = .ok result) ↔ builder.Accepts slot value := by
  have read : ∀ {α : Type} {first : Outcome α},
      (∃ result, (fun _ => ()) <$> first = .ok result) ↔ ∃ a, first = .ok a := by
    simp [map_eq_ok_iff]
  cases slot with
  | recipient => exact read.trans exists_recipientOf_iff
  | nonce =>
      have bound : maxNonce = 2 ^ 256 - 1 := by decide
      rw [Accepts, ← bound]
      exact read.trans exists_requireInt_iff
  | quota | validUntilBlock =>
      have bound : maxUInt64 = 2 ^ 64 - 1 := by decide
      rw [Accepts, ← bound]
      exact read.trans exists_requireInt_iff
  | version | chainId =>
      have bound : maxInt32 = 2 ^ 31 - 1 := by decide
      rw [Accepts, ← bound]
      exact read.trans exists_requireInt_iff
  | value => exact read.trans Amount.exists_parse_iff
  | data =>
      refine read.trans ?_
      simp only [mapError_eq_ok_iff, payloadBytes_eq_ok_iff]
      rfl

/-! ## What the failures report -/

/-- The faults that a message can show. -/
def FieldFault.IsTold : FieldFault → Prop
  | .outOfRange _ _ n => Decimal.IsWritable n
  | _ => True

theorem FieldFault.exists_toFailure_eq
    {fault : FieldFault}
    (told : fault.IsTold)
    (field : Text) :
    ∃ reason, fault.toFailure field = .invalidField field reason := by
  cases fault with
  | outOfRange low high n =>
      have written : Decimal.ofInt? n = some (Decimal.ofInt n) := if_pos told
      simp only [toFailure, message?, written]
      exact ⟨_, rfl⟩
  | notInteger | notText | noRecipient | payloadKind | payloadNotHex | payloadOdd =>
      exact ⟨_, rfl⟩

theorem reports_of_isTold
    {fault : FieldFault}
    (told : fault.IsTold)
    (field : slot ≠ .value)
    (shown : ¬ IsUntold slot value) :
    Reports slot value (fault.toFailure slot.name) := by
  obtain ⟨reason, same⟩ := fault.exists_toFailure_eq told slot.name
  exact same ▸ .field reason field shown

/-- How a value is refused as an integer within bounds: it is no integer, or one outside. An
integer that has no written form cannot be reported. -/
inductive RefusesInt (field : Text) (low high : Int) : Datum → Failure → Prop
  | notInteger
      {value : Datum} :
      (∀ n, value ≠ .int n) →
      RefusesInt field low high value
        (.invalidField field (Text.join ["must be an integer, got ", value.kindName]))
  | outside
      {n : Int} :
      n < low ∨ high < n →
      Decimal.IsWritable n →
      RefusesInt field low high (.int n)
        (.invalidField field (Text.join
          ["must be in [", Decimal.ofInt low, ", ", Decimal.ofInt high, "], got ", Decimal.ofInt n]))
  | unwritable
      {n : Int} :
      n < low ∨ high < n →
      ¬ Decimal.IsWritable n →
      RefusesInt field low high (.int n) (.misuse (.badValue none))

theorem requireInt_eq_error_iff
    {field : Text}
    {low high : Int}
    {value : Datum}
    {failure : Failure} :
    requireInt field low high value = .error failure ↔
      RefusesInt field low high value failure := by
  rw [requireInt, mapError_eq_error_iff]
  cases value with
  | int n =>
      simp only [boundedInt]
      constructor
      · rintro ⟨fault, broken, rfl⟩
        split at broken
        · next outside =>
            cases broken
            rw [FieldFault.toFailure, FieldFault.message?, Decimal.ofInt?]
            split
            · next writable => exact .outside outside writable
            · next unwritable => exact .unwritable outside unwritable
        · cases broken
      · intro refuses
        cases refuses with
        | notInteger other => exact absurd rfl (other n)
        | outside outside writable =>
            refine ⟨.outOfRange low high n, if_pos outside, ?_⟩
            rw [FieldFault.toFailure, FieldFault.message?, Decimal.ofInt?, if_pos writable]
            rfl
        | unwritable outside unwritable =>
            refine ⟨.outOfRange low high n, if_pos outside, ?_⟩
            rw [FieldFault.toFailure, FieldFault.message?, Decimal.ofInt?, if_neg unwritable]
            rfl
  | null | bool | float | text | bytes | list | record =>
      constructor
      · rintro ⟨fault, broken, rfl⟩
        cases broken
        refine .notInteger fun n same => ?_
        cases same
      · intro refuses
        cases refuses
        exact ⟨_, rfl, rfl⟩

/-- A refused integer is reported, unless its digits are too many. -/
theorem reports_of_requireInt
    {low high : Int}
    (field : slot ≠ .value)
    (untold : IsUntold slot value ↔ ∃ n : Int, value = .int n ∧ ¬ Decimal.IsWritable n)
    (fails : requireInt slot.name low high value = .error failure) :
    Reports slot value failure := by
  cases requireInt_eq_error_iff.mp fails with
  | notInteger other =>
      refine .field _ field fun unshown => ?_
      obtain ⟨n, same, -⟩ := untold.mp unshown
      exact other n same
  | outside _ writable =>
      refine .field _ field fun unshown => ?_
      obtain ⟨n, same, unwritable⟩ := untold.mp unshown
      cases same
      exact unwritable writable
  | unwritable _ unwritable => exact .untold (untold.mpr ⟨_, rfl, unwritable⟩)

/-- Only an integer can be a negative amount. -/
theorem eq_int_of_negative
    {n : Int}
    (fails : Amount.ofDatum value = .error (.negative n)) :
    value = .int n ∧ n < 0 := by
  have ofInt : ∀ m, Amount.ofInt m = .error (.negative n) → m = n ∧ m < 0 := by
    intro m fails
    unfold Amount.ofInt at fails
    split at fails
    · next negative =>
        cases fails
        exact ⟨rfl, negative⟩
    · split at fails <;> cases fails
  cases value with
  | int m =>
      obtain ⟨rfl, negative⟩ := ofInt m fails
      exact ⟨rfl, negative⟩
  | text literal => cases Amount.failsOnlyWith_ofLiteral literal _ fails
  | null | bool | float | bytes | list | record => cases fails

/-- No value has digits that are too many to be converted. -/
theorem ofDatum_ne_unconvertible :
    Amount.ofDatum value ≠ .error .unconvertible := by
  intro fails
  cases value with
  | int n =>
      simp only [Amount.ofDatum, Amount.ofInt] at fails
      split at fails
      · cases fails
      · split at fails <;> cases fails
  | text literal => cases Amount.failsOnlyWith_ofLiteral literal _ fails
  | null | bool | float | bytes | list | record => cases fails

/-- A refused amount is reported, unless it is an integer with too many digits. -/
theorem reports_of_parse
    (fails : Amount.parse value = .error failure) :
    Reports .value value failure := by
  obtain ⟨fault, broken, rfl⟩ := mapError_eq_error_iff.mp fails
  cases fault with
  | negative n =>
      obtain ⟨rfl, negative⟩ := eq_int_of_negative broken
      by_cases writable : Decimal.IsWritable n
      · have written : Decimal.ofInt? n = some (Decimal.ofInt n) := if_pos writable
        simp only [Amount.Fault.toFailure, Amount.Fault.message?, written]
        refine .amount _ rfl ?_
        rintro ⟨m, same, -, unwritable⟩
        cases same
        exact unwritable writable
      · have unwritten : Decimal.ofInt? n = none := if_neg writable
        simp only [Amount.Fault.toFailure, Amount.Fault.message?, unwritten]
        exact .untold ⟨n, rfl, negative, writable⟩
  | unconvertible => exact absurd broken ofDatum_ne_unconvertible
  | truthValue | wrongKind | empty | notHex | notNumeral | tooWide | tooLong =>
      refine .amount _ rfl ?_
      rintro ⟨m, rfl, negative, -⟩
      rw [Amount.ofDatum, Amount.ofInt, if_pos negative] at broken
      cases broken

/-- A payload is refused for its kind, or for digits that are none or do not pair up. -/
theorem isTold_of_payloadBytes
    {fault : FieldFault}
    (fails : payloadBytes value = .error fault) :
    fault.IsTold := by
  cases value with
  | null | bytes => cases fails
  | text t =>
      simp only [payloadBytes] at fails
      split at fails
      · cases fails
        trivial
      · split at fails
        · cases fails
        · cases fails
          trivial
  | bool | int | float | list | record =>
      cases fails
      trivial

/-- A recipient is refused for its kind, or because it is blank. -/
theorem Builder.exists_isTold_of_recipientOf
    (fails : builder.recipientOf value = .error failure) :
    ∃ fault : FieldFault, fault.IsTold ∧ fault.toFailure Slot.recipient.name = failure := by
  cases builder with
  | any =>
      cases value with
      | text => cases fails
      | null | bool | int | float | bytes | list | record =>
          cases fails
          exact ⟨.notText _, trivial, rfl⟩
  | creation => cases fails
  | call =>
      cases value with
      | text t =>
          simp only [recipientOf] at fails
          split at fails
          · cases fails
            exact ⟨.noRecipient, trivial, rfl⟩
          · cases fails
      | null | bool | int | float | bytes | list | record =>
          cases fails
          exact ⟨.noRecipient, trivial, rfl⟩

/-- The failure of a check reports the value. -/
theorem Builder.reports_of_check
    (fails : builder.check slot value = .error failure) :
    Reports slot value failure := by
  cases slot with
  | recipient =>
      obtain ⟨fault, told, rfl⟩ := exists_isTold_of_recipientOf (map_eq_error_iff.mp fails)
      exact reports_of_isTold told (by decide) id
  | nonce | quota | validUntilBlock | version | chainId =>
      exact reports_of_requireInt (by decide) .rfl (map_eq_error_iff.mp fails)
  | value => exact reports_of_parse (map_eq_error_iff.mp fails)
  | data =>
      obtain ⟨fault, broken, rfl⟩ := mapError_eq_error_iff.mp (map_eq_error_iff.mp fails)
      exact reports_of_isTold (isTold_of_payloadBytes broken) (by decide) id

/-- A number that a slot accepts has few digits. -/
theorem IsBetween.isWritable
    {low high n : Int}
    (between : IsBetween low high (.int n))
    (natural : 0 ≤ low)
    (small : high < 2 ^ 256) :
    Decimal.IsWritable n := by
  obtain ⟨m, same, least, most⟩ := between
  cases same
  have below : n.natAbs < 2 ^ 256 := by omega
  have wide : 256 ≤ Decimal.digitLimit := by decide
  rw [Decimal.IsWritable, Nat.pow_eq]
  generalize Decimal.digitLimit = limit at wide
  calc
    n.natAbs < 2 ^ 256 := below
    _ ≤ 10 ^ 256 := Nat.pow_le_pow_left (by decide) 256
    _ ≤ 10 ^ limit := Nat.pow_le_pow_right (by decide) wide

/-- An integer that cannot be shown is one that every builder refuses. -/
theorem Builder.not_accepts_of_isUntold
    (untold : IsUntold slot value) :
    ¬ builder.Accepts slot value := by
  intro accepted
  cases slot with
  | recipient | data => exact untold
  | nonce | quota | validUntilBlock | version | chainId =>
      obtain ⟨n, rfl, unwritable⟩ := untold
      exact unwritable (accepted.isWritable (by decide) (by decide))
  | value =>
      obtain ⟨n, rfl, negative, -⟩ := untold
      obtain ⟨m, -, spells⟩ := accepted
      cases spells with
      | integer => omega

/-! ## Outcomes -/

/-- A builder builds exactly if every value keeps the rule of its slot. -/
theorem Builder.exists_build_iff :
    (∃ tx, builder.build values = .ok tx) ↔ ∀ slot, builder.Accepts slot (values.get slot) := by
  have listed : ∀ slot, slot ∈ Slot.all := by
    intro slot
    cases slot <;> decide
  have checked : (∃ tx, builder.build values = .ok tx) ↔
      ∃ results,
        Slot.all.mapM (fun slot => builder.check slot (values.get slot)) = .ok results := by
    apply not_iff_not.mp
    simp only [not_exists_ok_iff, build_eq_error_iff]
  rw [checked, exists_mapM_eq_ok_iff]
  simp only [exists_check_iff, listed, forall_const]

/-- The first value that breaks its rule is reported. -/
theorem Builder.exists_firstRefused_of_build
    (fails : builder.build values = .error failure) :
    ∃ slot, builder.FirstRefused values slot ∧ Reports slot (values.get slot) failure := by
  obtain ⟨before, slot, after, split, earlier, refused⟩ :=
    mapM_eq_error_iff.mp (build_eq_error_iff.mp fails)
  refine ⟨slot, ⟨before, after, split, ?_, ?_⟩, reports_of_check refused⟩
  · exact fun other present => exists_check_iff.mp (earlier other present)
  · rw [← exists_check_iff, refused]
    rintro ⟨result, same⟩
    cases same

theorem Builder.FirstRefused.exists_build
    (first : builder.FirstRefused values slot) :
    ∃ failure, builder.build values = .error failure ∧
      Reports slot (values.get slot) failure := by
  obtain ⟨before, after, split, earlier, refused⟩ := first
  rw [← exists_check_iff] at refused
  obtain ⟨failure, fails⟩ := not_exists_ok_iff.mp refused
  refine ⟨failure, build_eq_error_iff.mpr (mapM_eq_error_iff.mpr ?_), reports_of_check fails⟩
  exact ⟨before, slot, after, split, fun other present =>
    exists_check_iff.mpr (earlier other present), fails⟩

theorem Builder.build_eq_misuse_iff :
    (∃ misuse, builder.build values = .error (.misuse misuse)) ↔
      ∃ slot, builder.FirstRefused values slot ∧ IsUntold slot (values.get slot) := by
  constructor
  · rintro ⟨misuse, fails⟩
    obtain ⟨slot, first, reports⟩ := exists_firstRefused_of_build fails
    cases reports with
    | untold untold => exact ⟨slot, first, untold⟩
  · rintro ⟨slot, first, untold⟩
    obtain ⟨failure, fails, reports⟩ := first.exists_build
    cases reports with
    | field _ _ shown => exact absurd untold shown
    | amount _ _ shown => exact absurd untold shown
    | untold => exact ⟨_, fails⟩

end

/-! ## Results -/

/-- What a builder makes of values that it accepts: the transaction that they denote, addressed as
the builder demands, and shown by a draft in canonical form. -/
structure Builder.Yields
    (builder : Builder)
    (values : Slots)
    (tx : Transaction) : Prop where
  denoted : (builder.given values).Denote tx
  canonical : tx.toDraft.IsCanonical
  creates : builder = .creation → tx.recipient = []
  calls : builder = .call → tx.recipient ≠ []

section

variable
    {builder : Builder}
    {values : Slots}
    {tx : Transaction}

theorem isCanonical_toDraft
    (trimmed : tx.recipient.trim = tx.recipient) :
    tx.toDraft.IsCanonical where
  changeable := fun frozen => by cases frozen
  recipient := ⟨tx.recipient, rfl, trimmed⟩
  value := ⟨tx.amount.canonical, rfl, Hex.isCanonical_ofNat _⟩
  data := by
    refine ⟨Hex.encode tx.payload, rfl, ?_, fun c => Hex.mem_encode⟩
    rw [Hex.length_encode]
    exact Nat.mul_mod_right _ _

theorem Builder.denote_given
    (built : builder.build values = .ok tx) :
    (builder.given values).Denote tx := by
  cases builder with
  | any => exact build_eq_ok_iff.mp built
  | creation => exact build_eq_ok_iff.mp built
  | call =>
      change buildCall values = .ok tx at built
      unfold buildCall at built
      split at built
      · split at built
        · cases built
        · exact build_eq_ok_iff.mp built
      · cases built

theorem Builder.yields_of_build
    (built : builder.build values = .ok tx) :
    builder.Yields values tx := by
  have denoted := denote_given built
  obtain ⟨t, given, trimmed⟩ := denoted.recipient
  refine ⟨denoted, isCanonical_toDraft (trimmed ▸ t.trim_trim), ?_, ?_⟩
  · rintro rfl
    cases given
    exact trimmed.symm
  · rintro rfl
    obtain ⟨other, same, solid⟩ := exists_build_iff.mp ⟨tx, built⟩ .recipient
    cases same.symm.trans given
    exact trimmed ▸ solid

end

/-- A builder accepts exactly the values that keep the rules of their slots, and what it makes of
them is canonical. Of other values it reports the first that breaks its rule, by the failure of its
slot, but for an integer that has too many digits to be shown: such a value, and no other, makes
the refusal itself fail as a misuse. -/
theorem Builder.build_outcome
    (builder : Builder)
    (values : Slots) :
    ((∃ tx, builder.build values = .ok tx) ↔
      ∀ slot, builder.Accepts slot (values.get slot)) ∧
    (∀ tx, builder.build values = .ok tx → builder.Yields values tx) ∧
    (∀ failure, builder.build values = .error failure →
      ∃ slot, builder.FirstRefused values slot ∧ Reports slot (values.get slot) failure) ∧
    ((∃ misuse, builder.build values = .error (.misuse misuse)) ↔
      ∃ slot, builder.FirstRefused values slot ∧ IsUntold slot (values.get slot)) :=
  ⟨exists_build_iff, fun _ => yields_of_build, fun _ => exists_firstRefused_of_build,
    build_eq_misuse_iff⟩

/-- Values with a negative amount of more digits than a message may show. -/
def overlongSlots : Slots where
  recipient := .text []
  nonce := .int 0
  quota := .int 1
  validUntilBlock := .int 1
  version := .int 0
  chainId := .int 1
  value := .int (-10 ^ Decimal.digitLimit)
  data := .null

/-- It is not so that a builder fails only as an invalid field or a malformed value. -/
theorem Builder.not_build_ok_or_reported :
    ¬ ∀ (builder : Builder) (values : Slots),
      (∃ tx, builder.build values = .ok tx) ∨
      (∃ field reason, builder.build values = .error (.invalidField field reason)) ∨
      ∃ reason, builder.build values = .error (.malformedValue reason) := by
  intro reported
  have untold : IsUntold .value (overlongSlots.get .value) :=
    ⟨_, rfl, by simp, by simp [Decimal.IsWritable, Int.natAbs_pow]⟩
  have first : any.FirstRefused overlongSlots .value := by
    refine ⟨[.recipient, .nonce, .quota, .validUntilBlock, .version, .chainId], [.data], rfl, ?_,
      not_accepts_of_isUntold untold⟩
    simp only [List.forall_mem_cons]
    exact ⟨⟨[], rfl⟩, ⟨0, rfl, by decide, by decide⟩, ⟨1, rfl, by decide, by decide⟩,
      ⟨1, rfl, by decide, by decide⟩, ⟨0, rfl, by decide, by decide⟩,
      ⟨1, rfl, by decide, by decide⟩, List.forall_mem_nil _⟩
  obtain ⟨misuse, fails⟩ := build_eq_misuse_iff.mpr ⟨.value, first, untold⟩
  rcases reported any overlongSlots with ⟨tx, built⟩ | ⟨field, reason, failed⟩ | ⟨reason, failed⟩
  · cases fails.symm.trans built
  · cases fails.symm.trans failed
  · cases fails.symm.trans failed

end Transaction
end ChainClient
