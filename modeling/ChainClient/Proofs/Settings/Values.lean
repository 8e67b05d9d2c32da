import ChainClient.Proofs.Results
import ChainClient.Settings.Overrides

/-!
# Settings by their values

Settings whose fields have their declared kinds are known by eight values: texts, integers and
numbers. A listing of the settings tells these values, and the settings are what the values make.
-/

namespace ChainClient

/-- A misuse about a value, whatever is noted of it. -/
def Misuse.IsAboutValue (misuse : Misuse) : Prop :=
  ∃ note, misuse = .badValue note

namespace Text

theorem ofString_inj
    {s t : String} :
    ofString s = ofString t ↔ s = t := by
  constructor
  · intro same
    refine String.toList_inj.mp (List.map_injective_iff.mpr ?_ same)
    intro a b equal
    have numbers : a.val.toNat = b.val.toNat := Fin.mk.inj equal
    exact Char.ext (UInt32.toNat_inj.mp numbers)
  · rintro rfl
    rfl

end Text

namespace Binary64

theorem isBelow_zero_finite_iff
    {negative : Bool}
    {rank : Fin rankCount} :
    isBelow (.finite negative rank) 0 = true ↔ negative = true ∧ 0 < rankUnits rank.val := by
  cases negative <;> simp [isBelow, units?]

/-- A ratio without a sign is not below zero. -/
theorem isBelow_zero_ofRatio (num den : Nat) :
    (ofRatio false num den).isBelow 0 = false := by
  rw [ofRatio, ofRank]
  split
  · rw [Bool.eq_false_iff, ne_eq, isBelow_zero_finite_iff]
    simp
  · rfl

end Binary64

namespace ReceiptPolicy

variable
    {interval : Binary64}
    {attempts : Int}

/-- A policy keeps the interval and the count that it is made of. -/
theorem make_eq_ok_iff
    {policy : ReceiptPolicy} :
    make (.float interval) (.int attempts) = .ok policy ↔
      (1 ≤ attempts ∧ interval.isBelow 0 = false) ∧
        policy.pollInterval = .float interval ∧ (policy.maxAttempts : Int) = attempts := by
  obtain ⟨pollInterval, maxAttempts, positive⟩ := policy
  rw [make, mapError_eq_ok_iff, ofData]
  by_cases enough : 1 ≤ attempts
  · rw [dif_pos enough]
    cases below : interval.isBelow 0 with
    | true => simp [Datum.isBelow?, below]
    | false =>
        simp only [Datum.isBelow?, below, Except.ok.injEq, mk.injEq]
        constructor
        · rintro ⟨rfl, rfl⟩
          exact ⟨⟨enough, trivial⟩, rfl, Int.toNat_of_nonneg (by omega)⟩
        · rintro ⟨-, rfl, rfl⟩
          exact ⟨rfl, Int.toNat_natCast maxAttempts⟩
  · simp [enough]

theorem failsOnlyWith_make :
    FailsOnlyWith Misuse.IsAboutValue (make (.float interval) (.int attempts)) := by
  have faults : FailsOnlyWith (fun fault => fault.toMisuse.IsAboutValue)
      (ofData (.float interval) (.int attempts)) := by
    rw [ofData]
    by_cases enough : 1 ≤ attempts
    · rw [dif_pos enough]
      cases below : interval.isBelow 0 with
      | true =>
          simp only [Datum.isBelow?, below]
          exact .error ⟨_, rfl⟩
      | false =>
          simp only [Datum.isBelow?, below]
          exact .ok _
    · rw [dif_neg enough]
      exact .error ⟨_, rfl⟩
  exact faults.mapError fun fault about => about

end ReceiptPolicy

namespace Settings

/-- The kinds of values that settings have. -/
inductive Kind where
  | text
  | integer
  | number

/-- The values of a kind. A truth value is no integer. -/
def Kind.Has : Kind → Datum → Prop
  | text, value => ∃ t, value = .text t
  | integer, value => ∃ n, value = .int n
  | number, value => ∃ x, value = .float x

/-- The names of the values of settings, with their kinds. -/
def kinds : List (Text × Kind) :=
  [("rpc_url", .text), ("chain_id", .integer), ("version", .integer), ("request_timeout", .number),
    ("poll_interval", .number), ("max_attempts", .integer), ("valid_until_margin", .integer),
    ("user_agent", .text)]

/-- An entry has the name, and a value of the kind. -/
def Fits
    (entry : Text × Datum)
    (expected : Text × Kind) : Prop :=
  ∃ value, expected.2.Has value ∧ entry = (expected.1, value)

/-- The values of settings, each of its kind. -/
structure Values where
  rpcUrl : Text
  chainId : Int
  version : Int
  requestTimeout : Binary64
  pollInterval : Binary64
  maxAttempts : Int
  validUntilMargin : Int
  userAgent : Text

namespace Values

/-- The values under their names. -/
def toRecord (values : Values) : Entries :=
  [("rpc_url", .text values.rpcUrl), ("chain_id", .int values.chainId),
    ("version", .int values.version), ("request_timeout", .float values.requestTimeout),
    ("poll_interval", .float values.pollInterval), ("max_attempts", .int values.maxAttempts),
    ("valid_until_margin", .int values.validUntilMargin), ("user_agent", .text values.userAgent)]

theorem toRecord_injective : Function.Injective toRecord := by
  intro first second same
  cases first
  cases second
  simpa [toRecord] using same

/-- A record with the names and the kinds of settings is one of values. -/
theorem exists_toRecord_eq
    {record : Entries}
    (fits : List.Forall₂ Fits record kinds) :
    ∃ values : Values, values.toRecord = record := by
  obtain _ | ⟨⟨_, ⟨rpcUrl, rfl⟩, rfl⟩, fits⟩ := fits
  obtain _ | ⟨⟨_, ⟨chainId, rfl⟩, rfl⟩, fits⟩ := fits
  obtain _ | ⟨⟨_, ⟨version, rfl⟩, rfl⟩, fits⟩ := fits
  obtain _ | ⟨⟨_, ⟨requestTimeout, rfl⟩, rfl⟩, fits⟩ := fits
  obtain _ | ⟨⟨_, ⟨pollInterval, rfl⟩, rfl⟩, fits⟩ := fits
  obtain _ | ⟨⟨_, ⟨maxAttempts, rfl⟩, rfl⟩, fits⟩ := fits
  obtain _ | ⟨⟨_, ⟨validUntilMargin, rfl⟩, rfl⟩, fits⟩ := fits
  obtain _ | ⟨⟨_, ⟨userAgent, rfl⟩, rfl⟩, fits⟩ := fits
  cases fits
  exact ⟨⟨rpcUrl, chainId, version, requestTimeout, pollInterval, maxAttempts, validUntilMargin,
    userAgent⟩, rfl⟩

theorem forall₂_fits_toRecord (values : Values) :
    List.Forall₂ Fits values.toRecord kinds := by
  simp [toRecord, kinds, Fits, Kind.Has]

/-- The policy of the values. -/
def policy (values : Values) : Except Misuse ReceiptPolicy :=
  ReceiptPolicy.make (.float values.pollInterval) (.int values.maxAttempts)

/-- The settings of the values, with a policy that is made. -/
def settings
    (values : Values)
    (policy : ReceiptPolicy) : Settings where
  rpcUrl := .text values.rpcUrl
  chainId := .int values.chainId
  version := .int values.version
  requestTimeout := .float values.requestTimeout
  receipt := some policy
  validUntilMargin := .int values.validUntilMargin
  userAgent := .text values.userAgent

/-- The listing of the values, for a policy of so many attempts. -/
def listing
    (values : Values)
    (attempts : Nat) : Listing where
  rpcUrl := .text values.rpcUrl
  chainId := values.chainId
  version := values.version
  requestTimeout := values.requestTimeout
  pollInterval := values.pollInterval
  maxAttempts := attempts
  validUntilMargin := values.validUntilMargin
  userAgent := .text values.userAgent

/-- Makes the policy, and then the settings. -/
def make (values : Values) : Except Misuse Settings := do
  let policy ← values.policy
  Settings.make (values.settings policy)

/-- The settings have these values. -/
def AreOf
    (values : Values)
    (settings : Settings) : Prop :=
  ∃ policy, values.policy = .ok policy ∧ settings = values.settings policy

end Values

/-- Every field has a value of its kind. -/
def IsTyped (settings : Settings) : Prop :=
  ∃ values : Values, values.AreOf settings

end Settings

namespace Settings

theorem checkRange_int_eq_ok_iff
    {low high n : Int}
    {rule : Text} :
    checkRange low high rule (.int n) = .ok () ↔ low ≤ n ∧ n ≤ high := by
  change (if low ≤ n ∧ n ≤ high then _ else _) = _ ↔ _
  split
  · simp [*]
  · simp [*]

theorem failsOnlyWith_checkRange_int
    (low high n : Int)
    (rule : Text) :
    FailsOnlyWith Misuse.IsAboutValue (checkRange low high rule (.int n)) := by
  change FailsOnlyWith _ (if low ≤ n ∧ n ≤ high then _ else _)
  split
  · exact .ok ()
  · exact .error ⟨_, rfl⟩

theorem checkUrl_text_eq_ok_iff
    {url : Text} :
    checkUrl (.text url) = .ok () ↔ url = [] ∨ hasWebScheme url = true := by
  cases url with
  | nil => simp [checkUrl, Datum.isTruthy]
  | cons c rest =>
      cases schemed : hasWebScheme (c :: rest) <;> simp [checkUrl, Datum.isTruthy, schemed]

theorem failsOnlyWith_checkUrl_text (url : Text) :
    FailsOnlyWith Misuse.IsAboutValue (checkUrl (.text url)) := by
  unfold checkUrl
  split
  · change FailsOnlyWith _ (if hasWebScheme url then _ else _)
    split
    · exact .ok ()
    · exact .error ⟨_, rfl⟩
  · exact .ok ()

/-- Making settings checks them, and changes nothing. -/
theorem make_eq_ok_iff
    {settings result : Settings} :
    settings.make = .ok result ↔ settings.check = .ok () ∧ result = settings := by
  rw [make, bind_eq_ok_iff]
  constructor
  · rintro ⟨⟨⟩, checked, same⟩
    cases same
    exact ⟨checked, rfl⟩
  · rintro ⟨checked, rfl⟩
    exact ⟨(), checked, rfl⟩

namespace Values

variable
    {values : Values}
    {settings : Settings}

/-- The rules of policies and settings. No address passes as well, and so does an interval that is
not a number. -/
structure PassChecks (values : Values) : Prop where
  url : values.rpcUrl = [] ∨ hasWebScheme values.rpcUrl = true
  chainId : 0 ≤ values.chainId ∧ values.chainId ≤ maxChainNumber
  version : 0 ≤ values.version ∧ values.version ≤ maxChainNumber
  margin : 1 ≤ values.validUntilMargin ∧ values.validUntilMargin ≤ 100
  attempts : 1 ≤ values.maxAttempts
  interval : values.pollInterval.isBelow 0 = false

theorem check_settings_eq_ok_iff
    {policy : ReceiptPolicy} :
    (values.settings policy).check = .ok () ↔
      (values.rpcUrl = [] ∨ hasWebScheme values.rpcUrl = true) ∧
      (0 ≤ values.chainId ∧ values.chainId ≤ maxChainNumber) ∧
      (0 ≤ values.version ∧ values.version ≤ maxChainNumber) ∧
      1 ≤ values.validUntilMargin ∧ values.validUntilMargin ≤ 100 := by
  simp only [check, Values.settings, unit_bind_eq_ok_iff, checkUrl_text_eq_ok_iff,
    checkRange_int_eq_ok_iff, Node.maxMargin]

/-- Settings are made of values that pass the checks, and of no others. -/
theorem make_eq_ok_iff :
    values.make = .ok settings ↔ values.PassChecks ∧ values.AreOf settings := by
  rw [make, bind_eq_ok_iff]
  constructor
  · rintro ⟨policy, made, result⟩
    obtain ⟨checked, rfl⟩ := Settings.make_eq_ok_iff.mp result
    obtain ⟨url, chainId, version, margin⟩ := check_settings_eq_ok_iff.mp checked
    obtain ⟨⟨attempts, interval⟩, -⟩ := ReceiptPolicy.make_eq_ok_iff.mp made
    exact ⟨⟨url, chainId, version, margin, attempts, interval⟩, policy, made, rfl⟩
  · rintro ⟨pass, policy, made, rfl⟩
    refine ⟨policy, made, Settings.make_eq_ok_iff.mpr ⟨?_, rfl⟩⟩
    exact check_settings_eq_ok_iff.mpr ⟨pass.url, pass.chainId, pass.version, pass.margin⟩

/-- The policy of values that pass the checks can be made. -/
theorem PassChecks.exists_policy
    (pass : values.PassChecks) :
    ∃ policy, values.policy = .ok policy := by
  have positive := pass.attempts
  let policy : ReceiptPolicy :=
    ⟨.float values.pollInterval, values.maxAttempts.toNat, by omega⟩
  refine ⟨policy, ReceiptPolicy.make_eq_ok_iff.mpr ⟨⟨pass.attempts, pass.interval⟩, rfl, ?_⟩⟩
  exact Int.toNat_of_nonneg (by omega)

theorem exists_make_iff :
    (∃ settings, values.make = .ok settings) ↔ values.PassChecks := by
  constructor
  · rintro ⟨settings, made⟩
    exact (make_eq_ok_iff.mp made).1
  · intro pass
    obtain ⟨policy, made⟩ := pass.exists_policy
    exact ⟨_, make_eq_ok_iff.mpr ⟨pass, policy, made, rfl⟩⟩

/-- Values that make no settings are reported as such. -/
theorem failsOnlyWith_make (values : Values) :
    FailsOnlyWith Misuse.IsAboutValue values.make := by
  refine ReceiptPolicy.failsOnlyWith_make.bind fun policy => ?_
  refine FailsOnlyWith.bind ?_ fun _ => .ok _
  refine (failsOnlyWith_checkUrl_text _).bind fun _ => ?_
  refine (failsOnlyWith_checkRange_int _ _ _ _).bind fun _ => ?_
  refine (failsOnlyWith_checkRange_int _ _ _ _).bind fun _ => ?_
  exact failsOnlyWith_checkRange_int _ _ _ _

/-- Settings are made again of the values that they have. -/
theorem AreOf.make_eq
    (areOf : values.AreOf settings) :
    values.make = settings.make := by
  obtain ⟨policy, made, rfl⟩ := areOf
  rw [make, made]
  rfl

/-- The values of a caller who gives none. -/
def default : Values where
  rpcUrl := "http://127.0.0.1:1337"
  chainId := 1
  version := 0
  requestTimeout := Binary64.ofRatio false 10 1
  pollInterval := Binary64.ofRatio false 3 1
  maxAttempts := 4
  validUntilMargin := Node.defaultMargin
  userAgent := product

theorem passChecks_default : default.PassChecks where
  url := .inr (by decide)
  chainId := by decide
  version := by decide
  margin := by decide
  attempts := by decide
  interval := by simp only [default, Binary64.isBelow_zero_ofRatio]

theorem areOf_default : default.AreOf {} := by
  refine ⟨.default, ?made, ?same⟩
  case made =>
    rw [policy, ReceiptPolicy.make_eq_ok_iff]
    simp [default, ReceiptPolicy.default, Binary64.isBelow_zero_ofRatio]
  case same => simp only [Values.settings, default]

/-- Settings with the values list them. -/
theorem listing_settings
    {policy : ReceiptPolicy}
    (made : values.policy = .ok policy) :
    (values.settings policy).listing = .ok (values.listing policy.maxAttempts) := by
  have interval := (ReceiptPolicy.make_eq_ok_iff.mp made).2.1
  have converted : policy.pollInterval.toBinary64 = .ok values.pollInterval := by
    rw [interval]
    rfl
  change (policy.pollInterval.toBinary64 >>= _) = _
  rw [converted]
  rfl

/-- The record of the listing is the record of the values. -/
theorem AreOf.exists_listing
    (areOf : values.AreOf settings) :
    ∃ listing, settings.listing = .ok listing ∧ listing.toRecord = values.toRecord := by
  obtain ⟨policy, made, rfl⟩ := areOf
  have attempts := (ReceiptPolicy.make_eq_ok_iff.mp made).2.2
  refine ⟨_, listing_settings made, ?_⟩
  simp [Listing.toRecord, toRecord, listing, attempts]

end Values

end Settings

end ChainClient
