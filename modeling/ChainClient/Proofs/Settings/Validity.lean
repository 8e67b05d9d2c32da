import ChainClient.Proofs.Settings.Consumers
import ChainClient.Proofs.Settings.Merging

/-!
# Valid settings

Settings come from the environment, from values, and from other settings by overriding. In each of
these ways a bad value is reported, or settings come out whose values pass the checks. Values that
pass the checks are valid if whoever is handed them takes them: the builders and the margin of a
transaction do, a poller does if its interval can be waited for, and a client does if its user agent
can be sent and the library that makes the exchanges takes the address and the timeout. The checks
do not ask for the last three, nor for an address and an interval that is a number.
-/

namespace ChainClient

/-- A number that is at least zero. -/
def Binary64.IsNonNegative (x : Binary64) : Prop :=
  x = .infinite false ∨ ∃ units, x.units? = some units ∧ 0 ≤ units

theorem Binary64.isBelow_zero_eq_false_iff
    {x : Binary64} :
    x.isBelow 0 = false ↔ x = .nan ∨ x.IsNonNegative := by
  cases x with
  | finite negative rank => simp [isBelow, IsNonNegative, units?]
  | infinite negative => simp [isBelow, IsNonNegative, units?]
  | nan => simp [isBelow, units?]

namespace Settings

variable
    {σ : Type}
    (library : Rpc.Library σ)

namespace Values

/-- What settings are meant to have: there is an address, the interval is a number that is not
negative, and whoever is handed the settings takes them. -/
structure AreValid (values : Values) : Prop extends values.PassChecks where
  addressed : hasWebScheme values.rpcUrl = true
  nonNegative : values.pollInterval.IsNonNegative
  taken : ∀ settings, values.AreOf settings → settings.AreTaken library

/-- What the checks do not ask for: there is an address, the interval is a number, it can be waited
for if there is a second poll, the user agent is ASCII text, and the library takes the requests. -/
structure AreUsable (values : Values) : Prop where
  addressed : values.rpcUrl ≠ []
  ordered : values.pollInterval ≠ .nan
  waitable : 1 < values.maxAttempts → Node.isTooLong values.pollInterval = false
  sendable : ∀ c ∈ values.userAgent, c.val < 0x80
  exchanged : library.Takes values.request

end Values

/-- The result is settings whose values are fine, or else a bad value is reported. -/
def Makes
    (fine : Values → Prop)
    (result : Except Misuse Settings) : Prop :=
  FailsOnlyWith Misuse.IsAboutValue result ∧
    ∀ settings, result = .ok settings → ∃ values : Values, fine values ∧ values.AreOf settings

namespace Makes

variable
    {fine : Values → Prop}

theorem bind
    {α : Type}
    {first : Except Misuse α}
    {next : α → Except Misuse Settings}
    (fails : FailsOnlyWith Misuse.IsAboutValue first)
    (makes : ∀ a, first = .ok a → Makes fine (next a)) :
    Makes fine (first >>= next) := by
  constructor
  · intro fault failed
    rcases bind_eq_error_iff.mp failed with failed | ⟨a, given, failed⟩
    · exact fails fault failed
    · exact (makes a given).1 fault failed
  · intro settings made
    obtain ⟨a, given, made⟩ := bind_eq_ok_iff.mp made
    exact (makes a given).2 settings made

theorem mono
    {result : Except Misuse Settings}
    {finer : Values → Prop}
    (makes : Makes finer result)
    (implies : ∀ {values}, finer values → fine values) :
    Makes fine result := by
  refine ⟨makes.1, fun settings made => ?_⟩
  obtain ⟨values, holds, areOf⟩ := makes.2 settings made
  exact ⟨values, implies holds, areOf⟩

/-- Values that are fine as they are make settings with these values, if any. -/
theorem of_values
    {values : Values}
    (holds : values.PassChecks → fine values) :
    Makes fine values.make := by
  refine ⟨values.failsOnlyWith_make, fun settings made => ?_⟩
  obtain ⟨pass, areOf⟩ := Values.make_eq_ok_iff.mp made
  exact ⟨values, holds pass, areOf⟩

end Makes

namespace Values

variable
    {values : Values}

/-- Settings have no other values. -/
theorem AreOf.unique
    {settings : Settings}
    {others : Values}
    (areOf : values.AreOf settings)
    (othersOf : others.AreOf settings) :
    values = others := by
  obtain ⟨listing, listed, record⟩ := areOf.exists_listing
  obtain ⟨sameListing, sameListed, otherRecord⟩ := othersOf.exists_listing
  cases listed.symm.trans sameListed
  exact toRecord_injective (record.symm.trans otherRecord)

/-- Values that pass the checks are valid exactly if they have what the checks do not ask for. -/
theorem PassChecks.areValid_iff
    (pass : values.PassChecks) :
    values.AreValid library ↔ values.AreUsable library := by
  constructor
  · intro valid
    obtain ⟨policy, made⟩ := pass.exists_policy
    have areOf : values.AreOf (values.settings policy) := ⟨policy, made, rfl⟩
    obtain ⟨waitable, sendable, takes⟩ := (pass.areTaken_iff library areOf).mp (valid.taken _ areOf)
    refine ⟨?_, ?_, waitable, sendable, takes⟩
    · intro empty
      have addressed := valid.addressed
      rw [empty] at addressed
      exact absurd addressed (by decide)
    · intro unordered
      have nonNegative := valid.nonNegative
      rw [unordered] at nonNegative
      simp [Binary64.IsNonNegative, Binary64.units?] at nonNegative
  · intro usable
    exact {
      pass with
      addressed := pass.url.resolve_left usable.addressed
      nonNegative :=
        (Binary64.isBelow_zero_eq_false_iff.mp pass.interval).resolve_left usable.ordered
      taken := fun _ areOf => (pass.areTaken_iff library areOf).mpr
        ⟨usable.waitable, usable.sendable, usable.exchanged⟩ }

end Values

theorem failsOnlyWith_orBadValue
    {α : Type}
    (value : Option α) :
    FailsOnlyWith Misuse.IsAboutValue (Datum.orBadValue value) :=
  fun fault failed => ⟨none, Datum.failsOnlyWith_orBadValue value fault failed⟩

section Variables

variable
    (given : Option Text)

/-- A chain number that is read from a variable is an integer. -/
theorem makes_chainNumber
    (fallback : Int) :
    FailsOnlyWith Misuse.IsAboutValue (chainNumber (.ofText? given) (.int fallback)) ∧
      ∀ value, chainNumber (.ofText? given) (.int fallback) = .ok value →
        ∃ n, value = .int n := by
  have integer : ∀ {result : Except Misuse Int} {value : Datum},
      Datum.int <$> result = .ok value → ∃ n, value = .int n := by
    intro result value made
    obtain ⟨n, -, rfl⟩ := map_eq_ok_iff.mp made
    exact ⟨n, rfl⟩
  rcases given with _ | _ | ⟨c, literal⟩
  · exact ⟨.ok _, fun _ => integer⟩
  · exact ⟨.ok _, fun _ => integer⟩
  · exact ⟨(failsOnlyWith_orBadValue _).map, fun _ => integer⟩

theorem failsOnlyWith_number (fallback : Binary64) :
    FailsOnlyWith Misuse.IsAboutValue (valueOr given (.float fallback)).toBinary64 := by
  cases given with
  | none => exact .ok fallback
  | some literal => exact failsOnlyWith_orBadValue _

theorem failsOnlyWith_integer (fallback : Int) :
    FailsOnlyWith Misuse.IsAboutValue (valueOr given (.int fallback)).toInt := by
  cases given with
  | none => exact .ok fallback
  | some literal => exact failsOnlyWith_orBadValue _

/-- What stands for a variable is text that is not empty. -/
theorem exists_nonEmpty
    {fallback : Text}
    (nonempty : fallback ≠ []) :
    ∃ t, nonEmpty given (.text fallback) = .text t ∧ t ≠ [] := by
  rcases given with _ | _ | ⟨c, rest⟩
  · exact ⟨fallback, rfl, nonempty⟩
  · exact ⟨fallback, rfl, nonempty⟩
  · exact ⟨c :: rest, rfl, List.cons_ne_nil c rest⟩

end Variables

/-- Settings from the environment have an address. -/
theorem makes_ofEnvironment
    (environment : Environment)
    (family : Text) :
    Makes (fun values => values.PassChecks ∧ values.rpcUrl ≠ [])
      (ofEnvironment environment family) := by
  unfold ofEnvironment
  refine .bind (makes_chainNumber _ _).1 fun chainId chainIdRead => ?_
  obtain ⟨chainId, rfl⟩ := (makes_chainNumber _ _).2 _ chainIdRead
  refine .bind (makes_chainNumber _ _).1 fun version versionRead => ?_
  obtain ⟨version, rfl⟩ := (makes_chainNumber _ _).2 _ versionRead
  refine .bind (failsOnlyWith_number _ _) fun timeout _ => ?_
  refine .bind (failsOnlyWith_number _ _) fun interval _ => ?_
  refine .bind (failsOnlyWith_integer _ _) fun attempts _ => ?_
  refine .bind (failsOnlyWith_integer _ _) fun margin _ => ?_
  obtain ⟨url, urlRead, addressed⟩ := exists_nonEmpty (environment (family ++ "RPC_URL"))
    (show Text.ofString "http://127.0.0.1:1337" ≠ [] by decide)
  obtain ⟨agent, agentRead, -⟩ := exists_nonEmpty (environment (family ++ "USER_AGENT"))
    (show product ≠ [] by decide)
  let values : Values :=
    ⟨url, chainId, version, timeout, interval, attempts, margin, agent⟩
  have made : Makes (fun values => values.PassChecks ∧ values.rpcUrl ≠ []) values.make :=
    .of_values fun pass => ⟨pass, addressed⟩
  rw [urlRead, agentRead]
  exact made

/-- The values are those of the variables of a family. For a variable that is not set there is the
value of a caller who gives none. -/
structure Values.AreRead
    (values : Values)
    (environment : Environment)
    (family : Text) : Prop where
  url :
    nonEmpty (environment (family ++ "RPC_URL")) (.text default.rpcUrl) = .text values.rpcUrl
  chainId :
    chainNumber (.ofText? (environment (family ++ "CHAIN_ID"))) (.int default.chainId) =
      .ok (.int values.chainId)
  version :
    chainNumber (.ofText? (environment (family ++ "VERSION"))) (.int default.version) =
      .ok (.int values.version)
  timeout :
    (valueOr (environment (family ++ "TIMEOUT")) (.float default.requestTimeout)).toBinary64 =
      .ok values.requestTimeout
  interval :
    (valueOr (environment (family ++ "POLL_INTERVAL")) (.float default.pollInterval)).toBinary64 =
      .ok values.pollInterval
  attempts :
    (valueOr (environment (family ++ "MAX_ATTEMPTS")) (.int default.maxAttempts)).toInt =
      .ok values.maxAttempts
  margin :
    (valueOr (environment (family ++ "VALID_UNTIL_MARGIN")) (.int default.validUntilMargin)).toInt =
      .ok values.validUntilMargin
  agent :
    nonEmpty (environment (family ++ "USER_AGENT")) (.text default.userAgent) =
      .text values.userAgent

theorem Values.AreRead.ofEnvironment_eq
    {values : Values}
    {environment : Environment}
    {family : Text}
    (read : values.AreRead environment family) :
    ofEnvironment environment family = values.make := by
  obtain ⟨url, chainId, version, timeout, interval, attempts, margin, agent⟩ := read
  simp only [Values.default] at url chainId version timeout interval attempts margin agent
  simp only [ofEnvironment, ReceiptPolicy.default, url, chainId, version, timeout, interval,
    Nat.cast_ofNat, attempts, margin, agent]
  rfl

/-- Settings that are made are valid unless they lack what the checks do not ask for. -/
theorem Makes.areValid_iff
    {result : Except Misuse Settings}
    (makes : Makes Values.PassChecks result) :
    Makes (Values.AreValid library) result ↔
      ∀ settings, result = .ok settings → ∀ values : Values, values.AreOf settings →
        values.AreUsable library := by
  constructor
  · rintro ⟨-, valid⟩ settings made values areOf
    obtain ⟨others, othersValid, othersOf⟩ := valid settings made
    rw [areOf.unique othersOf]
    exact (othersValid.toPassChecks.areValid_iff library).mp othersValid
  · intro usable
    refine ⟨makes.1, fun settings made => ?_⟩
    obtain ⟨values, pass, areOf⟩ := makes.2 settings made
    exact ⟨values, (pass.areValid_iff library).mpr (usable settings made values areOf), areOf⟩

/-- The ways to settings. -/
inductive Origin where
  | read (environment : Environment) (family : Text)
  | given (values : Values)
  | overriding (base : Settings) (overrides : Overrides)
  | readOverriding (environment : Environment) (overrides : Overrides)

namespace Origin

/-- What is made in this way. -/
def result : Origin → Except Misuse Settings
  | read environment family => ofEnvironment environment family
  | given values => values.make
  | overriding base overrides => withOverrides base overrides
  | readOverriding environment overrides => ofEnvironmentWith environment overrides

/-- Every value that is given is of its kind. Variables may have any text. -/
def IsTyped : Origin → Prop
  | read _ _ | given _ => True
  | overriding base overrides => base.IsTyped ∧ overrides.AreTyped
  | readOverriding _ overrides => overrides.AreTyped

/-- Something is given under the name of a parameter. -/
def Clashes : Origin → Prop
  | read _ _ | given _ => False
  | overriding _ overrides | readOverriding _ overrides => overrides.Clashes

variable
    {origin : Origin}

theorem result_of_clashes
    (clashes : origin.Clashes) :
    origin.result = .error (.wrongKind none) := by
  cases origin with
  | read _ _ | given _ => exact clashes.elim
  | overriding base overrides => exact withOverrides_of_clashes base clashes
  | readOverriding environment overrides => exact ofEnvironmentWith_of_clashes environment clashes

theorem makes_replacing
    {base : Settings}
    {overrides : Overrides}
    (baseTyped : base.IsTyped)
    (overridesTyped : overrides.AreTyped) :
    Makes Values.PassChecks (replacing base overrides) := by
  obtain ⟨values, areOf⟩ := baseTyped
  obtain ⟨merged, -, same⟩ := replacing_eq_make areOf overridesTyped
  rw [same]
  exact .of_values id

theorem makes_passing
    (typed : origin.IsTyped)
    (apart : ¬ origin.Clashes) :
    Makes Values.PassChecks origin.result := by
  cases origin with
  | read environment family => exact (makes_ofEnvironment environment family).mono And.left
  | given values => exact .of_values id
  | overriding base overrides =>
      rw [result, withOverrides_of_not_clashes base apart]
      exact makes_replacing typed.1 typed.2
  | readOverriding environment overrides =>
      rw [result, ofEnvironmentWith_of_not_clashes environment apart]
      have makes := makes_ofEnvironment environment defaultFamily
      refine .bind makes.1 fun base read => ?_
      obtain ⟨values, -, areOf⟩ := makes.2 base read
      exact makes_replacing ⟨values, areOf⟩ typed

/-- Settings are made of values that pass the checks unless a name clashes. -/
theorem makes_passing_iff
    (typed : origin.IsTyped) :
    Makes Values.PassChecks origin.result ↔ ¬ origin.Clashes := by
  constructor
  · intro makes clashes
    obtain ⟨note, about⟩ := makes.1 _ (result_of_clashes clashes)
    cases about
  · exact makes_passing typed

/-- A way to settings on which no name clashes ends in a bad value or in settings whose values pass
the checks, and these are valid exactly if there is an address, the interval is a number that can be
waited for, the user agent is ASCII text, and the library takes the requests. From the environment
there always is an address, and values make settings exactly if they pass the checks. Builders and
the bound of a transaction take the values, a poller does if the interval can be waited for or there
is no second poll, and a client does if the user agent is ASCII text; its requests go where the
values say. -/
theorem makes_valid_iff
    (typed : origin.IsTyped) :
    (origin.Clashes → origin.result = .error (.wrongKind none)) ∧
      (Makes Values.PassChecks origin.result ↔ ¬ origin.Clashes) ∧
      (Makes (Values.AreValid library) origin.result ↔
        ¬ origin.Clashes ∧ ∀ settings, origin.result = .ok settings →
          ∀ values : Values, values.AreOf settings → values.AreUsable library) ∧
      (∀ environment family, origin = .read environment family →
        Makes (fun values => values.rpcUrl ≠ []) origin.result) ∧
      (∀ values, origin = .given values →
        ((∃ settings, origin.result = .ok settings) ↔ values.PassChecks)) ∧
      ∀ settings, origin.result = .ok settings → ∀ values : Values, values.AreOf settings →
        (∀ builder : Transaction.Builder,
          builder.Accepts .chainId settings.chainId ∧ builder.Accepts .version settings.version) ∧
        Transaction.requireInt "margin" 1 Node.maxMargin settings.validUntilMargin =
          .ok values.validUntilMargin ∧
        (∃ policy, settings.receipt = some policy ∧
          (Confirmation.EndsEveryWait policy ↔
            (1 < values.maxAttempts → Node.isTooLong values.pollInterval = false))) ∧
        ((∃ client, settings.client = .ok client) ↔ ∀ c ∈ values.userAgent, c.val < 0x80) ∧
        ∀ client, settings.client = .ok client → client.request = values.request := by
  refine ⟨result_of_clashes, makes_passing_iff typed, ⟨?valid, ?usable⟩, ?read, ?given,
    ?consumers⟩
  case valid =>
    intro valid
    have makes : Makes Values.PassChecks origin.result := valid.mono Values.AreValid.toPassChecks
    exact ⟨(makes_passing_iff typed).mp makes, (makes.areValid_iff library).mp valid⟩
  case usable =>
    rintro ⟨apart, usable⟩
    exact ((makes_passing typed apart).areValid_iff library).mpr usable
  case read =>
    rintro environment family rfl
    exact (makes_ofEnvironment environment family).mono And.right
  case given =>
    rintro values rfl
    exact Values.exists_make_iff
  case consumers =>
    intro settings made values areOf
    have apart : ¬ origin.Clashes := by
      intro clashes
      rw [result_of_clashes clashes] at made
      cases made
    obtain ⟨others, pass, othersOf⟩ := (makes_passing typed apart).2 settings made
    rw [areOf.unique othersOf]
    obtain ⟨policy, policyMade, rfl⟩ := othersOf
    obtain ⟨builders, margin⟩ := pass.builders_accept
    exact ⟨builders, margin, ⟨policy, rfl, Values.endsEveryWait_policy_iff policyMade⟩,
      Values.exists_client_iff policy, fun _ => Values.request_of_client⟩

end Origin

/-- A library that keeps no time below zero, no time that is not a number and none that is too long,
and otherwise finds no way to the node. -/
def unroutedLibrary : Rpc.Library Unit
  | ⟨_, .float timeout, _, _⟩, state =>
      if timeout.isBelow 0 ∨ timeout = .nan then (.error (.other (.badValue none)), state)
      else if Node.isTooLong timeout then (.error (.other .tooLarge), state)
      else (.error (.network "no route to the node"), state)
  | _, state => (.error (.other (.wrongKind none)), state)

/-- Most variables are set: the chain in hexadecimal, and the polls with a separator. -/
def mixedVariables : Environment := fun name =>
  [(Text.ofString "CITA_RPC_URL", Text.ofString "HTTPS://node"), ("CITA_CHAIN_ID", "0x1F"),
    ("CITA_VERSION", "1"), ("CITA_TIMEOUT", "2.5"), ("CITA_POLL_INTERVAL", "0.5"),
    ("CITA_MAX_ATTEMPTS", " 1_0"), ("CITA_USER_AGENT", "cli/1")].lookup name

/-- What these variables tell. -/
def mixedValues : Values where
  rpcUrl := "HTTPS://node"
  chainId := 31
  version := 1
  requestTimeout := .ofRatio false 5 2
  pollInterval := .ofRatio false 1 2
  maxAttempts := 10
  validUntilMargin := Node.defaultMargin
  userAgent := "cli/1"

theorem areRead_mixed : mixedValues.AreRead mixedVariables defaultFamily where
  url := rfl
  chainId := rfl
  version := rfl
  timeout := by decide +kernel
  interval := by decide +kernel
  attempts := by decide +kernel
  margin := by decide
  agent := rfl

/-- Another version and a shorter interval, and a name that settings do not have. -/
def mixedOverrides : Overrides where
  entries :=
    [("version", .int 2), ("poll_interval", .float (.ofRatio false 1 4)), ("color", .text "green")]

/-- What these variables tell when they are overridden. -/
def overriddenValues : Values :=
  { mixedValues with version := 2, pollInterval := .ofRatio false 1 4 }

theorem passChecks_mixed : mixedValues.PassChecks where
  url := .inr (by decide)
  chainId := by decide
  version := by decide
  margin := by decide
  attempts := by decide
  interval := by simp only [mixedValues, Binary64.isBelow_zero_ofRatio]

theorem passChecks_overridden : overriddenValues.PassChecks :=
  { passChecks_mixed with
    version := by decide
    interval := by simp only [overriddenValues, Binary64.isBelow_zero_ofRatio] }

theorem result_mixedOverrides :
    Origin.result (.readOverriding mixedVariables mixedOverrides) = overriddenValues.make := by
  have same : overriddenValues.toRecord = mixedValues.toRecord.update mixedOverrides.entries := by
    simp [overriddenValues, mixedOverrides, Values.toRecord, Entries.update, Entries.get?,
      Text.ofString_inj]
  have apart : ¬ mixedOverrides.Clashes := by decide
  obtain ⟨base, made⟩ := Values.exists_make_iff.mpr passChecks_mixed
  rw [Origin.result, ofEnvironmentWith_of_not_clashes mixedVariables apart,
    areRead_mixed.ofEnvironment_eq, made]
  exact replacing_entries (Values.make_eq_ok_iff.mp made).2 same

theorem areUsable_overridden : overriddenValues.AreUsable unroutedLibrary where
  addressed := by decide
  ordered := by decide +kernel
  waitable := fun _ => by decide +kernel
  sendable := Rpc.checkHeaderText_eq_ok_iff.mp (by decide)
  exchanged := by
    intro body state misuse
    have kept : ¬ (overriddenValues.requestTimeout.isBelow 0 ∨
        overriddenValues.requestTimeout = .nan) := by decide +kernel
    have short : Node.isTooLong overriddenValues.requestTimeout = false := by decide +kernel
    simp [Values.request, unroutedLibrary, kept, short]

/-- Most variables are set, some of them are overridden, and a name is given that means nothing. -/
theorem Origin.makes_valid_iff_mixed :
    Origin.IsTyped (.readOverriding mixedVariables mixedOverrides) ∧
      (∃ settings,
        Origin.result (.readOverriding mixedVariables mixedOverrides) = .ok settings ∧
        overriddenValues.AreOf settings) ∧
      Makes (Values.AreValid unroutedLibrary)
        (Origin.result (.readOverriding mixedVariables mixedOverrides)) := by
  have typed : Origin.IsTyped (.readOverriding mixedVariables mixedOverrides) :=
    ⟨by simp [mixedOverrides, RespectsKinds, kinds, Entries.get?, Text.ofString_inj, Kind.Has],
      nofun⟩
  have apart : ¬ Origin.Clashes (.readOverriding mixedVariables mixedOverrides) :=
    show ¬ mixedOverrides.Clashes by decide
  obtain ⟨settings, made⟩ := Values.exists_make_iff.mpr passChecks_overridden
  have areOf := (Values.make_eq_ok_iff.mp made).2
  rw [← result_mixedOverrides] at made
  obtain ⟨-, -, valid_iff, -⟩ := Origin.makes_valid_iff unroutedLibrary typed
  refine ⟨typed, ⟨settings, made, areOf⟩, valid_iff.mpr ⟨apart, ?_⟩⟩
  intro others othersMade values valuesOf
  cases made.symm.trans othersMade
  rw [valuesOf.unique areOf]
  exact areUsable_overridden

/-- One variable is set, and it tells an interval that is not a number. -/
def unorderedInterval : Environment := fun name =>
  if name = Text.ofString "CITA_POLL_INTERVAL" then some (Text.ofString "nan") else none

theorem areRead_unorderedInterval :
    Values.AreRead { Values.default with pollInterval := .nan } unorderedInterval
      defaultFamily where
  url := rfl
  chainId := rfl
  version := rfl
  timeout := by decide +kernel
  interval := by decide +kernel
  attempts := by decide
  margin := by decide
  agent := rfl

section Invalid

variable
    {values : Values}

/-- An interval that is not a number passes the checks. -/
theorem Values.PassChecks.unordered
    (pass : values.PassChecks) :
    Values.PassChecks { values with pollInterval := .nan } :=
  { pass with interval := rfl }

/-- No address passes the checks. -/
theorem Values.PassChecks.nowhere
    (pass : values.PassChecks) :
    Values.PassChecks { values with rpcUrl := [] } :=
  { pass with url := .inl rfl }

/-- An interval without an end passes the checks. -/
theorem Values.PassChecks.endless
    (pass : values.PassChecks) :
    Values.PassChecks { values with pollInterval := .infinite false } :=
  { pass with interval := rfl }

theorem not_makes_valid
    (pass : values.PassChecks)
    (lacks : ¬ values.AreUsable library) :
    ¬ Makes (Values.AreValid library) values.make := by
  intro valid
  obtain ⟨settings, made⟩ := Values.exists_make_iff.mpr pass
  have areOf := (Values.make_eq_ok_iff.mp made).2
  have makes : Makes Values.PassChecks values.make := .of_values id
  exact lacks ((makes.areValid_iff library).mp valid settings made values areOf)

end Invalid

/-- Not all settings are valid: a variable may tell an interval that is not a number, there may be
no address, and an interval may have no end. -/
theorem not_all_made_valid :
    (¬ ∀ environment family,
      Makes (Values.AreValid unroutedLibrary) (ofEnvironment environment family)) ∧
    ¬ Makes (Values.AreValid unroutedLibrary) (Values.make { Values.default with rpcUrl := [] }) ∧
    ¬ Makes (Values.AreValid unroutedLibrary)
      (Values.make { Values.default with pollInterval := .infinite false }) := by
  have pass := Values.passChecks_default
  refine ⟨?unordered, ?nowhere, ?endless⟩
  case unordered =>
    intro valid
    have makes := valid unorderedInterval defaultFamily
    rw [areRead_unorderedInterval.ofEnvironment_eq] at makes
    exact not_makes_valid unroutedLibrary pass.unordered (fun usable => usable.ordered rfl) makes
  case nowhere =>
    exact not_makes_valid unroutedLibrary pass.nowhere fun usable => usable.addressed rfl
  case endless =>
    refine not_makes_valid unroutedLibrary pass.endless fun usable => ?_
    have short := usable.waitable (by decide)
    cases short

end Settings

end ChainClient
