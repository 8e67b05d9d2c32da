import ChainClient.Proofs.Settings.Values

/-!
# Overriding as merging

Settings with overrides are the settings of one record: the listing of the first settings, with the
policy that is given in its place, and then with every value that is given in its place. What is
given later wins, so overriding twice is overriding once by everything that is given.
-/

namespace ChainClient

namespace Entries

/-- Every value for which another one is given is replaced by it. -/
def update (entries others : Entries) : Entries :=
  entries.map fun entry => (entry.1, (others.get? entry.1).getD entry.2)

/-- Everything that is given, first or later; what is given later wins. -/
def extend (entries others : Entries) : Entries :=
  entries.update others ++ others.filter fun entry => (entries.get? entry.1).isNone

variable
    (entries others : Entries)

@[simp] theorem update_nil : entries.update [] = entries := by
  simp [update]

theorem get?_update (key : Text) :
    (entries.update others).get? key =
      (entries.get? key).map fun value => (others.get? key).getD value := by
  induction entries with
  | nil => rfl
  | cons entry entries inductionHypothesis =>
      obtain ⟨name, value⟩ := entry
      change (if name = key then _ else get? key (update entries others)) =
        (if name = key then _ else get? key entries).map _
      by_cases same : name = key
      · simp [same]
      · simp [same, inductionHypothesis]

theorem get?_append (key : Text) :
    get? key (entries ++ others) = (entries.get? key).or (others.get? key) := by
  induction entries with
  | nil => rfl
  | cons entry entries inductionHypothesis =>
      obtain ⟨name, value⟩ := entry
      change (if name = key then _ else get? key (entries ++ others)) =
        (if name = key then _ else get? key entries).or _
      by_cases same : name = key
      · simp [same]
      · simp [same, inductionHypothesis]

theorem get?_filter_of_keeps
    (keep : Text → Bool)
    {key : Text}
    (keeps : keep key = true) :
    get? key (others.filter fun entry => keep entry.1) = others.get? key := by
  induction others with
  | nil => rfl
  | cons entry others inductionHypothesis =>
      obtain ⟨name, value⟩ := entry
      by_cases same : name = key
      · subst same
        simp [keeps, get?]
      · by_cases kept : keep name = true
        · simp [kept, get?, same, inductionHypothesis]
        · simp [kept, get?, same, inductionHypothesis]

/-- What is found under a name is what was given for it last. -/
theorem get?_extend (key : Text) :
    (entries.extend others).get? key = (others.get? key).or (entries.get? key) := by
  rw [extend, get?_append, get?_update]
  cases found : entries.get? key with
  | some value => cases others.get? key <;> rfl
  | none =>
      have keeps : (entries.get? key).isNone = true := Option.isNone_iff_eq_none.mpr found
      rw [get?_filter_of_keeps others (fun name => (entries.get? name).isNone) keeps]
      simp

/-- Updating twice is updating once by everything that is given. -/
theorem update_update (later : Entries) :
    (entries.update others).update later = entries.update (others.extend later) := by
  simp only [update, List.map_map]
  refine List.map_congr_left fun entry _ => ?_
  simp only [Function.comp_apply, get?_extend]
  cases later.get? entry.1 <;> rfl

end Entries

namespace Settings

/-- What is given under a name of settings is of its kind. Other names may have any value. -/
def RespectsKinds (entries : Entries) : Prop :=
  ∀ expected ∈ kinds, ∀ value, entries.get? expected.1 = some value → expected.2.Has value

theorem RespectsKinds.extend
    {first second : Entries}
    (firstRespects : RespectsKinds first)
    (secondRespects : RespectsKinds second) :
    RespectsKinds (first.extend second) := by
  intro expected among value given
  rw [Entries.get?_extend, Option.or_eq_some_iff] at given
  rcases given with given | ⟨-, given⟩
  · exact secondRespects expected among value given
  · exact firstRespects expected among value given

/-- A record keeps its names and kinds if what is given has the kinds. -/
theorem forall₂_fits_update
    {expected : List (Text × Kind)}
    {record entries : Entries}
    (fits : List.Forall₂ Fits record expected)
    (given : ∀ wanted ∈ expected, ∀ value, entries.get? wanted.1 = some value →
      wanted.2.Has value) :
    List.Forall₂ Fits (record.update entries) expected := by
  induction fits with
  | nil => exact .nil
  | @cons entry wanted record expected fit fits inductionHypothesis =>
      obtain ⟨first, others⟩ := List.forall_mem_cons.mp given
      obtain ⟨value, has, rfl⟩ := fit
      refine .cons ⟨_, ?_, rfl⟩ (inductionHypothesis others)
      cases found : entries.get? wanted.1 with
      | none => exact has
      | some other => exact first other found

namespace Values

variable
    {values : Values}
    {entries : Entries}

/-- Values of which some are replaced are values. -/
theorem exists_update
    (values : Values)
    (respects : RespectsKinds entries) :
    ∃ updated : Values, updated.toRecord = values.toRecord.update entries :=
  exists_toRecord_eq (forall₂_fits_update values.forall₂_fits_toRecord respects)

end Values

/-- The settings of a record: the policy is made of its two values, and then the whole is made. -/
def ofRecord (record : Entries) : Except Misuse Settings := do
  let policy ← ReceiptPolicy.make (record.getD "poll_interval") (record.getD "max_attempts")
  make {
    rpcUrl := record.getD "rpc_url"
    chainId := record.getD "chain_id"
    version := record.getD "version"
    requestTimeout := record.getD "request_timeout"
    receipt := some policy
    validUntilMargin := record.getD "valid_until_margin"
    userAgent := record.getD "user_agent" }

theorem ofRecord_toRecord (values : Values) :
    ofRecord values.toRecord = values.make := by
  simp [ofRecord, Values.toRecord, Entries.getD, Entries.get?, Text.ofString_inj]
  rfl

namespace Overrides

/-- What is given respects the kinds, and a policy that is given has been made of its values. -/
structure AreTyped (overrides : Overrides) : Prop where
  entries : RespectsKinds overrides.entries
  receipt : ∀ given, overrides.receipt = some given →
    ∃ interval attempts policy,
      ReceiptPolicy.make (.float interval) (.int attempts) = .ok policy ∧ given = some policy

/-- Something is given under the name of a parameter. -/
def Clashes (overrides : Overrides) : Prop :=
  ∃ name ∈ parameterNames, (overrides.entries.get? name).isSome = true

instance : DecidablePred Clashes := fun overrides =>
  inferInstanceAs (Decidable (∃ name ∈ parameterNames, (overrides.entries.get? name).isSome = true))

theorem checkNames_of_clashes
    {overrides : Overrides}
    (clashes : overrides.Clashes) :
    overrides.checkNames = .error (.wrongKind none) :=
  if_pos (List.any_eq_true.mpr clashes)

theorem checkNames_eq_ok_iff
    {overrides : Overrides} :
    overrides.checkNames = .ok () ↔ ¬ overrides.Clashes := by
  constructor
  · intro passed clashes
    rw [checkNames_of_clashes clashes] at passed
    cases passed
  · intro apart
    exact if_neg (mt List.any_eq_true.mp apart)

/-- Everything that is given, first or later, with the policy that is given first. -/
def extend (first second : Overrides) : Overrides where
  entries := first.entries.extend second.entries
  receipt := first.receipt

theorem clashes_extend_iff
    {first second : Overrides} :
    (first.extend second).Clashes ↔ first.Clashes ∨ second.Clashes := by
  simp only [Clashes, extend, Entries.get?_extend, Option.isSome_or, Bool.or_eq_true, and_or_left,
    exists_or]
  exact or_comm

/-- The values of the policy that is given. -/
def policyEntries (overrides : Overrides) : Entries :=
  match overrides.receipt with
  | some (some policy) =>
      [("poll_interval", policy.pollInterval), ("max_attempts", .int policy.maxAttempts)]
  | _ => []

/-- A record with the values of the policy that is given, and then with every other value that is
given. -/
def mergedInto
    (overrides : Overrides)
    (record : Entries) : Entries :=
  (record.update overrides.policyEntries).update overrides.entries

end Overrides

variable
    {base : Settings}
    {overrides : Overrides}

/-- A policy that is given as a whole may stand in the first settings as well. -/
theorem replacing_receipt
    {values : Values}
    (areOf : values.AreOf base)
    (typed : overrides.AreTyped) :
    ∃ given : Values,
      given.toRecord = values.toRecord.update overrides.policyEntries ∧
      ∃ settings, given.AreOf settings ∧
        replacing base overrides = replacing settings { entries := overrides.entries } := by
  obtain ⟨entries, receipt⟩ := overrides
  cases receipt with
  | none => exact ⟨values, (Entries.update_nil _).symm, base, areOf, rfl⟩
  | some whole =>
      obtain ⟨interval, attempts, policy, made, rfl⟩ := typed.receipt whole rfl
      obtain ⟨former, formerMade, rfl⟩ := areOf
      obtain ⟨-, interval_eq, attempts_eq⟩ := ReceiptPolicy.make_eq_ok_iff.mp made
      let given := { values with pollInterval := interval, maxAttempts := attempts }
      refine ⟨given, ?_, given.settings policy, ⟨policy, made, rfl⟩, ?_⟩
      · simp [given, Values.toRecord, Entries.update, Overrides.policyEntries, Entries.get?,
          Text.ofString_inj, interval_eq, attempts_eq]
      · have listed : (given.settings policy).listing = _ := Values.listing_settings made
        rw [replacing, replacing, Values.listing_settings formerMade, listed]
        rfl

/-- An identifier that is given as an integer is taken as it is. -/
theorem Overrides.chainId_eq_ok
    {entries : Entries}
    {listed n : Int}
    (given : (entries.get? "chain_id").getD (.int listed) = .int n) :
    Overrides.chainId { entries := entries } base listed = .ok (.int n) := by
  rw [Overrides.chainId]
  cases found : entries.get? "chain_id" with
  | none =>
      rw [found] at given
      exact congrArg Except.ok given
  | some value =>
      rw [found] at given
      cases given
      rfl

/-- The policy is made again of its values, of which some may be given. -/
theorem Overrides.policy_eq
    {entries : Entries}
    {policy : ReceiptPolicy}
    {formerInterval interval : Binary64}
    {formerAttempts attempts : Int}
    (formerMade :
      ReceiptPolicy.make (.float formerInterval) (.int formerAttempts) = .ok policy)
    (has : base.receipt = some policy)
    (intervalGiven :
      (entries.get? "poll_interval").getD (.float formerInterval) = .float interval)
    (attemptsGiven : (entries.get? "max_attempts").getD (.int formerAttempts) = .int attempts) :
    Overrides.policy { entries := entries } base =
      some <$> ReceiptPolicy.make (.float interval) (.int attempts) := by
  obtain ⟨-, interval_eq, attempts_eq⟩ := ReceiptPolicy.make_eq_ok_iff.mp formerMade
  by_cases gives : Overrides.givesPolicyPart { entries := entries } = true
  · simp only [Overrides.policy, gives, if_true, Option.getD_none, has, Overrides.policyParts,
      Overrides.value, interval_eq, attempts_eq, intervalGiven, attemptsGiven]
    rfl
  · simp only [Overrides.policy, gives, Option.getD_none, has]
    simp only [Overrides.givesPolicyPart, Bool.or_eq_true, Option.isSome_iff_ne_none, not_or,
      not_not] at gives
    rw [gives.1] at intervalGiven
    rw [gives.2] at attemptsGiven
    cases intervalGiven
    cases attemptsGiven
    rw [formerMade]
    rfl

/-- Values that are given one by one stand in the place of those in the listing. -/
theorem replacing_entries
    {values updated : Values}
    {entries : Entries}
    (areOf : values.AreOf base)
    (same : updated.toRecord = values.toRecord.update entries) :
    replacing base { entries := entries } = updated.make := by
  obtain ⟨policy, made, rfl⟩ := areOf
  simp only [Values.toRecord, Entries.update, List.map_cons, List.map_nil, List.cons.injEq,
    Prod.mk.injEq, true_and, and_true] at same
  obtain ⟨url, chain, version, timeout, interval, attempts, margin, agent⟩ := same
  rw [replacing, Values.listing_settings made]
  simp only [bind, Except.bind, Values.listing]
  rw [Overrides.chainId_eq_ok chain.symm,
    Overrides.policy_eq made rfl interval.symm attempts.symm]
  simp only [Overrides.value, ← url, ← version, ← timeout, ← margin, ← agent, Values.make]
  unfold Values.policy
  cases ReceiptPolicy.make (.float updated.pollInterval) (.int updated.maxAttempts) <;> rfl

/-- Settings with overrides are made of the merged values. -/
theorem replacing_eq_make
    {values : Values}
    (areOf : values.AreOf base)
    (typed : overrides.AreTyped) :
    ∃ merged : Values, merged.toRecord = overrides.mergedInto values.toRecord ∧
      replacing base overrides = merged.make := by
  obtain ⟨given, givenRecord, settings, givenOf, same⟩ := replacing_receipt areOf typed
  obtain ⟨merged, mergedRecord⟩ := given.exists_update typed.entries
  refine ⟨merged, ?_, same.trans (replacing_entries givenOf mergedRecord)⟩
  rw [mergedRecord, givenRecord]
  rfl

/-- No value has the name of a parameter. -/
theorem Values.not_clashes_toRecord (values : Values) :
    ¬ Overrides.Clashes { entries := values.toRecord } := by
  simp [Overrides.Clashes, Overrides.parameterNames, toRecord, Entries.get?, Text.ofString_inj]

/-- Every value may be given. -/
theorem Values.update_toRecord (values others : Values) :
    values.toRecord.update others.toRecord = others.toRecord := by
  simp [Entries.update, toRecord, Entries.get?, Text.ofString_inj]

/-- Values that are replaced twice are replaced once by everything that is given, unless the second
time a whole policy is given. -/
theorem replacing_replacing
    {first second : Overrides}
    {result : Settings}
    (typed : base.IsTyped)
    (firstTyped : first.AreTyped)
    (secondTyped : second.AreTyped)
    (partwise : second.receipt = none)
    (made : replacing base first = .ok result) :
    replacing result second = replacing base (first.extend second) := by
  obtain ⟨values, areOf⟩ := typed
  obtain ⟨merged, mergedRecord, firstEq⟩ := replacing_eq_make areOf firstTyped
  have mergedOf : merged.AreOf result :=
    (Values.make_eq_ok_iff.mp (firstEq.symm.trans made)).2
  obtain ⟨twice, twiceRecord, secondEq⟩ := replacing_eq_make mergedOf secondTyped
  have bothTyped : (first.extend second).AreTyped :=
    ⟨firstTyped.entries.extend secondTyped.entries, firstTyped.receipt⟩
  obtain ⟨once, onceRecord, bothEq⟩ := replacing_eq_make areOf bothTyped
  have none_entries : second.policyEntries = [] := by
    rw [Overrides.policyEntries, partwise]
  have same : twice.toRecord = once.toRecord := calc
    twice.toRecord
      = ((values.toRecord.update first.policyEntries).update first.entries).update
          second.entries := by
        rw [twiceRecord, Overrides.mergedInto, none_entries, Entries.update_nil, mergedRecord]
        rfl
    _ = (values.toRecord.update first.policyEntries).update
          (first.entries.extend second.entries) := Entries.update_update _ _ _
    _ = once.toRecord := onceRecord.symm
  rw [secondEq, bothEq, Values.toRecord_injective same]

/-! ## Names of parameters -/

theorem withOverrides_of_not_clashes
    (base : Settings)
    (apart : ¬ overrides.Clashes) :
    withOverrides base overrides = replacing base overrides := by
  rw [withOverrides, Overrides.checkNames_eq_ok_iff.mpr apart]
  rfl

theorem withOverrides_of_clashes
    (base : Settings)
    (clashes : overrides.Clashes) :
    withOverrides base overrides = .error (.wrongKind none) := by
  rw [withOverrides, Overrides.checkNames_of_clashes clashes]
  rfl

theorem ofEnvironmentWith_of_not_clashes
    (environment : Environment)
    (apart : ¬ overrides.Clashes) :
    ofEnvironmentWith environment overrides =
      ofEnvironment environment defaultFamily >>= fun base => replacing base overrides := by
  rw [ofEnvironmentWith, Overrides.checkNames_eq_ok_iff.mpr apart]
  rfl

theorem ofEnvironmentWith_of_clashes
    (environment : Environment)
    (clashes : overrides.Clashes) :
    ofEnvironmentWith environment overrides = .error (.wrongKind none) := by
  rw [ofEnvironmentWith, Overrides.checkNames_of_clashes clashes]
  rfl

theorem not_clashes_of_eq_ok
    {result : Settings}
    (made : withOverrides base overrides = .ok result) :
    ¬ overrides.Clashes := by
  intro clashes
  rw [withOverrides_of_clashes base clashes] at made
  cases made

/-- Settings that are overridden twice are overridden once by everything that is given, unless the
second time a whole policy is given. -/
theorem withOverrides_withOverrides
    {first second : Overrides}
    {result : Settings}
    (typed : base.IsTyped)
    (firstTyped : first.AreTyped)
    (secondTyped : second.AreTyped)
    (partwise : second.receipt = none)
    (made : withOverrides base first = .ok result) :
    withOverrides result second = withOverrides base (first.extend second) := by
  have apart := not_clashes_of_eq_ok made
  rw [withOverrides_of_not_clashes base apart] at made
  have same := replacing_replacing typed firstTyped secondTyped partwise made
  by_cases clashes : second.Clashes
  · rw [withOverrides_of_clashes result clashes,
      withOverrides_of_clashes base (Overrides.clashes_extend_iff.mpr (.inr clashes))]
  · have both : ¬ (first.extend second).Clashes :=
      mt Overrides.clashes_extend_iff.mp (not_or_intro apart clashes)
    rw [withOverrides_of_not_clashes result clashes, withOverrides_of_not_clashes base both, same]

/-- Overriding is merging, unless something is given under the name of a parameter. Settings with
overrides are the settings of the merged record: they list that record, and they are refused, as a
bad value, exactly if its settings are. What is given under the name of a parameter is of a wrong
kind, whatever else is given. Nothing is changed where nothing is given, a whole listing that is
given replaces everything, and overriding twice is overriding once by everything that is given. -/
theorem withOverrides_merges
    (typed : base.IsTyped) :
    ∃ listed, base.listing = .ok listed ∧
      (∀ overrides : Overrides, overrides.AreTyped →
        (¬ overrides.Clashes →
          withOverrides base overrides = ofRecord (overrides.mergedInto listed.toRecord) ∧
          FailsOnlyWith Misuse.IsAboutValue (withOverrides base overrides)) ∧
        (overrides.Clashes → withOverrides base overrides = .error (.wrongKind none)) ∧
        ∀ result, withOverrides base overrides = .ok result →
          ∃ listing, result.listing = .ok listing ∧
            listing.toRecord = overrides.mergedInto listed.toRecord) ∧
      withOverrides base {} = base.make ∧
      (∀ other : Settings, other.IsTyped →
        ∃ listing, other.listing = .ok listing ∧
          withOverrides base { entries := listing.toRecord } = other.make) ∧
      ∀ first second : Overrides, first.AreTyped → second.AreTyped → second.receipt = none →
        ∀ result, withOverrides base first = .ok result →
          withOverrides result second = withOverrides base (first.extend second) := by
  obtain ⟨values, areOf⟩ := typed
  obtain ⟨listed, listing_eq, record_eq⟩ := areOf.exists_listing
  refine ⟨listed, listing_eq, ?merged, ?alone, ?whole, ?twice⟩
  case merged =>
    intro overrides overridesTyped
    rw [record_eq]
    obtain ⟨merged, mergedRecord, same⟩ := replacing_eq_make areOf overridesTyped
    rw [← mergedRecord, ofRecord_toRecord]
    refine ⟨fun apart => ?_, withOverrides_of_clashes base, fun result made => ?_⟩
    · rw [withOverrides_of_not_clashes base apart, same]
      exact ⟨rfl, merged.failsOnlyWith_make⟩
    · rw [withOverrides_of_not_clashes base (not_clashes_of_eq_ok made), same] at made
      exact (Values.make_eq_ok_iff.mp made).2.exists_listing
  case alone =>
    rw [withOverrides_of_not_clashes base (by decide),
      replacing_entries areOf (Entries.update_nil _).symm, areOf.make_eq]
  case whole =>
    rintro other ⟨others, othersOf⟩
    obtain ⟨listing, otherListing, otherRecord⟩ := othersOf.exists_listing
    refine ⟨listing, otherListing, ?_⟩
    have replaced : others.toRecord = values.toRecord.update listing.toRecord := by
      rw [otherRecord, Values.update_toRecord]
    have apart : ¬ Overrides.Clashes { entries := listing.toRecord } := by
      rw [otherRecord]
      exact others.not_clashes_toRecord
    rw [withOverrides_of_not_clashes base apart, replacing_entries areOf replaced,
      othersOf.make_eq]
  case twice =>
    intro first second firstTyped secondTyped partwise result made
    exact withOverrides_withOverrides ⟨values, areOf⟩ firstTyped secondTyped partwise made

/-- Another chain and more attempts, for the settings of a caller who gives none. -/
theorem withOverrides_merges_defaults :
    IsTyped {} ∧
      ∃ listed, ({} : Settings).listing = .ok listed ∧
        ∃ result listing,
          withOverrides {} { entries := [("chain_id", .int 7), ("max_attempts", .int 9)] } =
            .ok result ∧
          result.listing = .ok listing ∧
          listing.toRecord =
            listed.toRecord.update [("chain_id", .int 7), ("max_attempts", .int 9)] := by
  have typed : IsTyped {} := ⟨.default, Values.areOf_default⟩
  have given : Overrides.AreTyped
      { entries := [("chain_id", .int 7), ("max_attempts", .int 9)] } :=
    ⟨by simp [RespectsKinds, kinds, Entries.get?, Text.ofString_inj, Kind.Has], nofun⟩
  obtain ⟨listed, listing_eq, merges, -⟩ := withOverrides_merges typed
  let updated : Values := { Values.default with chainId := 7, maxAttempts := 9 }
  have same : updated.toRecord =
      Values.default.toRecord.update [("chain_id", .int 7), ("max_attempts", .int 9)] := by
    simp [updated, Values.toRecord, Entries.update, Entries.get?, Text.ofString_inj]
  have chainFits : (0 : Int) ≤ 7 ∧ 7 ≤ maxChainNumber := by decide
  have passes : ∀ {values : Values}, values.PassChecks →
      Values.PassChecks { values with chainId := 7, maxAttempts := 9 } :=
    fun pass => { pass with chainId := chainFits, attempts := by simp }
  obtain ⟨result, made⟩ := Values.exists_make_iff.mpr (passes Values.passChecks_default)
  rw [← replacing_entries Values.areOf_default same,
    ← withOverrides_of_not_clashes {} (by decide)] at made
  obtain ⟨listing, resultListing, record⟩ := (merges _ given).2.2 result made
  refine ⟨typed, listed, listing_eq, result, listing, made, resultListing, ?_⟩
  rw [record, Overrides.mergedInto, Overrides.policyEntries, Entries.update_nil]

/-- Not all names that settings do not have are ignored: the call has a parameter of the name
`base`. -/
theorem not_withOverrides_eq_ofRecord :
    ¬ ∀ (base : Settings) (listed : Listing) (overrides : Overrides), base.IsTyped →
      base.listing = .ok listed → overrides.AreTyped →
      withOverrides base overrides = ofRecord (overrides.mergedInto listed.toRecord) := by
  intro ignored
  let overrides : Overrides := { entries := [("base", .int 1)] }
  have areTyped : overrides.AreTyped :=
    ⟨by simp [overrides, RespectsKinds, kinds, Entries.get?, Text.ofString_inj], nofun⟩
  obtain ⟨listed, listing_eq, record_eq⟩ := Values.areOf_default.exists_listing
  have same := ignored {} listed overrides ⟨.default, Values.areOf_default⟩ listing_eq areTyped
  obtain ⟨merged, mergedRecord, -⟩ := replacing_eq_make Values.areOf_default areTyped
  rw [withOverrides_of_clashes {} (by decide), record_eq, ← mergedRecord, ofRecord_toRecord] at same
  obtain ⟨note, about⟩ := merged.failsOnlyWith_make _ same.symm
  cases about

end Settings

end ChainClient
