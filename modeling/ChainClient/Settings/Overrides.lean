import ChainClient.Settings.Environment

/-!
# Settings with overrides

Settings made from others by replacing some of their values. A policy may be replaced as a whole,
and the two parts of it one by one; what is given for a part wins. Names that settings do not have
are ignored, but for those of the call's own parameters, which cannot be given a second time.
-/

namespace ChainClient

namespace Settings

/-- What is to be replaced. -/
structure Overrides where
  entries : Entries := []
  /-- The policy that takes the place of the whole one, if it is to be replaced. -/
  receipt : Option (Option ReceiptPolicy) := none

namespace Overrides

/-- The names of the call's own parameters. -/
def parameterNames : List Text :=
  ["cls", "base"]

/-- Nothing is given under the name of a parameter. -/
def checkNames (overrides : Overrides) : Except Misuse Unit :=
  if parameterNames.any fun name => (overrides.entries.get? name).isSome then
    .error (.wrongKind none)
  else .ok ()

/-- The value that is given for a name, or else the fallback. -/
def value (overrides : Overrides) (name : Text) (fallback : Datum) : Datum :=
  (overrides.entries.get? name).getD fallback

/-- The identifier of the chain, which may be given as a literal. -/
def chainId (overrides : Overrides) (base : Settings) (listed : Int) : Except Misuse Datum :=
  match overrides.entries.get? "chain_id" with
  | some value => chainNumber value base.chainId
  | none => .ok (.int listed)

/-- A policy with the parts that are given. -/
def policyParts (overrides : Overrides) (policy : ReceiptPolicy) : Except Misuse ReceiptPolicy := do
  let interval ← (overrides.value "poll_interval" policy.pollInterval).toBinary64
  let attempts ← (overrides.value "max_attempts" (.int policy.maxAttempts)).toInt
  ReceiptPolicy.make (.float interval) (.int attempts)

/-- Some part of the policy is given. -/
def givesPolicyPart (overrides : Overrides) : Bool :=
  (overrides.entries.get? "poll_interval").isSome || (overrides.entries.get? "max_attempts").isSome

/-- The policy of the settings to be. -/
def policy (overrides : Overrides) (base : Settings) : Except Misuse (Option ReceiptPolicy) :=
  let receipt := overrides.receipt.getD base.receipt
  if overrides.givesPolicyPart then
    match receipt with
    | some policy => some <$> overrides.policyParts policy
    | none => .error .noSuchSlot
  else .ok receipt

end Overrides

/-- Settings with the values of their names replaced. -/
def replacing (base : Settings) (overrides : Overrides) : Except Misuse Settings := do
  let listed ← base.listing
  let chainId ← overrides.chainId base listed.chainId
  let receipt ← overrides.policy base
  make {
    rpcUrl := overrides.value "rpc_url" listed.rpcUrl
    chainId := chainId
    version := overrides.value "version" (.int listed.version)
    requestTimeout := overrides.value "request_timeout" (.float listed.requestTimeout)
    receipt := receipt
    validUntilMargin := overrides.value "valid_until_margin" (.int listed.validUntilMargin)
    userAgent := overrides.value "user_agent" listed.userAgent }

/-- Settings with some values replaced. -/
def withOverrides (base : Settings) (overrides : Overrides) : Except Misuse Settings := do
  overrides.checkNames
  base.replacing overrides

/-- Settings from the environment with some values replaced. The names are checked before the
environment is read. -/
def ofEnvironmentWith (environment : Environment) (overrides : Overrides) :
    Except Misuse Settings := do
  overrides.checkNames
  let base ← ofEnvironment environment defaultFamily
  base.replacing overrides

end Settings

end ChainClient
