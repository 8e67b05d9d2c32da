import ChainClient.Settings.Basic
import ChainClient.Settings.Numeral

/-!
# Settings from the environment

Settings that are read from the variables of one family; a variable that is not set stands for its
default.
-/

namespace ChainClient

/-- The variables that are set, with their values. -/
abbrev Environment := Text → Option Text

namespace Settings

/-- The family of the variables of a caller who names none. -/
def defaultFamily : Text := "CITA_"

/-- The variable that is set and not empty, or else the fallback. -/
def nonEmpty (value : Option Text) (fallback : Datum) : Datum :=
  match value with
  | none | some [] => fallback
  | some t => .text t

/-- The value of a variable that may not be set. -/
def valueOr (value : Option Text) (fallback : Datum) : Datum :=
  match value with
  | some t => .text t
  | none => fallback

/-- Settings from the variables of a family. -/
def ofEnvironment (environment : Environment) (family : Text) : Except Misuse Settings := do
  let given (name : Text) := environment (family ++ name)
  let defaults : Settings := {}
  let chainId ← chainNumber (.ofText? (given "CHAIN_ID")) defaults.chainId
  let version ← chainNumber (.ofText? (given "VERSION")) defaults.version
  let timeout ← (valueOr (given "TIMEOUT") defaults.requestTimeout).toBinary64
  let interval ← (valueOr (given "POLL_INTERVAL") ReceiptPolicy.default.pollInterval).toBinary64
  let attempts ← (valueOr (given "MAX_ATTEMPTS") (.int ReceiptPolicy.default.maxAttempts)).toInt
  let margin ← (valueOr (given "VALID_UNTIL_MARGIN") defaults.validUntilMargin).toInt
  let policy ← ReceiptPolicy.make (.float interval) (.int attempts)
  make {
    rpcUrl := nonEmpty (given "RPC_URL") defaults.rpcUrl
    chainId := chainId
    version := version
    requestTimeout := .float timeout
    receipt := some policy
    validUntilMargin := .int margin
    userAgent := nonEmpty (given "USER_AGENT") defaults.userAgent }

end Settings

end ChainClient
