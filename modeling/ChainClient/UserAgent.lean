import ChainClient.Failure

/-!
# User agent

The text by which the client names itself to the node.
-/

namespace ChainClient

/-- The product, its version, and the runtime it presents itself with. -/
def product : Text := "cita-sdk-python/0.3.0 python/<pyver>"

/-- The user agent, with the name of an application behind it if one is given. -/
def userAgent (application : Datum) : Outcome Text :=
  if application.isTruthy then
    (fun t => Text.join [product, " ", t]) <$> Failure.shown application
  else .ok product

end ChainClient
