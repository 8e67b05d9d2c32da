import ChainClient.Proofs.Confirmation.Waiting
import ChainClient.Proofs.Settings.Values
import ChainClient.Proofs.Transaction.Refusals

/-!
# Who is handed settings

The builders of transactions, the question for the bound of a transaction, a poller and a client are
handed the values of settings. Builders and the bound take whatever passes the checks. A poller asks
for more, and so do a client and the library that makes its exchanges.
-/

namespace ChainClient

namespace Rpc

theorem checkHeaderText_eq_ok_iff
    {t : Text} :
    checkHeaderText t = .ok () ↔ ∀ c ∈ t, c.val < 0x80 := by
  simp [checkHeaderText]

/-- No exchange of these requests fails in a way that a client does not expect. -/
def Library.Takes
    {σ : Type}
    (library : Library σ)
    (request : Text → Request) : Prop :=
  ∀ body state misuse, (library (request body) state).1 ≠ .error (.other misuse)

/-- Headers that a caller gives under the names of the default ones take their place. -/
theorem mergeHeaders_jsonHeaders (agent : Datum) :
    mergeHeaders (jsonHeaders agent) = jsonHeaders agent := by
  simp [mergeHeaders, jsonHeaders, Entries.insert, Text.ofString_inj]

end Rpc

namespace Settings

variable
    {σ : Type}
    (library : Rpc.Library σ)

/-- Whoever is handed the settings takes them: every builder takes the chain and its version, the
bound of a transaction is asked for with the margin, every wait under the policy ends as asked, and
there is a client whose requests the library takes. -/
structure AreTaken (settings : Settings) : Prop where
  builders :
    ∀ builder : Transaction.Builder,
      builder.Accepts .chainId settings.chainId ∧ builder.Accepts .version settings.version
  margin :
    ∃ margin,
      Transaction.requireInt "margin" 1 Node.maxMargin settings.validUntilMargin = .ok margin
  poller :
    ∃ policy, settings.receipt = some policy ∧ Confirmation.EndsEveryWait policy
  client :
    ∃ client, settings.client = .ok client ∧ library.Takes client.request

namespace Values

/-- The request of a client with these values that carries a text. -/
def request
    (values : Values)
    (body : Text) : Rpc.Request where
  url := .text values.rpcUrl
  timeout := .float values.requestTimeout
  headers := Rpc.jsonHeaders (.text values.userAgent)
  body := body

variable
    {values : Values}

/-- A client can be made if the user agent is ASCII text. -/
theorem exists_client_iff
    (policy : ReceiptPolicy) :
    (∃ client, (values.settings policy).client = .ok client) ↔
      ∀ c ∈ values.userAgent, c.val < 0x80 := by
  have passes : ((values.settings policy).headers.forM fun entry =>
      Rpc.checkHeader entry.1 entry.2) = .ok () ↔ ∀ c ∈ values.userAgent, c.val < 0x80 := by
    change (Rpc.checkHeader "Content-Type" (.text "application/json") >>= fun _ =>
      Rpc.checkHeader "Accept" (.text "application/json") >>= fun _ =>
      Rpc.checkHeader "User-Agent" (.text values.userAgent) >>= fun _ => .ok ()) = .ok () ↔ _
    have contentType : Rpc.checkHeader "Content-Type" (.text "application/json") = .ok () := by
      decide
    have accept : Rpc.checkHeader "Accept" (.text "application/json") = .ok () := by decide
    have name : Rpc.checkHeaderText "User-Agent" = .ok () := by decide
    simp only [contentType, accept, unit_bind_eq_ok_iff, true_and, and_true]
    rw [Rpc.checkHeader, name]
    exact Rpc.checkHeaderText_eq_ok_iff
  rw [client, Rpc.Client.make, ← passes]
  split
  case h_1 sent => simp [sent]
  case h_2 misuse refused => simp [refused]

/-- The requests of a client go where its settings say, for as long as they say, and under the name
that they say. -/
theorem request_of_client
    {policy : ReceiptPolicy}
    {client : Rpc.Client}
    (made : (values.settings policy).client = .ok client) :
    client.request = values.request := by
  rw [Settings.client, Rpc.Client.make] at made
  split at made
  · cases made
    funext body
    simp only [Rpc.Client.request, Rpc.Client.requestHeaders, Settings.headers, Values.settings,
      Rpc.mergeHeaders_jsonHeaders, request]
  · cases made

/-- Every builder takes the chain and its version, and the bound of a transaction is asked for with
the margin. -/
theorem PassChecks.builders_accept
    (pass : values.PassChecks) :
    (∀ builder : Transaction.Builder,
      builder.Accepts .chainId (.int values.chainId) ∧
      builder.Accepts .version (.int values.version)) ∧
    Transaction.requireInt "margin" 1 Node.maxMargin (.int values.validUntilMargin) =
      .ok values.validUntilMargin := by
  have bound : maxChainNumber = 2 ^ 31 - 1 := by decide
  refine ⟨fun builder => ⟨?chain, ?version⟩, ?margin⟩
  case chain => exact ⟨values.chainId, rfl, bound ▸ pass.chainId⟩
  case version => exact ⟨values.version, rfl, bound ▸ pass.version⟩
  case margin => exact Transaction.requireInt_eq_ok_iff.mpr ⟨rfl, pass.margin⟩

/-- A poller takes the policy if the interval can be waited for, or there is no second poll. -/
theorem endsEveryWait_policy_iff
    {policy : ReceiptPolicy}
    (made : values.policy = .ok policy) :
    Confirmation.EndsEveryWait policy ↔
      (1 < values.maxAttempts → Node.isTooLong values.pollInterval = false) := by
  obtain ⟨-, interval, attempts⟩ := ReceiptPolicy.make_eq_ok_iff.mp made
  rw [Confirmation.endsEveryWait_iff, interval, Node.pauseFault?_float_eq_none_iff, ← attempts]
  norm_cast

/-- Who takes the settings of values that pass the checks, one by one. -/
theorem PassChecks.areTaken_iff
    {settings : Settings}
    (pass : values.PassChecks)
    (areOf : values.AreOf settings) :
    settings.AreTaken library ↔
      (1 < values.maxAttempts → Node.isTooLong values.pollInterval = false) ∧
      (∀ c ∈ values.userAgent, c.val < 0x80) ∧ library.Takes values.request := by
  obtain ⟨policy, made, rfl⟩ := areOf
  constructor
  · intro taken
    obtain ⟨_, same, ends⟩ := taken.poller
    obtain rfl := Option.some.inj same
    obtain ⟨client, clientMade, takes⟩ := taken.client
    rw [request_of_client clientMade] at takes
    exact ⟨(endsEveryWait_policy_iff made).mp ends,
      (exists_client_iff policy).mp ⟨client, clientMade⟩, takes⟩
  · rintro ⟨waitable, sendable, takes⟩
    obtain ⟨builders, margin⟩ := pass.builders_accept
    obtain ⟨client, clientMade⟩ := (exists_client_iff policy).mpr sendable
    rw [← request_of_client clientMade] at takes
    exact ⟨builders, ⟨_, margin⟩, ⟨policy, rfl, (endsEveryWait_policy_iff made).mpr waitable⟩,
      ⟨client, clientMade, takes⟩⟩

end Values

end Settings

end ChainClient
