import ChainClient.Proofs.Encoding.Hexadecimal
import ChainClient.Proofs.Encoding.Utf8
import ChainClient.Proofs.Wire.Messages
import ChainClient.Proofs.Traces
import ChainClient.Rpc.Node
import ChainClient.Scripted.Crew
import ChainClient.Scripted.Exchanges
import ChainClient.Settings.Environment
import ChainClient.Settings.Overrides
import ChainClient.Transaction.Signed
import ChainClient.Proofs.Encoding.Amounts
import ChainClient.Proofs.Envelopes
import ChainClient.Proofs.Confirmation.Polling
import ChainClient.Proofs.Confirmation.Histories
import ChainClient.Proofs.Confirmation.Budget
import ChainClient.Proofs.Receipts
import ChainClient.Proofs.Confirmation.Waiting
import ChainClient.Proofs.Wire.Grammar
import ChainClient.Proofs.Acceptance
import ChainClient.Proofs.Transaction.Signing
import ChainClient.Proofs.Normalization
import ChainClient.Proofs.Transaction.Agreement
import ChainClient.Proofs.Wire.Reencoding
import ChainClient.Proofs.Encoding.Documents
import ChainClient.Proofs.Rpc.Operations
import ChainClient.Proofs.Confirmation.Submitting
import ChainClient.Proofs.Rpc.Identifiers
import ChainClient.Proofs.Rpc.Sharing
import ChainClient.Proofs.FanOut.Alone
import ChainClient.Proofs.Transaction.Atomicity
import ChainClient.Proofs.Transaction.ReadBack
import ChainClient.Proofs.Encoding.CanonicalForms
import ChainClient.Proofs.Rpc.Encodable
import ChainClient.Proofs.Rpc.RemoteErrors
import ChainClient.Proofs.Rpc.Calls
import ChainClient.Proofs.Rpc.Matching
import ChainClient.Proofs.Rpc.Batches
import ChainClient.Proofs.Transaction.Refusals
import ChainClient.Proofs.Transaction.Uniqueness
import ChainClient.Proofs.Rpc.OwnResults
import ChainClient.Proofs.Rpc.StrayItems
import ChainClient.Proofs.EmbeddedBytes
import ChainClient.Proofs.Signing.Verification
import ChainClient.Proofs.Amounts.WireForms
import ChainClient.Proofs.Quantities.Heights
import ChainClient.Proofs.Confirmation.Reports
import ChainClient.Proofs.Signing.KeyMaterial
import ChainClient.Proofs.Settings.Consumers
import ChainClient.Proofs.Settings.Merging
import ChainClient.Proofs.Settings.Validity
import ChainClient.Proofs.Encoding.ByteLiterals
