import ZeroTrust.Editor.Basic
import ZeroTrust.Main
import ZeroTrust.Proofs.Documents.Reloading
import ZeroTrust.Proofs.Engine.FailClosed
import ZeroTrust.Proofs.Gateway.NoAddress
import ZeroTrust.Proofs.Store.LostUpdate
import ZeroTrust.Proofs.Validation.Interpretable
import ZeroTrust.Proofs.Store.Keeping
import ZeroTrust.Proofs.Store.History
import ZeroTrust.Proofs.Store.Versions
import ZeroTrust.Proofs.Store.Refreshing
import ZeroTrust.Proofs.Store.Overtaking
import ZeroTrust.Proofs.Gateway.Identifying
import ZeroTrust.Proofs.Policy.Rearranging
import ZeroTrust.Proofs.Engine.NormalForm
import ZeroTrust.Proofs.Store.Applications
import ZeroTrust.Proofs.CommandLine.Answers
import ZeroTrust.Proofs.CommandLine.Denials
import ZeroTrust.Proofs.Validation.Paths
import ZeroTrust.Proofs.Editor.Vocabulary
import ZeroTrust.Proofs.Store.Disabling
import ZeroTrust.Proofs.Policy.Authoritative
import ZeroTrust.Proofs.Evaluation.Completions
import ZeroTrust.Proofs.Gateway.Readings
import ZeroTrust.Proofs.Gateway.Size
import ZeroTrust.Proofs.Gateway.Choices
import ZeroTrust.Proofs.Engine.Deciding
import ZeroTrust.Proofs.Engine.Overriding
import ZeroTrust.Proofs.CountryRanges.Table
import ZeroTrust.Proofs.CountryRanges.File
import ZeroTrust.Proofs.Evaluation.Withholding
import ZeroTrust.Proofs.Editor.Addressing
import ZeroTrust.Proofs.Editor.Blocks
import ZeroTrust.Proofs.Validation.Exactness
import ZeroTrust.Proofs.Engine.Rejecting
import ZeroTrust.Proofs.Store.Tidying
import ZeroTrust.Proofs.Store.Targets
import ZeroTrust.Proofs.Evaluation.Labels
import ZeroTrust.Proofs.Documents.Mirroring
import ZeroTrust.Proofs.CommandLine.Checks
import ZeroTrust.Proofs.Evaluation.Summary
