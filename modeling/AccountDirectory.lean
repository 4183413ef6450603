import AccountDirectory.Main
import AccountDirectory.Proofs.Service.ConfirmedSearch
import AccountDirectory.Proofs.Service.MutationGate
import AccountDirectory.Proofs.Verifier.Audience
import AccountDirectory.Proofs.Composition
import AccountDirectory.Proofs.Lookup
import AccountDirectory.Proofs.Service.Reads
import AccountDirectory.Proofs.Requests
import AccountDirectory.Proofs.Service.Sessions
import AccountDirectory.Proofs.Instance.Reads
import AccountDirectory.Proofs.CommandLine.Resolve
import AccountDirectory.Proofs.Interleaving.History
import AccountDirectory.Proofs.Verifier.Looks
import AccountDirectory.Proofs.Verifier.Withdrawal
import AccountDirectory.Proofs.TokenSource.Stages
import AccountDirectory.Proofs.TokenSource.Refreshes
import AccountDirectory.Proofs.Client.Cancellation
import AccountDirectory.Proofs.TokenSource.Progress
import AccountDirectory.Proofs.TokenSource.SingleFlight
import AccountDirectory.Proofs.Verifier.FetchedKeys
import AccountDirectory.Proofs.Http.WebAddress
import AccountDirectory.Proofs.Http.Segments
import AccountDirectory.Proofs.Gateway.UserAddress
import AccountDirectory.Proofs.Verifier.Classification
import AccountDirectory.Proofs.Verifier.Rotation
import AccountDirectory.Proofs.Verifier.ForcedFetches
import AccountDirectory.Proofs.Client.Secrecy
import AccountDirectory.Proofs.Service.CheckedReads
import AccountDirectory.Proofs.Instance.Authentication
import AccountDirectory.Proofs.Instance.Failures
import AccountDirectory.Proofs.CommandLine.Update
import AccountDirectory.Proofs.Client.FailureEntries
import AccountDirectory.Proofs.Lookup.Strategies
import AccountDirectory.Proofs.Account
import AccountDirectory.Proofs.CommandLine.Output
import AccountDirectory.Proofs.Gateway.SearchAddress
import AccountDirectory.Proofs.Gateway.Bodies
import AccountDirectory.Proofs.ErrorBody
import AccountDirectory.Proofs.Instance.Addresses
import AccountDirectory.Proofs.Claims.Gathering
import AccountDirectory.Proofs.Verifier.ScopeForms
import AccountDirectory.Proofs.Settings.Leaves
import AccountDirectory.Proofs.Settings.Sections
import AccountDirectory.Proofs.Settings.Variables
import AccountDirectory.Proofs.Settings.Files
import AccountDirectory.Proofs.Settings.Layers
import AccountDirectory.Proofs.Settings.Notation
import AccountDirectory.Proofs.Settings.Texts
