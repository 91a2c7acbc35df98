import EdgeApi.Client.Http
import EdgeApi.Main
import EdgeApi.Proofs.Cli.Output
import EdgeApi.Proofs.Client.Backoff
import EdgeApi.Proofs.Client.Fetches
import EdgeApi.Proofs.Config.Credentials
import EdgeApi.Proofs.Listing.Advance
import EdgeApi.Proofs.Listing.AnyServer
import EdgeApi.Proofs.Listing.ByHand
import EdgeApi.Proofs.Listing.Chains
import EdgeApi.Proofs.Listing.Cursors
import EdgeApi.Proofs.Listing.Filters
import EdgeApi.Proofs.Listing.Pages
import EdgeApi.Proofs.Operation.Acknowledgement
import EdgeApi.Proofs.Operation.Cancellation
import EdgeApi.Proofs.Operation.Change
import EdgeApi.Proofs.Operation.Confinement
import EdgeApi.Proofs.Operation.FailedStatus
import EdgeApi.Proofs.Operation.Lookups
import EdgeApi.Proofs.Operation.Precondition
import EdgeApi.Proofs.Operation.ReportedFailure
import EdgeApi.Proofs.Operation.Timing
import EdgeApi.Proofs.Operation.Validation
import EdgeApi.Proofs.Operation.ValueKeys
import EdgeApi.Proofs.Operation.ValuePaths
import EdgeApi.Proofs.Record.Grammar
import EdgeApi.Proofs.Record.Responses
import EdgeApi.Proofs.Record.RoundTrip
import EdgeApi.Proofs.Record.Stored
import EdgeApi.Proofs.Uri.Query
