import WarningCapture.Session.Trace
import WarningCapture.Session.Scrubbing
import WarningCapture.Proofs.Sink.Unwinding
import WarningCapture.Proofs.Session.Layering
import WarningCapture.Proofs.Session.Restoring
import WarningCapture.Proofs.Session.Ledger
import WarningCapture.Proofs.Session.Booking
import WarningCapture.Proofs.Session.Conservation
import WarningCapture.Proofs.Session.Calling
import WarningCapture.Proofs.Session.Replaying
import WarningCapture.Proofs.Session.Showing
import WarningCapture.Proofs.Session.Recapturing
import WarningCapture.Proofs.Session.Collecting
import WarningCapture.Proofs.Session.Mishaps
import WarningCapture.Proofs.Session.Scoping
import WarningCapture.Proofs.Session.Numbering
import WarningCapture.Proofs.Session.Reentering
import WarningCapture.Proofs.Registry.Mirroring
import WarningCapture.Proofs.Source.Locating
import WarningCapture.Proofs.Session.Configuring
import WarningCapture.Proofs.Session.Inertness
import WarningCapture.Proofs.Error.Renderings
import WarningCapture.Proofs.Session.Describing
import WarningCapture.Proofs.Session.Measuring
import WarningCapture.Proofs.Session.Blaming
import WarningCapture.Proofs.Registry.Recording
import WarningCapture.Proofs.Session.Flushing
import WarningCapture.Proofs.Session.Losing
import WarningCapture.Proofs.Registry.Completing
import WarningCapture.Proofs.Session.Clearing
import WarningCapture.Proofs.Session.Uniting
import WarningCapture.Proofs.Session.Indifference
import WarningCapture.Proofs.Source.Nesting
import WarningCapture.Proofs.Source.Normalising
import WarningCapture.Proofs.Source.Sameness
import WarningCapture.Proofs.Source.Tidying
import WarningCapture.Proofs.Log.Specifying
import WarningCapture.Proofs.Source.Remembering
import WarningCapture.Proofs.Source.Spanning
import WarningCapture.Proofs.Session.Listing
import WarningCapture.Proofs.Session.Converting
import WarningCapture.Proofs.Policy.Updating
import WarningCapture.Proofs.Session.Requesting
