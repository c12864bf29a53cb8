import Footage.Recorder
import Footage.Recording
import Footage.Zone.Directory
import Footage.Proofs.Json.View
import Footage.Proofs.Camera.Acceptance
import Footage.Proofs.Camera.Address
import Footage.Proofs.Camera.Agreement
import Footage.Proofs.Camera.Checks
import Footage.Proofs.Camera.Listing
import Footage.Proofs.Recorder.Log
import Footage.Proofs.Recorder.Relocation
import Footage.Proofs.Recorder.RoundTrip
import Footage.Proofs.Recorder.Strictness
import Footage.Proofs.Recording.Counts
import Footage.Proofs.Recording.RoundTrip
import Footage.Proofs.Duration
import Footage.Proofs.Calendar.Date
import Footage.Proofs.Calendar.Instant
import Footage.Proofs.Decimal.Order
import Footage.Proofs.Day.Order
import Footage.Proofs.TimeFormatter.Standard
import Footage.Proofs.Day.Shape
import Footage.Proofs.TimeRange.Contiguous
import Footage.Proofs.TimeRange.Contains
import Footage.Proofs.Day.Sort
import Footage.Proofs.Duration.Label
import Footage.Proofs.Route.Sha1
