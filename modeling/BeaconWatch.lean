import BeaconWatch.Hamming.ParitySearch
import BeaconWatch.Intake.Checked
import BeaconWatch.Json.Documents
import BeaconWatch.Proofs.Bits
import BeaconWatch.Proofs.Double
import BeaconWatch.Proofs.Double.Accuracy
import BeaconWatch.Proofs.Hamming.Codewords
import BeaconWatch.Proofs.Hamming.Decoding
import BeaconWatch.Proofs.Hamming.DoubleErrors
import BeaconWatch.Proofs.Hamming.Outcomes
import BeaconWatch.Proofs.Hamming.ParitySearch
import BeaconWatch.Proofs.Hamming.Sizes
import BeaconWatch.Proofs.Hamming.Syndrome
import BeaconWatch.Proofs.Hamming.Transmission
import BeaconWatch.Proofs.Hex
import BeaconWatch.Proofs.IBeaconFrame
import BeaconWatch.Proofs.Intake.Checked
import BeaconWatch.Proofs.Intake.Handling
import BeaconWatch.Proofs.Intake.Routing
import BeaconWatch.Proofs.Json.Documents
import BeaconWatch.Proofs.Json.Fields
import BeaconWatch.Proofs.Json.Numbers
import BeaconWatch.Proofs.Json.RoundTrip
import BeaconWatch.Proofs.Json.Text
import BeaconWatch.Proofs.Overflow.Damage
import BeaconWatch.Proofs.Overflow.Framing
import BeaconWatch.Proofs.Overflow.Identity
import BeaconWatch.Proofs.Overflow.Lengths
import BeaconWatch.Proofs.Overflow.Reception
import BeaconWatch.Proofs.Overflow.Sightings
import BeaconWatch.Proofs.Overflow.SizeLimits
import BeaconWatch.Proofs.Overflow.Sizes
import BeaconWatch.Proofs.Overflow.Window
import BeaconWatch.Proofs.ProximityUuid
import BeaconWatch.Proofs.Registry.History
import BeaconWatch.Proofs.Registry.Interleaving
import BeaconWatch.Proofs.Registry.Views
import BeaconWatch.Proofs.Seconds
import BeaconWatch.Proofs.SharedIntake.Conservation
import BeaconWatch.Proofs.Tracker.Accounts
import BeaconWatch.Proofs.Tracker.Bookkeeping
import BeaconWatch.Proofs.Tracker.Commands
import BeaconWatch.Proofs.Tracker.Containment
import BeaconWatch.Proofs.Tracker.Delivery
import BeaconWatch.Proofs.Tracker.Effects
import BeaconWatch.Proofs.Tracker.Endings
import BeaconWatch.Proofs.Tracker.Generations
import BeaconWatch.Proofs.Tracker.Lifecycle
import BeaconWatch.Proofs.Tracker.PayloadSizes
import BeaconWatch.Proofs.Tracker.Safety
import BeaconWatch.Proofs.Tracker.Settling
import BeaconWatch.Proofs.Tracker.Shutdowns
import BeaconWatch.ProximityUuid.Checked
import BeaconWatch.Registry.Calls
import BeaconWatch.SharedIntake
import BeaconWatch.Tracker.Actions
import BeaconWatch.Tracker.Lifecycle
import BeaconWatch.Tracker.Session
import BeaconWatch.Proofs.Samples
import BeaconWatch.Proofs.Hamming.Positions
import BeaconWatch.Proofs.Overflow.Normalization
import BeaconWatch.Proofs.Hamming.ParityCounts
