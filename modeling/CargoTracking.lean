import CargoTracking.Text.Blank
import CargoTracking.Instant.Printer
import CargoTracking.Instant.Reader
import CargoTracking.Network
import CargoTracking.Cargo
import CargoTracking.Json.Form
import CargoTracking.Json.Printer
import CargoTracking.Store.Memory
import CargoTracking.Store.Records
import CargoTracking.Booking
import CargoTracking.Registration
import CargoTracking.Tracking
import CargoTracking.CommandLine.Run
import CargoTracking.Settings
import CargoTracking.Main
import CargoTracking.Proofs.Prediction
import CargoTracking.Proofs.Walk
import CargoTracking.Proofs.Derivation
import CargoTracking.Proofs.Instant
import CargoTracking.Proofs.Operations
import CargoTracking.Proofs.OrderedMap
import CargoTracking.Proofs.Records
import CargoTracking.Proofs.Stores
import CargoTracking.Proofs.Scripts
import CargoTracking.Proofs.Failure
import CargoTracking.Proofs.Stamps
import CargoTracking.Proofs.UpToDate
import CargoTracking.Proofs.Calls
import CargoTracking.Proofs.Agreement
import CargoTracking.Proofs.Dump
import CargoTracking.Proofs.Interchange
import CargoTracking.Proofs.Steadiness
import CargoTracking.Proofs.Effects
import CargoTracking.Proofs.Recording
import CargoTracking.Proofs.Sessions
import CargoTracking.Proofs.TrackingView
import CargoTracking.Proofs.Notices
import CargoTracking.Proofs.Announcement
import CargoTracking.Proofs.Compartments
import CargoTracking.Proofs.Separation
import CargoTracking.Proofs.EventLog
import CargoTracking.Proofs.RoundTrip
import CargoTracking.Proofs.FreshIds
import CargoTracking.Proofs.Commits
import CargoTracking.Proofs.References
import CargoTracking.Proofs.Revisions
import CargoTracking.Proofs.PlanChanges
import CargoTracking.Proofs.Reporting
import CargoTracking.Proofs.Convergence
import CargoTracking.Proofs.Rewriting
import CargoTracking.Proofs.Decoding
import CargoTracking.Proofs.Normalization
import CargoTracking.Proofs.Resolution
import CargoTracking.Proofs.ByteOrder
import CargoTracking.Proofs.Listings
import CargoTracking.Proofs.Acceptance
import CargoTracking.Proofs.Carriage
import CargoTracking.Proofs.RegistrationLog
import CargoTracking.Proofs.LegText
import CargoTracking.Proofs.JsonForm
import CargoTracking.Proofs.LetterCase
import CargoTracking.Proofs.Scanning
import CargoTracking.Proofs.CommandCase
import CargoTracking.Proofs.Endings
import CargoTracking.Proofs.TwoRuns
import CargoTracking.Proofs.AnyCase
