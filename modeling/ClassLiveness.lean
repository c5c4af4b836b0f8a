import ClassLiveness.Class.Record
import ClassLiveness.Class.Status
import ClassLiveness.Diagnosis.Abort
import ClassLiveness.Diagnosis.Error
import ClassLiveness.Diagnosis.Fatal
import ClassLiveness.Host.Dialogue
import ClassLiveness.Host.Failure
import ClassLiveness.Host.Interface
import ClassLiveness.Machine.Change
import ClassLiveness.Machine.Host
import ClassLiveness.Machine.State
import ClassLiveness.Registry.Drain
import ClassLiveness.Registry.Ledger
import ClassLiveness.Registry.Requests
import ClassLiveness.Registry.Slots
import ClassLiveness.Registry.Sweep
import ClassLiveness.Scenario.Run
import ClassLiveness.Tag.Basic
import ClassLiveness.Tag.Supply
import ClassLiveness.Tracker.Command
import ClassLiveness.Tracker.HandlerLock
import ClassLiveness.Tracker.History
import ClassLiveness.Tracker.Operation
import ClassLiveness.Tracker.Settings
import ClassLiveness.Tracker.State
import ClassLiveness.Tracker.Trace
import ClassLiveness.Tracker.Tracking
import ClassLiveness.Tracker.UnloadReport
import ClassLiveness.Tracker.Unloading
import ClassLiveness.Proofs.Registry.Chain
import ClassLiveness.Proofs.Registry.Layout
import ClassLiveness.Proofs.Registry.Inquest
import ClassLiveness.Proofs.Registry.Sweeping
import ClassLiveness.Proofs.Registry.Keeping
import ClassLiveness.Proofs.Registry.Refinement
import ClassLiveness.Proofs.Registry.Reuse
import ClassLiveness.Proofs.Registry.Charts
import ClassLiveness.Proofs.Tag.Exhaustion
import ClassLiveness.Proofs.Diagnosis.Legibility
import ClassLiveness.Proofs.Tracker.Scenes
import ClassLiveness.Proofs.Tracker.Attempt
import ClassLiveness.Proofs.Tracker.Startup
import ClassLiveness.Proofs.Tracker.Pass
import ClassLiveness.Proofs.Tracker.Course
import ClassLiveness.Proofs.Tracker.Soundness
import ClassLiveness.Proofs.Tracker.Books
import ClassLiveness.Proofs.Tracker.Honesty
import ClassLiveness.Proofs.Tracker.Episodes
import ClassLiveness.Proofs.Tracker.Fates
import ClassLiveness.Proofs.Tracker.Conservation
import ClassLiveness.Proofs.Tracker.Transcript
import ClassLiveness.Proofs.Tracker.Applied
import ClassLiveness.Proofs.Tracker.Checking
import ClassLiveness.Proofs.Tracker.Poison
import ClassLiveness.Proofs.Tracker.HostFailures
import ClassLiveness.Proofs.Tracker.Assignments
import ClassLiveness.Proofs.Tracker.Callers
import ClassLiveness.Proofs.Tracker.Admission
import ClassLiveness.Proofs.Tracker.Views
import ClassLiveness.Proofs.Tracker.Announcements
import ClassLiveness.Proofs.Tracker.Traces
import ClassLiveness.Proofs.Tracker.Recounting
import ClassLiveness.Proofs.Tracker.Telling
import ClassLiveness.Proofs.Tracker.PassNumbers
import ClassLiveness.Proofs.Tracker.Findings
import ClassLiveness.Proofs.Tracker.Enumeration
import ClassLiveness.Proofs.Tracker.Limits
import ClassLiveness.Proofs.Contract.Sessions
import ClassLiveness.Proofs.Contract.Attribution
import ClassLiveness.Proofs.Contract.Agreement
import ClassLiveness.Proofs.Contract.Sustained
import ClassLiveness.Proofs.Contract.Enrolment
import ClassLiveness.Proofs.Contract.Reports
import ClassLiveness.Proofs.Contract.Promises
import ClassLiveness.Proofs.Contract.Duplicates
import ClassLiveness.Proofs.Contract.Sharing
import ClassLiveness.Proofs.Contract.SharedMachine
import ClassLiveness.Proofs.Contract.Alarms
import ClassLiveness.Proofs.Scenario.Sessions
import ClassLiveness.Proofs.Scenario.Discipline
import ClassLiveness.Proofs.Scenario.Reading
import ClassLiveness.Proofs.Scenario.Likeness
import ClassLiveness.Proofs.Scenario.Abreast
import ClassLiveness.Proofs.Scenario.Parallel.Tracking
import ClassLiveness.Proofs.Scenario.Parallel.Passes
import ClassLiveness.Proofs.Scenario.Parallel.Commands
import ClassLiveness.Proofs.Scenario.Counterparts
import ClassLiveness.Proofs.Scenario.FreshStart
import ClassLiveness.Proofs.Scenario.Renumbering
import ClassLiveness.Proofs.Scenario.Beside
import ClassLiveness.Proofs.Scenario.Interference
import ClassLiveness.Proofs.Scenario.Ageing
import ClassLiveness.Proofs.Scenario.Relieved
import ClassLiveness.Proofs.Scenario.Batching
