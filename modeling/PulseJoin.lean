import PulseJoin.SortedMap
import PulseJoin.Schedule.Gap
import PulseJoin.Schedule.Set
import PulseJoin.Bundle
import PulseJoin.Config.Fault
import PulseJoin.Config.Advice
import PulseJoin.Buffer
import PulseJoin.Watermarks
import PulseJoin.Outlet
import PulseJoin.Telemetry
import PulseJoin.Count
import PulseJoin.Event
import PulseJoin.Synchronizer
import PulseJoin.Synchronizer.Session
import PulseJoin.Text.Alphanumeric
import PulseJoin.Text.Fixed
import PulseJoin.Text.Real
import PulseJoin.Text.Excerpt
import PulseJoin.Text.Shape
import PulseJoin.Text.Hexadecimal
import PulseJoin.Text.Json
import PulseJoin.Text.Json.Writer
import PulseJoin.Text.Json.Reader
import PulseJoin.Text.Json.Complaint
import PulseJoin.Config.Json
import PulseJoin.Message.Json
import PulseJoin.Text.Toml.Reader
import PulseJoin.Text.Toml.Complaint
import PulseJoin.Config.Toml
import PulseJoin.Config.Source
import PulseJoin.Statistics.Bundles
import PulseJoin.Telemetry.Consumer
import PulseJoin.Replay.Plan
import PulseJoin.Replay.Report
import PulseJoin.CommandLine.Invocation
import PulseJoin.CommandLine.Environment
import PulseJoin.CommandLine.Commands
import PulseJoin.Main
import PulseJoin.Proofs.SortedMap
import PulseJoin.Proofs.Schedule.Gap
import PulseJoin.Proofs.Schedule.Set
import PulseJoin.Proofs.Watermarks
import PulseJoin.Proofs.Buffer
import PulseJoin.Proofs.Synchronizer.Act
import PulseJoin.Proofs.Synchronizer.Effect
import PulseJoin.Proofs.Synchronizer.Invariant
import PulseJoin.Proofs.Synchronizer.Operations
import PulseJoin.Proofs.Session.History
import PulseJoin.Proofs.Session.Order
import PulseJoin.Proofs.Session.Contents
import PulseJoin.Proofs.Synchronizer.Journal
import PulseJoin.Proofs.Synchronizer.Gaps
import PulseJoin.Proofs.Synchronizer.Deliveries
import PulseJoin.Proofs.Session.Gaps
import PulseJoin.Proofs.Synchronizer.Settled
import PulseJoin.Proofs.Synchronizer.Waiting
import PulseJoin.Proofs.Session.Rest
import PulseJoin.Proofs.Session.Reachable
import PulseJoin.Proofs.Synchronizer.Counters
import PulseJoin.Proofs.Synchronizer.Balance
import PulseJoin.Proofs.Synchronizer.Handover
import PulseJoin.Proofs.Synchronizer.Pass
import PulseJoin.Proofs.Session.Conservation
import PulseJoin.Proofs.Synchronizer.Intake
import PulseJoin.Proofs.Session.Independence
import PulseJoin.Proofs.Synchronizer.Startup
import PulseJoin.Proofs.Session.Startup
import PulseJoin.Proofs.Load
import PulseJoin.Proofs.Synchronizer.Load
import PulseJoin.Proofs.Session.Lossless
import PulseJoin.Proofs.Synchronizer.Readings
import PulseJoin.Proofs.Session.Telemetry
import PulseJoin.Proofs.Synchronizer.Closed
import PulseJoin.Proofs.Session.Closed
import PulseJoin.Proofs.Schedule.Shift
import PulseJoin.Proofs.Synchronizer.Shift
import PulseJoin.Proofs.Synchronizer.Abreast
import PulseJoin.Proofs.Session.Shift
import PulseJoin.Proofs.Shared.Sections
import PulseJoin.Proofs.Shared.Interleaving
import PulseJoin.Proofs.Schedule.Fault
import PulseJoin.Proofs.Config.Acceptance
import PulseJoin.Proofs.Text.Numeral
import PulseJoin.Proofs.Text.Json.Scalars
import PulseJoin.Proofs.Text.Json.Values
import PulseJoin.Proofs.Text.DataFormat
import PulseJoin.Proofs.Text.Json.Data
import PulseJoin.Proofs.Config.Decode
import PulseJoin.Proofs.Config.Json
import PulseJoin.Proofs.Text.Toml.Strings
import PulseJoin.Proofs.Text.Toml.Values
import PulseJoin.Proofs.Text.Toml.Documents
import PulseJoin.Proofs.Text.Toml.Tables
import PulseJoin.Proofs.Config.Toml
import PulseJoin.Proofs.Random.Choice
import PulseJoin.Proofs.Replay.Plan
import PulseJoin.Proofs.Session.Scheduled
import PulseJoin.Proofs.Replay.Producers
import PulseJoin.Proofs.Statistics.Bundles
import PulseJoin.Proofs.Statistics.Totals
import PulseJoin.Proofs.Replay.Accounting
import PulseJoin.Proofs.Replay.Course
import PulseJoin.Proofs.Synchronizer.Outcomes
import PulseJoin.Proofs.Session.Outcomes
import PulseJoin.Proofs.Synchronizer.FirstComplete
import PulseJoin.Proofs.Session.FirstComplete
import PulseJoin.Proofs.Session.Stale
import PulseJoin.Proofs.Synchronizer.Losses
import PulseJoin.Proofs.Session.Losses
import PulseJoin.Proofs.Synchronizer.Pulls
import PulseJoin.Proofs.Session.Pulls
import PulseJoin.Proofs.Replay.Windows
import PulseJoin.Proofs.Schedule.Views
import PulseJoin.Proofs.Buffer.Calls
import PulseJoin.Proofs.Message.Json
import PulseJoin.Proofs.Config.Advice
