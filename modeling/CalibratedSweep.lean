import CalibratedSweep.Affinity
import CalibratedSweep.Calibration.Basic
import CalibratedSweep.Calibration.Calibrator
import CalibratedSweep.CommandLine.Basic
import CalibratedSweep.CommandLine.PlanTree
import CalibratedSweep.CommandLine.Reader
import CalibratedSweep.CommandLine.Request
import CalibratedSweep.CommandLine.Run
import CalibratedSweep.CommandLine.Setup
import CalibratedSweep.Configuration
import CalibratedSweep.Csv.Reader
import CalibratedSweep.Csv.Writer
import CalibratedSweep.Decimal.Binary
import CalibratedSweep.Decimal.Layout
import CalibratedSweep.Decimal.Reader
import CalibratedSweep.Decimal.Shortest
import CalibratedSweep.Duration.Basic
import CalibratedSweep.Duration.Reader
import CalibratedSweep.Files.Basic
import CalibratedSweep.Files.Workspace
import CalibratedSweep.Json.Basic
import CalibratedSweep.Json.Decode
import CalibratedSweep.Json.Reader
import CalibratedSweep.Main
import CalibratedSweep.Outcome
import CalibratedSweep.Pattern.Basic
import CalibratedSweep.Pattern.CharSet
import CalibratedSweep.Pattern.Escape
import CalibratedSweep.Pattern.Meaning
import CalibratedSweep.Pattern.PropertyName
import CalibratedSweep.Pattern.Reader
import CalibratedSweep.Pattern.Regex
import CalibratedSweep.Plan.Basic
import CalibratedSweep.Proofs.Affinity
import CalibratedSweep.Proofs.Calibration.Calibrator
import CalibratedSweep.Proofs.Calibration.History
import CalibratedSweep.Proofs.Calibration.Needs
import CalibratedSweep.Proofs.Calibration.Output
import CalibratedSweep.Proofs.CommandLine.Branches
import CalibratedSweep.Proofs.CommandLine.PlanCommand
import CalibratedSweep.Proofs.CommandLine.PlanText
import CalibratedSweep.Proofs.Csv.Cut
import CalibratedSweep.Proofs.Csv.RoundTrip
import CalibratedSweep.Proofs.Decimal.Binary
import CalibratedSweep.Proofs.Decimal.Fixed
import CalibratedSweep.Proofs.Decimal.Infinite
import CalibratedSweep.Proofs.Decimal.Reader
import CalibratedSweep.Proofs.Decimal.ScoreText
import CalibratedSweep.Proofs.Double.Arithmetic
import CalibratedSweep.Proofs.Double.Nearest
import CalibratedSweep.Proofs.Double.Numbers
import CalibratedSweep.Proofs.Double.Packing
import CalibratedSweep.Proofs.Double.Rounding
import CalibratedSweep.Proofs.Double.Values
import CalibratedSweep.Proofs.Duration.Reader
import CalibratedSweep.Proofs.Duration.Seconds
import CalibratedSweep.Proofs.Files.Lookup
import CalibratedSweep.Proofs.Files.Workspace
import CalibratedSweep.Proofs.Plan.Distinct
import CalibratedSweep.Proofs.Plan.Enumeration
import CalibratedSweep.Proofs.Plan.Selection
import CalibratedSweep.Proofs.Reduction
import CalibratedSweep.Proofs.Report.DurationText
import CalibratedSweep.Proofs.Schema.Key
import CalibratedSweep.Proofs.Schema.Layout
import CalibratedSweep.Proofs.Scores
import CalibratedSweep.Proofs.Scores.Repeated
import CalibratedSweep.Proofs.Sink.Append
import CalibratedSweep.Proofs.Sink.Content
import CalibratedSweep.Proofs.Sink.Cut
import CalibratedSweep.Proofs.Sink.File
import CalibratedSweep.Proofs.Sink.Sessions
import CalibratedSweep.Proofs.Supervision.Ending
import CalibratedSweep.Proofs.Sweep.Apart
import CalibratedSweep.Proofs.Sweep.Attempt
import CalibratedSweep.Proofs.Sweep.Behaviour
import CalibratedSweep.Proofs.Sweep.Blocks
import CalibratedSweep.Proofs.Sweep.Calls
import CalibratedSweep.Proofs.Sweep.Completion
import CalibratedSweep.Proofs.Sweep.Containment
import CalibratedSweep.Proofs.Sweep.Counters
import CalibratedSweep.Proofs.Sweep.Emptiness
import CalibratedSweep.Proofs.Sweep.Fate
import CalibratedSweep.Proofs.Sweep.Identity
import CalibratedSweep.Proofs.Sweep.Interruption
import CalibratedSweep.Proofs.Sweep.Log
import CalibratedSweep.Proofs.Sweep.Memory
import CalibratedSweep.Proofs.Sweep.Output
import CalibratedSweep.Proofs.Sweep.Probings
import CalibratedSweep.Proofs.Sweep.Progress
import CalibratedSweep.Proofs.Sweep.Refusal
import CalibratedSweep.Proofs.Sweep.Resumption
import CalibratedSweep.Proofs.Sweep.Reuse
import CalibratedSweep.Proofs.Sweep.Trace
import CalibratedSweep.Proofs.Sweep.Unprobed
import CalibratedSweep.Proofs.Sweep.Visit
import CalibratedSweep.Proofs.Sweep.WriteFailure
import CalibratedSweep.Proofs.Sweep.WrittenScores
import CalibratedSweep.Proofs.Text.Bytes
import CalibratedSweep.Proofs.Text.Lines
import CalibratedSweep.Proofs.Text.Numeral
import CalibratedSweep.Proofs.Text.Spelling
import CalibratedSweep.Proofs.TimeBound
import CalibratedSweep.Proofs.TimeBound.Growth
import CalibratedSweep.Proofs.Unicode.Alphabetic
import CalibratedSweep.Report.Basic
import CalibratedSweep.Report.Document
import CalibratedSweep.Report.Human
import CalibratedSweep.Report.Timestamp
import CalibratedSweep.Row
import CalibratedSweep.Schema
import CalibratedSweep.Scores
import CalibratedSweep.Script.Basic
import CalibratedSweep.Script.Builtin
import CalibratedSweep.Script.Launcher
import CalibratedSweep.Script.Reader
import CalibratedSweep.Script.Run
import CalibratedSweep.Script.Shell
import CalibratedSweep.Script.Token
import CalibratedSweep.Sink.Basic
import CalibratedSweep.Sink.Content
import CalibratedSweep.Supervision.Child
import CalibratedSweep.Supervision.Launch
import CalibratedSweep.Supervision.Programs
import CalibratedSweep.Supervision.Score
import CalibratedSweep.Sweep.Event
import CalibratedSweep.Sweep.Host
import CalibratedSweep.Sweep.Run
import CalibratedSweep.Sweep.Summary
import CalibratedSweep.SweepFile.Basic
import CalibratedSweep.SweepFile.Reader
import CalibratedSweep.SweepFile.Template
import CalibratedSweep.Text.Blank
import CalibratedSweep.Text.Bytes
import CalibratedSweep.Text.Lines
import CalibratedSweep.Text.Numeral
import CalibratedSweep.Text.Quoted
import CalibratedSweep.TimeBound
import CalibratedSweep.Toml.Decode
import CalibratedSweep.Toml.Reader
import CalibratedSweep.Toml.Scalar
import CalibratedSweep.Toml.Value
import CalibratedSweep.Unicode.Alphabetic
import CalibratedSweep.Unicode.CaseFolding
import CalibratedSweep.Unicode.Category
import CalibratedSweep.Unicode.LetterCase
import CalibratedSweep.Unicode.Printable
import CalibratedSweep.Unicode.Ranges
import CalibratedSweep.Unicode.Script
