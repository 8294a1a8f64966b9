import Conformance.Capture
import Conformance.Check
import Conformance.CommandLine
import Conformance.CompileStage
import Conformance.Deadline
import Conformance.Diagnostic
import Conformance.Digest.Blake
import Conformance.Digest.Checksum
import Conformance.Digest.Md5
import Conformance.Digest.Sha
import Conformance.Digest.Word
import Conformance.ExecuteStage
import Conformance.FileTree
import Conformance.Host
import Conformance.Invocation
import Conformance.Json
import Conformance.LineDiff
import Conformance.Machine.Disk
import Conformance.Machine.Fault
import Conformance.Machine.Kernel
import Conformance.Machine.Launch
import Conformance.Machine.Process
import Conformance.Machine.Programs
import Conformance.Machine.Snapshot
import Conformance.Main
import Conformance.Number.Binary64
import Conformance.Number.Decimal
import Conformance.Path
import Conformance.Program
import Conformance.Proofs.Association
import Conformance.Proofs.Capture.Interleaving
import Conformance.Proofs.Capture.Timeline
import Conformance.Proofs.Computation
import Conformance.Proofs.FileTree.Changes
import Conformance.Proofs.FileTree.Frame
import Conformance.Proofs.FileTree.Listing
import Conformance.Proofs.FileTree.Lookup
import Conformance.Proofs.FileTree.Proper
import Conformance.Proofs.Json.Grammar
import Conformance.Proofs.Json.Rendering
import Conformance.Proofs.Json.Unambiguity
import Conformance.Proofs.Number.Fraction
import Conformance.Proofs.Number.Order
import Conformance.Proofs.Number.Rounding
import Conformance.Proofs.Number.Spacing
import Conformance.Proofs.Path.Components
import Conformance.Proofs.Path.Launching
import Conformance.Proofs.Path.Order
import Conformance.Proofs.Program.ExitStatus
import Conformance.Proofs.Program.Orderings
import Conformance.Proofs.Program.Summaries
import Conformance.Proofs.Program.Timeouts
import Conformance.Proofs.Report.Operations
import Conformance.Proofs.Session.Accounting
import Conformance.Proofs.Session.Assembly
import Conformance.Proofs.Session.CheckKinds
import Conformance.Proofs.Session.Compiling
import Conformance.Proofs.Session.Composition
import Conformance.Proofs.Session.ExpectedOutput
import Conformance.Proofs.Session.Failure
import Conformance.Proofs.Session.Frame
import Conformance.Proofs.Session.History
import Conformance.Proofs.Session.Observed
import Conformance.Proofs.Session.Partition
import Conformance.Proofs.Session.Replay
import Conformance.Proofs.Session.Reporting
import Conformance.Proofs.Session.Reports
import Conformance.Proofs.Session.Selection
import Conformance.Proofs.Session.Steps
import Conformance.Proofs.Session.Trace
import Conformance.Proofs.Session.Verdicts
import Conformance.Proofs.Suite.Artifacts
import Conformance.Proofs.Suite.Building
import Conformance.Proofs.Suite.Discovery
import Conformance.Proofs.Suite.Guarantees
import Conformance.Proofs.Suite.Loading
import Conformance.Proofs.Suite.Merging
import Conformance.Proofs.Suite.Tags
import Conformance.Proofs.Suite.Violations
import Conformance.Proofs.Suite.WellFormed
import Conformance.Proofs.Tally.Boundary
import Conformance.Proofs.Tally.Decision
import Conformance.Proofs.Tally.Order
import Conformance.Proofs.Text.Casing
import Conformance.Proofs.Text.Comparison
import Conformance.Proofs.Text.Lines
import Conformance.Proofs.Text.Splitting
import Conformance.Proofs.Text.Utf8
import Conformance.Report
import Conformance.Session
import Conformance.Settings
import Conformance.Shell.Arithmetic
import Conformance.Shell.Brace
import Conformance.Shell.Builtin.Basic
import Conformance.Shell.Builtin.Control
import Conformance.Shell.Builtin.Extended
import Conformance.Shell.Builtin.Files
import Conformance.Shell.Builtin.Process
import Conformance.Shell.Builtin.Table
import Conformance.Shell.Builtin.Variables
import Conformance.Shell.Calculation
import Conformance.Shell.CharSet
import Conformance.Shell.Conditional
import Conformance.Shell.Escape
import Conformance.Shell.Evaluate
import Conformance.Shell.Expand
import Conformance.Shell.Fields
import Conformance.Shell.Grammar
import Conformance.Shell.Integer
import Conformance.Shell.Job
import Conformance.Shell.Layout
import Conformance.Shell.Lookaround
import Conformance.Shell.Numeral
import Conformance.Shell.Pattern
import Conformance.Shell.Printf
import Conformance.Shell.Reader
import Conformance.Shell.Redirect
import Conformance.Shell.Regex
import Conformance.Shell.RegexText
import Conformance.Shell.Scan
import Conformance.Shell.Script
import Conformance.Shell.Session
import Conformance.Shell.Signal
import Conformance.Shell.Start
import Conformance.Shell.Test
import Conformance.Suite
import Conformance.Suite.Build
import Conformance.Suite.Draft
import Conformance.Suite.Load
import Conformance.Tally
import Conformance.Text.CaseTable
import Conformance.Text.Casing
import Conformance.Text.CharacterTable
import Conformance.Text.Lines
import Conformance.Text.Quoted
import Conformance.Text.Raw
import Conformance.Text.Utf8
import Conformance.Text.Visible
import Conformance.Tool.Accounts
import Conformance.Tool.Arguments
import Conformance.Tool.Arguments.Words
import Conformance.Tool.Backup
import Conformance.Tool.Basic
import Conformance.Tool.Calendar
import Conformance.Tool.Diff
import Conformance.Tool.Difference
import Conformance.Tool.Dump
import Conformance.Tool.Edit
import Conformance.Tool.Edit.Run
import Conformance.Tool.Edit.Script
import Conformance.Tool.Encoding
import Conformance.Tool.Fields
import Conformance.Tool.Find
import Conformance.Tool.Find.Expression
import Conformance.Tool.Floating
import Conformance.Tool.Input
import Conformance.Tool.Installing
import Conformance.Tool.Launch
import Conformance.Tool.Listing
import Conformance.Tool.Making
import Conformance.Tool.Mode
import Conformance.Tool.Moving
import Conformance.Tool.Names
import Conformance.Tool.Numbers
import Conformance.Tool.Octets
import Conformance.Tool.Ordering
import Conformance.Tool.Pairs
import Conformance.Tool.Paragraph
import Conformance.Tool.Pieces
import Conformance.Tool.Plain
import Conformance.Tool.Records
import Conformance.Tool.Records.Expression
import Conformance.Tool.Records.Format
import Conformance.Tool.Records.Grammar
import Conformance.Tool.Records.Run
import Conformance.Tool.Records.Script
import Conformance.Tool.Records.State
import Conformance.Tool.Records.Table
import Conformance.Tool.Records.Token
import Conformance.Tool.Records.Value
import Conformance.Tool.Scaled
import Conformance.Tool.Search
import Conformance.Tool.Show
import Conformance.Tool.Sort
import Conformance.Tool.Sums
import Conformance.Tool.Translate
import Conformance.Tool.Usage
import Conformance.Tool.WordOptions
import Conformance.Yaml.Cursor
import Conformance.Yaml.Document
import Conformance.Yaml.Event
import Conformance.Yaml.Fault
import Conformance.Yaml.Resolution
import Conformance.Yaml.Scalar
import Conformance.Yaml.Token
import Conformance.Yaml.TokenStream
import Conformance.Yaml.Value
