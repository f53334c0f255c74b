import Multitarget.Command.Arguments
import Multitarget.Command.Line
import Multitarget.Command.Misuse
import Multitarget.Command.Operation
import Multitarget.Command.Refusal
import Multitarget.Command.Setting
import Multitarget.Console.ColorName
import Multitarget.Console.Handler
import Multitarget.Console.Layout
import Multitarget.Console.Markup
import Multitarget.Console.Output
import Multitarget.Console.Style
import Multitarget.Data.Calendar
import Multitarget.Data.Keyed
import Multitarget.Data.Value
import Multitarget.Domain.Catalog
import Multitarget.Domain.Completion
import Multitarget.Domain.Configuration
import Multitarget.Domain.Described
import Multitarget.Domain.Diagnostics
import Multitarget.Domain.Exception
import Multitarget.Domain.Failure
import Multitarget.Domain.Fault
import Multitarget.Domain.Outcome
import Multitarget.Domain.Project
import Multitarget.Domain.Reference
import Multitarget.Domain.Report
import Multitarget.Domain.Result
import Multitarget.Domain.Shaping
import Multitarget.Domain.Source
import Multitarget.Domain.Target
import Multitarget.Domain.Wire
import Multitarget.Executor.Artifacts
import Multitarget.Executor.Backend
import Multitarget.Executor.Basic
import Multitarget.Executor.Lookup
import Multitarget.Executor.Routing
import Multitarget.Executor.Scripted
import Multitarget.Executor.Telemetry
import Multitarget.Executor.Translation
import Multitarget.Executor.Wiring
import Multitarget.Files.Access
import Multitarget.Files.Path
import Multitarget.Files.Tree
import Multitarget.Json.Access
import Multitarget.Json.Document
import Multitarget.Json.Printer
import Multitarget.Json.Reader
import Multitarget.Log.Record
import Multitarget.Log.Writer
import Multitarget.Main
import Multitarget.Number.Binary64
import Multitarget.Number.Shortest
import Multitarget.Proofs.Files.Access
import Multitarget.Proofs.Files.Tree
import Multitarget.Proofs.Session.Action
import Multitarget.Proofs.Steps
import Multitarget.Schema.Checked
import Multitarget.Schema.Issue
import Multitarget.Schema.Record
import Multitarget.Schema.Scalar
import Multitarget.Session.Basic
import Multitarget.Session.Event
import Multitarget.Session.Loading
import Multitarget.Session.Scratch
import Multitarget.Session.Trace
import Multitarget.Session.VersionState
import Multitarget.Text.Base64
import Multitarget.Text.Blank
import Multitarget.Text.CaseRun
import Multitarget.Text.CellWidth
import Multitarget.Text.CodeRange
import Multitarget.Text.DecimalDigit
import Multitarget.Text.HexBytes
import Multitarget.Text.Integer
import Multitarget.Text.Lines
import Multitarget.Text.LowerCase
import Multitarget.Text.Printable
import Multitarget.Text.Quoted
import Multitarget.Text.Similarity
import Multitarget.Text.Stream
import Multitarget.Text.UpperCase
import Multitarget.Text.Utf8
import Multitarget.Text.WordCharacter
import Multitarget.Yaml.Cursor
import Multitarget.Yaml.Document
import Multitarget.Yaml.Error
import Multitarget.Yaml.Graph
import Multitarget.Yaml.Scalar
import Multitarget.Yaml.Tag
import Multitarget.Yaml.Token
import Multitarget.Yaml.Token.Property
import Multitarget.Yaml.Token.Scalar
import Multitarget.Yaml.Token.Stream
import Multitarget.Proofs.Session.Scratch
import Multitarget.Proofs.Domain.Shaping
import Multitarget.Proofs.Executor.Primary
import Multitarget.Proofs.Executor.Answer
import Multitarget.Proofs.Executor.Verdict
import Multitarget.Proofs.Session.Writes
import Multitarget.Proofs.Domain.Report
import Multitarget.Proofs.Executor.Artifacts
import Multitarget.Proofs.Executor.Persistence
import Multitarget.Proofs.Executor.Confinement
import Multitarget.Proofs.Executor.Request
import Multitarget.Proofs.Executor.Course
import Multitarget.Proofs.Executor.Calls
import Multitarget.Proofs.Executor.Scope
import Multitarget.Proofs.Session.Agreement
import Multitarget.Proofs.Executor.Reporting
import Multitarget.Proofs.Executor.Containment
import Multitarget.Proofs.Executor.Highlight
import Multitarget.Proofs.Session.Version
import Multitarget.Proofs.Executor.Lookup
import Multitarget.Proofs.Executor.Wiring
import Multitarget.Proofs.Executor.Setup
import Multitarget.Proofs.Schema.RoundTrip
import Multitarget.Proofs.Schema.Reading
import Multitarget.Proofs.Domain.RoundTrip
import Multitarget.Proofs.Domain.PlainRecord
import Multitarget.Proofs.Domain.BinaryRecord
import Multitarget.Proofs.Files.Repetition
import Multitarget.Proofs.Session.Repetition
import Multitarget.Proofs.Executor.Saving
import Multitarget.Proofs.Executor.LastingReport
import Multitarget.Proofs.Executor.Resaving
import Multitarget.Proofs.Executor.Recompilation
import Multitarget.Proofs.Text.Numeral
import Multitarget.Proofs.Json.Spelling
import Multitarget.Proofs.Json.RoundTrip
import Multitarget.Proofs.Text.Lines
import Multitarget.Proofs.Text.CellWidth
import Multitarget.Proofs.Console.Layout
import Multitarget.Proofs.Console.FirstRow
import Multitarget.Proofs.Console.Markup
import Multitarget.Proofs.Console.Mark
import Multitarget.Proofs.Command.Loading
import Multitarget.Proofs.Console.Output
import Multitarget.Proofs.Domain.PlainDocument
import Multitarget.Proofs.Command.Invocation
import Multitarget.Proofs.Command.Dump
import Multitarget.Proofs.Command.Shown
import Multitarget.Proofs.Command.Status
import Multitarget.Proofs.Command.Tests
import Multitarget.Proofs.Command.Failures
import Multitarget.Proofs.Text.Utf8
import Multitarget.Proofs.Session.Loading
import Multitarget.Proofs.Command.ProjectLoading
import Multitarget.Proofs.Schema.Issues
import Multitarget.Proofs.Session.ConfigurationLoading
import Multitarget.Proofs.Executor.References
import Multitarget.Proofs.Command.ExecutorLoading
import Multitarget.Proofs.Domain.Restriction
import Multitarget.Proofs.Session.Builds
import Multitarget.Proofs.Executor.SavedTree
import Multitarget.Proofs.Executor.Collision
import Multitarget.Proofs.Console.Survival
import Multitarget.Proofs.Domain.ShortPosition
import Multitarget.Proofs.Executor.Advisory
import Multitarget.Proofs.Command.Staging
import Multitarget.Proofs.Command.Number
import Multitarget.Proofs.Command.Advice
import Multitarget.Proofs.Executor.Rejection
import Multitarget.Proofs.Domain.CursorPosition
import Multitarget.Proofs.Executor.Completion
import Multitarget.Proofs.Command.BackendFaults
import Multitarget.Proofs.Session.ProjectDocuments
import Multitarget.Proofs.Domain.Settling
import Multitarget.Proofs.Domain.LineEnds
import Multitarget.Proofs.Domain.CursorOffset
import Multitarget.Proofs.Executor.Summary
import Multitarget.Proofs.Domain.Merging
import Multitarget.Proofs.Domain.ReportLine
import Multitarget.Proofs.Executor.ReportFile
import Multitarget.Proofs.Domain.CauseChain
import Multitarget.Proofs.Domain.Reference
import Multitarget.Proofs.Executor.ReferenceLoading
