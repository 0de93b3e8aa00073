import LintBridge.Annotation.Basic
import LintBridge.Annotation.Shape
import LintBridge.Bench.Launch
import LintBridge.Bench.Pattern.Dialect
import LintBridge.Bench.Pattern.Name
import LintBridge.Bench.Pattern.Regex
import LintBridge.Bench.Raw
import LintBridge.Bench.Rounded
import LintBridge.Bench.Rule.Call
import LintBridge.Bench.Rule.Channel
import LintBridge.Bench.Rule.Course
import LintBridge.Bench.Rule.Reader
import LintBridge.Bench.Rule.Run
import LintBridge.Bench.Rule.Script
import LintBridge.Bench.Rule.Token
import LintBridge.Bench.Rule.Value
import LintBridge.Bench.Shell.Batch
import LintBridge.Bench.Shell.Change
import LintBridge.Bench.Shell.Condition
import LintBridge.Bench.Shell.Cursor
import LintBridge.Bench.Shell.Field
import LintBridge.Bench.Shell.Input
import LintBridge.Bench.Shell.Layer
import LintBridge.Bench.Shell.Own
import LintBridge.Bench.Shell.Reader
import LintBridge.Bench.Shell.Run
import LintBridge.Bench.Shell.Script
import LintBridge.Bench.Shell.Session
import LintBridge.Bench.Shell.Setting
import LintBridge.Bench.Shell.State
import LintBridge.Bench.Shell.Sum
import LintBridge.Bench.Shell.Walk
import LintBridge.Bench.Shell.Word
import LintBridge.Bench.Tool.Basic
import LintBridge.Bench.Tool.Column
import LintBridge.Bench.Tool.Compare
import LintBridge.Bench.Tool.Copying
import LintBridge.Bench.Tool.Count
import LintBridge.Bench.Tool.Digest
import LintBridge.Bench.Tool.Display
import LintBridge.Bench.Tool.Dump
import LintBridge.Bench.Tool.Edit.Editor
import LintBridge.Bench.Tool.Edit.Reader
import LintBridge.Bench.Tool.Edit.Run
import LintBridge.Bench.Tool.Edit.Script
import LintBridge.Bench.Tool.Edit.Source
import LintBridge.Bench.Tool.Ends
import LintBridge.Bench.Tool.Expression
import LintBridge.Bench.Tool.Format
import LintBridge.Bench.Tool.Judgement
import LintBridge.Bench.Tool.Key
import LintBridge.Bench.Tool.Letter
import LintBridge.Bench.Tool.Listing
import LintBridge.Bench.Tool.Making
import LintBridge.Bench.Tool.Moment
import LintBridge.Bench.Tool.Options
import LintBridge.Bench.Tool.Order
import LintBridge.Bench.Tool.Place
import LintBridge.Bench.Tool.Quote
import LintBridge.Bench.Tool.Saying
import LintBridge.Bench.Tool.Search
import LintBridge.Bench.Tool.Sequence
import LintBridge.Bench.Tool.Toolbox
import LintBridge.Console.Arguments
import LintBridge.Console.Options
import LintBridge.Console.Run
import LintBridge.Console.Screen
import LintBridge.Console.Summary
import LintBridge.Console.Workplace
import LintBridge.Decimal.Shortest
import LintBridge.Decimal.Signed
import LintBridge.Diagnostic
import LintBridge.Document.LineTable
import LintBridge.Document.Position
import LintBridge.Domain.Direction
import LintBridge.Domain.Mark
import LintBridge.Domain.Name
import LintBridge.Domain.Punycode
import LintBridge.Domain.SpellingTable
import LintBridge.Editor.Ability
import LintBridge.Editor.Desk
import LintBridge.Editor.Documents
import LintBridge.Editor.FileChange
import LintBridge.Editor.Frame
import LintBridge.Editor.Inquiry
import LintBridge.Editor.Message
import LintBridge.Editor.Params
import LintBridge.Editor.Place
import LintBridge.Editor.Session
import LintBridge.Editor.Workspace
import LintBridge.Host.Basic
import LintBridge.Host.Job
import LintBridge.Json.Basic
import LintBridge.Json.Check
import LintBridge.Json.Decoder
import LintBridge.Json.Fault
import LintBridge.Json.Numeral
import LintBridge.Json.Reader
import LintBridge.Json.Writer
import LintBridge.Lint.Annotate
import LintBridge.Lint.Copy
import LintBridge.Lint.Run
import LintBridge.LintError
import LintBridge.Log
import LintBridge.Machine.Basic
import LintBridge.Machine.FileTree
import LintBridge.Machine.Server
import LintBridge.Main
import LintBridge.Markup.Attribute
import LintBridge.Markup.Basic
import LintBridge.Markup.Reader
import LintBridge.Markup.Reference
import LintBridge.Notice
import LintBridge.Path.Basic
import LintBridge.Process.Capture
import LintBridge.Process.CommandLine
import LintBridge.Proofs.Bench.Processes
import LintBridge.Proofs.Console.Agreement
import LintBridge.Proofs.Console.ExitCode
import LintBridge.Proofs.Console.Summary
import LintBridge.Proofs.Console.Warnings
import LintBridge.Proofs.Decimal.Integers
import LintBridge.Proofs.Document.Diagnostics
import LintBridge.Proofs.Document.Dropped
import LintBridge.Proofs.Document.Lines
import LintBridge.Proofs.Document.Positions
import LintBridge.Proofs.Editor.Agreement
import LintBridge.Proofs.Editor.Bursts
import LintBridge.Proofs.Editor.Client
import LintBridge.Proofs.Editor.Journal
import LintBridge.Proofs.Editor.Postponed
import LintBridge.Proofs.Editor.Reloading
import LintBridge.Proofs.Editor.Revalidation
import LintBridge.Proofs.Editor.Turns
import LintBridge.Proofs.Host.Agreement
import LintBridge.Proofs.Host.Files
import LintBridge.Proofs.Host.Protocol
import LintBridge.Proofs.Host.Talk
import LintBridge.Proofs.Json.Acceptance
import LintBridge.Proofs.Json.Escapes
import LintBridge.Proofs.Json.Members
import LintBridge.Proofs.Json.Reading
import LintBridge.Proofs.Json.Spelling
import LintBridge.Proofs.Json.Writing
import LintBridge.Proofs.Lint.Beside
import LintBridge.Proofs.Lint.Buffers
import LintBridge.Proofs.Lint.Conduct
import LintBridge.Proofs.Lint.Decision
import LintBridge.Proofs.Lint.Outcomes
import LintBridge.Proofs.Lint.Placing
import LintBridge.Proofs.Lint.Sharing
import LintBridge.Proofs.Lint.Trace
import LintBridge.Proofs.Machine.Changes
import LintBridge.Proofs.Machine.Inside
import LintBridge.Proofs.Machine.Locating
import LintBridge.Proofs.Machine.Orderly
import LintBridge.Proofs.Machine.Ways
import LintBridge.Proofs.Markup.Attributes
import LintBridge.Proofs.Markup.Boundaries
import LintBridge.Proofs.Markup.Elements
import LintBridge.Proofs.Markup.Reading
import LintBridge.Proofs.Markup.References
import LintBridge.Proofs.Markup.Spelling
import LintBridge.Proofs.Notice.Spacing
import LintBridge.Proofs.Path.Copies
import LintBridge.Proofs.Path.Parts
import LintBridge.Proofs.Path.Texts
import LintBridge.Proofs.Process.Display
import LintBridge.Proofs.Process.Watching
import LintBridge.Proofs.Report.Bookkeeping
import LintBridge.Proofs.Report.Meaning
import LintBridge.Proofs.Report.Spelling
import LintBridge.Proofs.Report.Transmission
import LintBridge.Proofs.Report.Truncation
import LintBridge.Proofs.Result
import LintBridge.Proofs.Settings.Resolution
import LintBridge.Proofs.Settings.Schema
import LintBridge.Proofs.Settings.Written
import LintBridge.Proofs.Text.Basic
import LintBridge.Proofs.Text.Encoding
import LintBridge.Report.Basic
import LintBridge.Report.Collector
import LintBridge.Report.Element
import LintBridge.Report.Shape
import LintBridge.Settings.Basic
import LintBridge.Settings.Discovery
import LintBridge.Settings.FileKind
import LintBridge.Settings.Reader
import LintBridge.Text.Basic
import LintBridge.Text.CodeTable
import LintBridge.Text.Invisible
import LintBridge.Text.Quoted
import LintBridge.Text.Stray
import LintBridge.Text.Utf8
import LintBridge.Uri.Basic
import LintBridge.Uri.HostAddress
import LintBridge.Uri.IpAddress
import LintBridge.Uri.Percent
import LintBridge.Uri.Reader
