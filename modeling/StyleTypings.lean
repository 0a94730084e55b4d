import StyleTypings.Calendar
import StyleTypings.CommandLine.Arguments
import StyleTypings.CommandLine.Grammar
import StyleTypings.CommandLine.Help
import StyleTypings.CommandLine.Program
import StyleTypings.CommandLine.Surroundings
import StyleTypings.Config
import StyleTypings.Decimal.Binary64
import StyleTypings.Decimal.Powers
import StyleTypings.Decimal.Shortest
import StyleTypings.Declaration
import StyleTypings.Diff.Hunk
import StyleTypings.Diff.Script
import StyleTypings.Diff.Unified
import StyleTypings.Disk
import StyleTypings.Extraction
import StyleTypings.Failure
import StyleTypings.Hook
import StyleTypings.Keys.Reader
import StyleTypings.Log
import StyleTypings.Main
import StyleTypings.Options
import StyleTypings.Path
import StyleTypings.Proofs.CommandLine.Alone
import StyleTypings.Proofs.CommandLine.Batch
import StyleTypings.Proofs.CommandLine.Containment
import StyleTypings.Proofs.CommandLine.Elsewhere
import StyleTypings.Proofs.CommandLine.Escapes
import StyleTypings.Proofs.CommandLine.FlagPlaces
import StyleTypings.Proofs.CommandLine.HookAgreement
import StyleTypings.Proofs.CommandLine.Loading
import StyleTypings.Proofs.CommandLine.ModeCounts
import StyleTypings.Proofs.CommandLine.Operands
import StyleTypings.Proofs.CommandLine.Order
import StyleTypings.Proofs.CommandLine.Places
import StyleTypings.Proofs.CommandLine.PlainArguments
import StyleTypings.Proofs.CommandLine.Tasks
import StyleTypings.Proofs.CommandLine.TwinRuns
import StyleTypings.Proofs.CommandLine.UnknownModes
import StyleTypings.Proofs.Declaration.ChangedKeys
import StyleTypings.Proofs.Declaration.DiffMessage
import StyleTypings.Proofs.Declaration.Lines
import StyleTypings.Proofs.Diff.ChangedLines
import StyleTypings.Proofs.Diff.CommonOrder
import StyleTypings.Proofs.Diff.CommonRuns
import StyleTypings.Proofs.Diff.Hunks
import StyleTypings.Proofs.Diff.Printed
import StyleTypings.Proofs.Diff.Scripts
import StyleTypings.Proofs.Disk.Keeping
import StyleTypings.Proofs.Disk.Twins
import StyleTypings.Proofs.Disk.Walking
import StyleTypings.Proofs.Disk.Writing
import StyleTypings.Proofs.Keys.Collected
import StyleTypings.Proofs.Keys.Draining
import StyleTypings.Proofs.Keys.ExportStatements
import StyleTypings.Proofs.Keys.LocalsObject
import StyleTypings.Proofs.Keys.Markers
import StyleTypings.Proofs.Keys.Newlines
import StyleTypings.Proofs.Keys.Patterns
import StyleTypings.Proofs.Keys.PlainKeys
import StyleTypings.Proofs.Keys.Selection
import StyleTypings.Proofs.Keys.Spans
import StyleTypings.Proofs.Log.Outlets
import StyleTypings.Proofs.Log.Sessions
import StyleTypings.Proofs.Options.ModeSources
import StyleTypings.Proofs.Options.Modes
import StyleTypings.Proofs.Path.Naming
import StyleTypings.Proofs.Reconcile.Accesses
import StyleTypings.Proofs.Reconcile.Callbacks
import StyleTypings.Proofs.Reconcile.ExportShape
import StyleTypings.Proofs.Reconcile.LastWriting
import StyleTypings.Proofs.Reconcile.ModeAgreement
import StyleTypings.Proofs.Reconcile.OutdatedDiff
import StyleTypings.Proofs.Reconcile.Readings
import StyleTypings.Proofs.Reconcile.Settled
import StyleTypings.Proofs.Reconcile.SortedFields
import StyleTypings.Proofs.Service.Mirroring
import StyleTypings.Proofs.Service.Payloads
import StyleTypings.Proofs.Service.Rendering
import StyleTypings.Proofs.Text.CodePoints
import StyleTypings.Proofs.Text.Comparison
import StyleTypings.Proofs.Text.Encoding
import StyleTypings.Proofs.Text.FeedLines
import StyleTypings.Proofs.Text.LineEnds
import StyleTypings.Proofs.Text.Newlines
import StyleTypings.Proofs.Text.Search
import StyleTypings.Proofs.Text.WholeLines
import StyleTypings.Reconcile
import StyleTypings.Service.Payload
import StyleTypings.Service.Server
import StyleTypings.Text.Basic
import StyleTypings.Text.Blank
import StyleTypings.Text.Lines
import StyleTypings.Text.Literal
import StyleTypings.Text.Numeral
import StyleTypings.Text.Printable
import StyleTypings.Text.Quoted
import StyleTypings.Text.Utf8
import StyleTypings.Value.Basic
import StyleTypings.Value.Display
import StyleTypings.Value.Json
import StyleTypings.Yaml.Cursor
import StyleTypings.Yaml.Document
import StyleTypings.Yaml.Lexer
import StyleTypings.Yaml.Node
import StyleTypings.Yaml.Scalar
import StyleTypings.Yaml.Tag
import StyleTypings.Yaml.Timestamp
import StyleTypings.Yaml.Token
