import ReplEngine.CommandLine
import ReplEngine.Cursor.Expression
import ReplEngine.Cursor.Place
import ReplEngine.Decimal.FloatText
import ReplEngine.Decimal.Shortest
import ReplEngine.Error
import ReplEngine.Evaluation
import ReplEngine.Expansion
import ReplEngine.Json.Access
import ReplEngine.Json.Basic
import ReplEngine.Json.Reader
import ReplEngine.Json.SourceText
import ReplEngine.Json.Writer
import ReplEngine.Language.Fault
import ReplEngine.Language.Host
import ReplEngine.Language.Machine
import ReplEngine.Language.Memory
import ReplEngine.Language.Reader
import ReplEngine.Language.Run
import ReplEngine.Language.Token
import ReplEngine.Language.Tree
import ReplEngine.Layout
import ReplEngine.Main
import ReplEngine.Pattern.Basic
import ReplEngine.Pattern.Match
import ReplEngine.Pattern.Reader
import ReplEngine.Program.Basic
import ReplEngine.Program.Documentation
import ReplEngine.Program.Lineage
import ReplEngine.Program.Lookup
import ReplEngine.Program.Member
import ReplEngine.Program.Names
import ReplEngine.Program.Namespace
import ReplEngine.Program.Relation
import ReplEngine.Program.Source
import ReplEngine.Program.Symbol
import ReplEngine.Proofs.Scan.Lookahead
import ReplEngine.Repl
import ReplEngine.Scan.Statement
import ReplEngine.Scan.Token
import ReplEngine.Session.Basic
import ReplEngine.Session.Completion
import ReplEngine.Session.Event
import ReplEngine.Session.LineEditor
import ReplEngine.Settings
import ReplEngine.Sorting
import ReplEngine.Template
import ReplEngine.Text.CharClass
import ReplEngine.Text.LetterCase
import ReplEngine.Text.Lines
import ReplEngine.Text.Quoted
import ReplEngine.Text.Utf8
import ReplEngine.Value.Basic
import ReplEngine.Value.Message
import ReplEngine.Value.Order
import ReplEngine.Value.Text
import ReplEngine.Wire.Exchange
import ReplEngine.Wire.Frame
import ReplEngine.Wire.Message
import ReplEngine.Wire.Pair
import ReplEngine.Wire.Transport
import ReplEngine.Worker.Basic
import ReplEngine.Worker.Peer
import ReplEngine.Worker.Request
import ReplEngine.Worker.Service
import ReplEngine.Yaml.Document
import ReplEngine.Yaml.Scalar
import ReplEngine.Yaml.Token
import ReplEngine.Proofs.Scan.Feeding
import ReplEngine.Proofs.Json.Scalars
import ReplEngine.Proofs.Text.Utf8
import ReplEngine.Proofs.Json.RoundTrip
import ReplEngine.Proofs.Wire.Frame
import ReplEngine.Proofs.Worker.Isolation
import ReplEngine.Proofs.Wire.Stream
import ReplEngine.Proofs.Scan.Commentary
import ReplEngine.Proofs.Session.Sending
import ReplEngine.Proofs.Scan.Leftover
import ReplEngine.Proofs.Session.Script
import ReplEngine.Proofs.Wire.Pairing
import ReplEngine.Value.Literal
import ReplEngine.Proofs.Layout.ReadBack
import ReplEngine.Proofs.Decimal.Width
import ReplEngine.Proofs.Json.Extent
import ReplEngine.Proofs.Wire.Refusal
import ReplEngine.Proofs.Worker.Bodies
import ReplEngine.Proofs.Worker.Answering
import ReplEngine.Proofs.Worker.Service
import ReplEngine.Proofs.Session.Controller
import ReplEngine.Proofs.Scan.Position
import ReplEngine.Proofs.Scan.Terminator
import ReplEngine.Proofs.Scan.Boundary
import ReplEngine.Proofs.Session.Work
import ReplEngine.Proofs.Scan.Nesting
import ReplEngine.Proofs.Scan.Decoration
import ReplEngine.Proofs.Text.Cutting
import ReplEngine.Proofs.Cursor.Matching
import ReplEngine.Proofs.Cursor.Symbol
import ReplEngine.Proofs.Cursor.Call
import ReplEngine.Proofs.Session.Completing
import ReplEngine.Proofs.Cursor.SelfContained
import ReplEngine.Proofs.Worker.Exit
import ReplEngine.Proofs.Worker.Settling
import ReplEngine.Proofs.Program.Evaluating
import ReplEngine.Proofs.Worker.Lookups
import ReplEngine.Proofs.Expansion.Readers
import ReplEngine.Proofs.Program.Narrowing
import ReplEngine.Proofs.Expansion.Splicing
import ReplEngine.Proofs.Expansion.UseLines
import ReplEngine.Proofs.Program.Bindings
import ReplEngine.Proofs.Program.Grouping
import ReplEngine.Proofs.Program.Listing
import ReplEngine.Proofs.Program.Privacy
import ReplEngine.Proofs.Program.Naming
import ReplEngine.Proofs.Layout.Depth
import ReplEngine.Proofs.Value.Sorted
import ReplEngine.Proofs.Value.Kinds
import ReplEngine.Proofs.Layout.Reordering
import ReplEngine.Proofs.Text.Hanging
import ReplEngine.Proofs.Session.Exhaustion
import ReplEngine.Proofs.Layout.Indentation
import ReplEngine.Proofs.Failure
import ReplEngine.Proofs.Pattern.Reading
import ReplEngine.Proofs.Scan.Junction
import ReplEngine.Proofs.Settings.Acceptance
import ReplEngine.Proofs.Settings.NormalForm
import ReplEngine.Proofs.Settings.Refusal
import ReplEngine.Proofs.Settings.Starting
