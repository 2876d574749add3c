import GrammarLex.Files.FileTree
import GrammarLex.Format.Datum
import GrammarLex.Format.Dialect
import GrammarLex.Format.Digits
import GrammarLex.Format.Json.Compact
import GrammarLex.Format.Json.Document
import GrammarLex.Format.Json.Mark
import GrammarLex.Format.Library
import GrammarLex.Format.Records
import GrammarLex.Format.Toml.Document
import GrammarLex.Format.Toml.Number
import GrammarLex.Format.Toml.Sections
import GrammarLex.Format.Toml.Text
import GrammarLex.Format.Toml.Tree
import GrammarLex.Journal.Entry
import GrammarLex.Journal.Instant
import GrammarLex.Journal.Level
import GrammarLex.Journal.Notice
import GrammarLex.Journal.Registry
import GrammarLex.Journal.Service
import GrammarLex.Journal.Station
import GrammarLex.Journal.Store
import GrammarLex.Scan.Handlers
import GrammarLex.Scan.Intake
import GrammarLex.Scan.Machine
import GrammarLex.Scan.Nesting
import GrammarLex.Scan.Phase
import GrammarLex.Scan.Progress
import GrammarLex.Scan.ScanError
import GrammarLex.Session.Basic
import GrammarLex.Session.Drain
import GrammarLex.Session.Metrics
import GrammarLex.Settings.Environment
import GrammarLex.Settings.Limits
import GrammarLex.Settings.Loading
import GrammarLex.Settings.Preferences
import GrammarLex.Settings.Profile
import GrammarLex.Text.Fault
import GrammarLex.Text.Feed
import GrammarLex.Text.Measure
import GrammarLex.Text.Pending
import GrammarLex.Text.Position
import GrammarLex.Text.Span
import GrammarLex.Token.Basic
import GrammarLex.Token.Buffer
import GrammarLex.Token.Counts
import GrammarLex.Token.Kind
import GrammarLex.Unicode.Alphanumeric
import GrammarLex.Unicode.Blank
import GrammarLex.Unicode.CharSet
import GrammarLex.Unicode.Escaped
import GrammarLex.Proofs.Text.Contents
import GrammarLex.Proofs.Text.Order
import GrammarLex.Proofs.Scan.Intake
import GrammarLex.Proofs.Scan.Ledger
import GrammarLex.Proofs.Reading.Basic
import GrammarLex.Proofs.Scan.Trace
import GrammarLex.Proofs.Reading.Follows
import GrammarLex.Proofs.Scan.Handlers
import GrammarLex.Proofs.Reading.Constructs
import GrammarLex.Proofs.Reading.Actions
import GrammarLex.Proofs.Reading.Dispatch
import GrammarLex.Proofs.Session.Tape
import GrammarLex.Proofs.Session.Requests
import GrammarLex.Proofs.Session.OnePass
import GrammarLex.Proofs.Reading.Segments
import GrammarLex.Proofs.Session.LexemeLimit
import GrammarLex.Proofs.Text.Utf8
import GrammarLex.Proofs.Text.Looks
import GrammarLex.Proofs.Scan.Coupling
import GrammarLex.Proofs.Scan.Moves
import GrammarLex.Proofs.Scan.Agreement
import GrammarLex.Proofs.Session.Coupled
import GrammarLex.Proofs.Session.Consistency
import GrammarLex.Proofs.Journal.Publishing
import GrammarLex.Proofs.Session.Unclosed
import GrammarLex.Proofs.Text.Deliveries
import GrammarLex.Proofs.Session.Delivery
import GrammarLex.Proofs.Scan.CarriageReturn
import GrammarLex.Proofs.Session.Observation
import GrammarLex.Proofs.Scan.Stride
import GrammarLex.Proofs.Scan.Exact
import GrammarLex.Proofs.Scan.Walk
import GrammarLex.Proofs.Session.Course
import GrammarLex.Proofs.Scan.Groups
import GrammarLex.Proofs.Session.Nested
import GrammarLex.Proofs.Session.Likeness
import GrammarLex.Proofs.Scan.Insertion
import GrammarLex.Proofs.Scan.Rounds
import GrammarLex.Proofs.Session.Separators
import GrammarLex.Proofs.Scan.LineEnds
import GrammarLex.Proofs.Session.LineEnds
import GrammarLex.Proofs.Scan.Untouched
import GrammarLex.Proofs.Session.Chronicle
import GrammarLex.Proofs.Session.Failing
import GrammarLex.Proofs.Session.Ending
import GrammarLex.Proofs.Reading.Tiling
import GrammarLex.Proofs.Session.Returns
import GrammarLex.Proofs.Scan.Stops
import GrammarLex.Proofs.Scan.Places
import GrammarLex.Proofs.Session.Order
import GrammarLex.Proofs.Session.Diagnostics
import GrammarLex.Proofs.Scan.Depth
import GrammarLex.Proofs.Session.Tally
import GrammarLex.Proofs.Session.Counting
import GrammarLex.Proofs.Token.Calls
import GrammarLex.Proofs.Token.Windows
import GrammarLex.Proofs.Journal.Installing
import GrammarLex.Proofs.Journal.Keeping
import GrammarLex.Proofs.Settings.Profile
import GrammarLex.Proofs.Format.Library
import GrammarLex.Proofs.Settings.Layers
import GrammarLex.Proofs.Scan.Room
import GrammarLex.Proofs.Session.Room
import GrammarLex.Proofs.Session.FailureSpan
import GrammarLex.Proofs.Scan.Stacking
import GrammarLex.Proofs.Text.Merging
