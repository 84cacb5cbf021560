import RecordingIndex.Backend
import RecordingIndex.Command.Perform
import RecordingIndex.Command.Text
import RecordingIndex.CommandLine.Arguments
import RecordingIndex.CommandLine.Program
import RecordingIndex.CommandLine.Surroundings
import RecordingIndex.Database.Basic
import RecordingIndex.Database.Image
import RecordingIndex.Database.Query
import RecordingIndex.Database.Segment
import RecordingIndex.Decimal.Binary64
import RecordingIndex.Decimal.Digits
import RecordingIndex.Decimal.Shortest
import RecordingIndex.Failure
import RecordingIndex.FileSystem.Basic
import RecordingIndex.FileSystem.Error
import RecordingIndex.FileSystem.Operations
import RecordingIndex.FileSystem.Resolve
import RecordingIndex.Index.File
import RecordingIndex.Index.Schema
import RecordingIndex.Index.Text
import RecordingIndex.Json.Number
import RecordingIndex.Json.Reader
import RecordingIndex.Json.Token
import RecordingIndex.Log.Event
import RecordingIndex.Log.Filter
import RecordingIndex.Log.Line
import RecordingIndex.Main
import RecordingIndex.Metadata
import RecordingIndex.Mismatch
import RecordingIndex.Notice
import RecordingIndex.Path
import RecordingIndex.Proofs.Command.Rebuild
import RecordingIndex.Proofs.Command.Segments
import RecordingIndex.Proofs.Command.Table
import RecordingIndex.Proofs.CommandLine.Program
import RecordingIndex.Proofs.Database.Columns
import RecordingIndex.Proofs.Database.Counts
import RecordingIndex.Proofs.Database.Groups
import RecordingIndex.Proofs.Database.Segment
import RecordingIndex.Proofs.Database.TimeRange
import RecordingIndex.Proofs.Decimal.Digits
import RecordingIndex.Proofs.Except
import RecordingIndex.Proofs.FileSystem.Change
import RecordingIndex.Proofs.FileSystem.Entry
import RecordingIndex.Proofs.FileSystem.Frame
import RecordingIndex.Proofs.FileSystem.Plain
import RecordingIndex.Proofs.FileSystem.Tree
import RecordingIndex.Proofs.FileSystem.Way
import RecordingIndex.Proofs.Index.Again
import RecordingIndex.Proofs.Index.Frame
import RecordingIndex.Proofs.Index.Meaning
import RecordingIndex.Proofs.Index.Moments
import RecordingIndex.Proofs.Index.Outcome
import RecordingIndex.Proofs.Index.RoundTrip
import RecordingIndex.Proofs.Index.Store
import RecordingIndex.Proofs.Json.Record
import RecordingIndex.Proofs.List
import RecordingIndex.Proofs.Metadata
import RecordingIndex.Proofs.Path.Child
import RecordingIndex.Proofs.Path.Name
import RecordingIndex.Proofs.Registry
import RecordingIndex.Proofs.Reindex.Again
import RecordingIndex.Proofs.Reindex.Alike
import RecordingIndex.Proofs.Reindex.Bytes
import RecordingIndex.Proofs.Reindex.Calls
import RecordingIndex.Proofs.Reindex.Course
import RecordingIndex.Proofs.Reindex.Files
import RecordingIndex.Proofs.Reindex.Handles
import RecordingIndex.Proofs.Reindex.Persistence
import RecordingIndex.Proofs.Reindex.Progress
import RecordingIndex.Proofs.Reindex.Recovery
import RecordingIndex.Proofs.Reindex.Report
import RecordingIndex.Proofs.Reindex.Run
import RecordingIndex.Proofs.Reindex.Session
import RecordingIndex.Proofs.Segment.Discovery
import RecordingIndex.Proofs.Segment.Fault
import RecordingIndex.Proofs.Segment.FirstFault
import RecordingIndex.Proofs.Segment.Listing
import RecordingIndex.Proofs.Segment.Order
import RecordingIndex.Proofs.Settings.Given
import RecordingIndex.Proofs.Settings.Precedence
import RecordingIndex.Proofs.Settings.Template
import RecordingIndex.Proofs.Text.Utf8
import RecordingIndex.Proofs.Toml.Line
import RecordingIndex.Proofs.Yaml.Block
import RecordingIndex.Proofs.Yaml.Character
import RecordingIndex.Proofs.Yaml.Decoder
import RecordingIndex.Proofs.Yaml.Event
import RecordingIndex.Proofs.Yaml.Lexer
import RecordingIndex.Proofs.Yaml.Lines
import RecordingIndex.Proofs.Yaml.Node
import RecordingIndex.Proofs.Yaml.Plain
import RecordingIndex.Proofs.Yaml.Quoted
import RecordingIndex.Proofs.Yaml.Style
import RecordingIndex.Reindex.Options
import RecordingIndex.Reindex.Progress
import RecordingIndex.Reindex.Reconcile
import RecordingIndex.Reindex.Recovery
import RecordingIndex.Reindex.Run
import RecordingIndex.Reindex.Stage
import RecordingIndex.Segment.Basic
import RecordingIndex.Segment.Discovery
import RecordingIndex.Segment.Order
import RecordingIndex.Settings.Basic
import RecordingIndex.Settings.File
import RecordingIndex.Text.Column
import RecordingIndex.Text.Quoted
import RecordingIndex.Text.Shape
import RecordingIndex.Text.Utf8
import RecordingIndex.Toml.Document
import RecordingIndex.Toml.Fault
import RecordingIndex.Toml.Number
import RecordingIndex.Toml.Record
import RecordingIndex.Toml.Table
import RecordingIndex.Toml.Text
import RecordingIndex.Toml.Value
import RecordingIndex.Yaml.Character
import RecordingIndex.Yaml.Cursor
import RecordingIndex.Yaml.Decoder
import RecordingIndex.Yaml.Event
import RecordingIndex.Yaml.Fault
import RecordingIndex.Yaml.Node
import RecordingIndex.Yaml.Scalar
import RecordingIndex.Yaml.Style
import RecordingIndex.Yaml.Token.Basic
import RecordingIndex.Yaml.Token.Block
import RecordingIndex.Yaml.Token.Gap
import RecordingIndex.Yaml.Token.Lexer
import RecordingIndex.Yaml.Token.Plain
import RecordingIndex.Yaml.Token.Property
import RecordingIndex.Yaml.Token.Quoted
