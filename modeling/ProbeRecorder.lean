import ProbeRecorder.Batch.Codec
import ProbeRecorder.Batch.Frame
import ProbeRecorder.Command.LogFilter
import ProbeRecorder.Command.Run
import ProbeRecorder.Config.Basic
import ProbeRecorder.Config.Load
import ProbeRecorder.Correlation
import ProbeRecorder.Error
import ProbeRecorder.Event
import ProbeRecorder.Exclusion.Index
import ProbeRecorder.Exclusion.Trie
import ProbeRecorder.Export.Calls
import ProbeRecorder.Export.Format
import ProbeRecorder.FiniteMap
import ProbeRecorder.Identity.Heap
import ProbeRecorder.Identity.LatestCache
import ProbeRecorder.Identity.Map
import ProbeRecorder.Json.Access
import ProbeRecorder.Json.Basic
import ProbeRecorder.Json.Decoder
import ProbeRecorder.Json.Printer
import ProbeRecorder.Json.Token
import ProbeRecorder.Json.Tree
import ProbeRecorder.Main
import ProbeRecorder.Number.Binary
import ProbeRecorder.Number.Layout
import ProbeRecorder.Number.Numeral
import ProbeRecorder.Number.Plain
import ProbeRecorder.Number.Range
import ProbeRecorder.Number.Shortest
import ProbeRecorder.Payload
import ProbeRecorder.Policy.Capture
import ProbeRecorder.Policy.Category
import ProbeRecorder.Policy.Mode
import ProbeRecorder.Probe
import ProbeRecorder.Program.Session
import ProbeRecorder.Program.Variables
import ProbeRecorder.Proofs.Anchors
import ProbeRecorder.Proofs.Attributes
import ProbeRecorder.Proofs.Batch.Compression
import ProbeRecorder.Proofs.Batch.Frame
import ProbeRecorder.Proofs.Batch.RoundTrip
import ProbeRecorder.Proofs.Config.Fields
import ProbeRecorder.Proofs.Config.Layers
import ProbeRecorder.Proofs.Config.Texts
import ProbeRecorder.Proofs.Config.Variables
import ProbeRecorder.Proofs.Correlation
import ProbeRecorder.Proofs.Exclusion.Index
import ProbeRecorder.Proofs.Export.Formats
import ProbeRecorder.Proofs.Export.Grouping
import ProbeRecorder.Proofs.Export.Join
import ProbeRecorder.Proofs.Export.Orphans
import ProbeRecorder.Proofs.Export.Payloads
import ProbeRecorder.Proofs.Identity.Heap
import ProbeRecorder.Proofs.Identity.Latest
import ProbeRecorder.Proofs.Identity.Map
import ProbeRecorder.Proofs.Identity.Purging
import ProbeRecorder.Proofs.Identity.Runs
import ProbeRecorder.Proofs.Identity.TypeKey
import ProbeRecorder.Proofs.Json.Decoding
import ProbeRecorder.Proofs.Json.Lexing
import ProbeRecorder.Proofs.Json.Parsing
import ProbeRecorder.Proofs.Json.RoundTrip
import ProbeRecorder.Proofs.Policy.ConfigText
import ProbeRecorder.Proofs.Policy.Derivation
import ProbeRecorder.Proofs.Program.Completions
import ProbeRecorder.Proofs.Program.Deferred
import ProbeRecorder.Proofs.Program.Guards
import ProbeRecorder.Proofs.Program.History
import ProbeRecorder.Proofs.Program.Modes
import ProbeRecorder.Proofs.Program.Permanence
import ProbeRecorder.Proofs.Program.Registrations
import ProbeRecorder.Proofs.Program.Sources
import ProbeRecorder.Proofs.Program.Statistics
import ProbeRecorder.Proofs.Program.Suppression
import ProbeRecorder.Proofs.Queue
import ProbeRecorder.Proofs.Recorder.Fate
import ProbeRecorder.Proofs.Recorder.Logged
import ProbeRecorder.Proofs.Recorder.Registration
import ProbeRecorder.Proofs.Recorder.Rulings
import ProbeRecorder.Proofs.Recorder.Submissions
import ProbeRecorder.Proofs.Scalar
import ProbeRecorder.Proofs.Settings.Readings
import ProbeRecorder.Proofs.Settings.Underlay
import ProbeRecorder.Proofs.Settings.Writing
import ProbeRecorder.Proofs.Storage.Attempts
import ProbeRecorder.Proofs.Storage.Stored
import ProbeRecorder.Proofs.Text.Cuts
import ProbeRecorder.Proofs.Text.Occurs
import ProbeRecorder.Proofs.Writer.Abandonment
import ProbeRecorder.Proofs.Writer.ClassIndex
import ProbeRecorder.Proofs.Writer.Drain
import ProbeRecorder.Proofs.Writer.Durability
import ProbeRecorder.Proofs.Writer.Rounds
import ProbeRecorder.Proofs.Writer.SameLog
import ProbeRecorder.Queue
import ProbeRecorder.Recorder.Build
import ProbeRecorder.Recorder.Completions
import ProbeRecorder.Recorder.Observe
import ProbeRecorder.Recorder.Producer
import ProbeRecorder.Recorder.Registration
import ProbeRecorder.Recorder.State
import ProbeRecorder.Scalar
import ProbeRecorder.Settings.Environment
import ProbeRecorder.Settings.Layer
import ProbeRecorder.Settings.Setting
import ProbeRecorder.Sink
import ProbeRecorder.Storage.Catalog
import ProbeRecorder.Storage.Damage
import ProbeRecorder.Storage.DatabaseName
import ProbeRecorder.Storage.Disk
import ProbeRecorder.Storage.FileTree
import ProbeRecorder.Storage.Location
import ProbeRecorder.Subject.Completion
import ProbeRecorder.Subject.Script
import ProbeRecorder.Text.Alphanumeric
import ProbeRecorder.Text.Blank
import ProbeRecorder.Text.Hex
import ProbeRecorder.Text.Occurs
import ProbeRecorder.Text.Pattern
import ProbeRecorder.Text.Printable
import ProbeRecorder.Text.Quoted
import ProbeRecorder.Text.Ranges
import ProbeRecorder.Text.Upcase
import ProbeRecorder.Text.Utf8
import ProbeRecorder.Timestamp
import ProbeRecorder.Toml.Document
import ProbeRecorder.Toml.Reader
import ProbeRecorder.Toml.Scalar
import ProbeRecorder.Toml.Table
import ProbeRecorder.Toml.Text
import ProbeRecorder.Toml.Value
import ProbeRecorder.TypeName
import ProbeRecorder.Writer.Archive
import ProbeRecorder.Writer.Drain
import ProbeRecorder.Writer.Log
import ProbeRecorder.Proofs.Timestamp.Calendar
import ProbeRecorder.Proofs.Timestamp.Digits
import ProbeRecorder.Proofs.Export.Times
