import ProgramTags.Calendar
import ProgramTags.Collection
import ProgramTags.Command
import ProgramTags.Command.Grammar
import ProgramTags.Command.Invocation
import ProgramTags.Command.Reach
import ProgramTags.Command.Scan
import ProgramTags.Command.Word
import ProgramTags.Decimal.Limit
import ProgramTags.Decimal.Numeral
import ProgramTags.Decimal.Shortest
import ProgramTags.Document
import ProgramTags.Dump
import ProgramTags.Dump.Error
import ProgramTags.Dump.Load
import ProgramTags.Export
import ProgramTags.FileSystem
import ProgramTags.FileSystem.Error
import ProgramTags.Journal
import ProgramTags.Json
import ProgramTags.Json.Encoding
import ProgramTags.Json.Error
import ProgramTags.Json.Printer
import ProgramTags.Main
import ProgramTags.Path
import ProgramTags.Program
import ProgramTags.Record
import ProgramTags.Service
import ProgramTags.Session
import ProgramTags.Settings
import ProgramTags.Settings.Load
import ProgramTags.Tag
import ProgramTags.Text.Base64
import ProgramTags.Text.Blank
import ProgramTags.Text.Cased
import ProgramTags.Text.Digit
import ProgramTags.Text.LineEnd
import ProgramTags.Text.LowerCase
import ProgramTags.Text.Position
import ProgramTags.Text.Printable
import ProgramTags.Text.Quoted
import ProgramTags.Text.Surrogates
import ProgramTags.Text.Utf8
import ProgramTags.Value
import ProgramTags.Value.Display
import ProgramTags.Value.Same
import ProgramTags.Yaml
import ProgramTags.Yaml.Cursor
import ProgramTags.Yaml.Document
import ProgramTags.Yaml.Error
import ProgramTags.Yaml.Implicit
import ProgramTags.Yaml.Merge
import ProgramTags.Yaml.Node
import ProgramTags.Yaml.Scalar
import ProgramTags.Yaml.Timestamp
import ProgramTags.Yaml.Token
import ProgramTags.Yaml.Token.Name
import ProgramTags.Yaml.Token.Scalar
import ProgramTags.Yaml.Token.Scan
import ProgramTags.Yaml.Token.Stream
import ProgramTags.Proofs.Appending
import ProgramTags.Proofs.Reports
import ProgramTags.Proofs.Value.Numbers
import ProgramTags.Proofs.Dump.Violations
import ProgramTags.Proofs.Dump.Located
import ProgramTags.Proofs.Dump.RoundTrip
import ProgramTags.Proofs.Gathering
import ProgramTags.Proofs.Document.Reader
import ProgramTags.Proofs.Document.RoundTrip
import ProgramTags.Proofs.Ends
import ProgramTags.Proofs.FileSystem.Growth
import ProgramTags.Proofs.FileSystem.Walk
import ProgramTags.Proofs.FileSystem.Change
import ProgramTags.Proofs.FileSystem.Keeping
import ProgramTags.Proofs.Telling
import ProgramTags.Proofs.Journal.Opening
import ProgramTags.Proofs.Export.Containment
import ProgramTags.Proofs.Text.Utf8
import ProgramTags.Proofs.Export.Documents
import ProgramTags.Proofs.Export.Interrupted
import ProgramTags.Proofs.Export.Loaded
import ProgramTags.Proofs.Collecting
import ProgramTags.Proofs.Export.Effect
import ProgramTags.Proofs.Parallel
import ProgramTags.Proofs.Export.Surrogates
import ProgramTags.Proofs.Service.Agreement
import ProgramTags.Proofs.Xml.Documents
import ProgramTags.Proofs.FileSystem.Alike
import ProgramTags.Proofs.Export.Splitting
import ProgramTags.Proofs.Json.Data
import ProgramTags.Proofs.Json.Reading
import ProgramTags.Proofs.Dump.Loading
import ProgramTags.Proofs.Settings.Loading
import ProgramTags.Proofs.Export.Failures
import ProgramTags.Proofs.Command.Preparing
import ProgramTags.Proofs.Command.Outcomes
import ProgramTags.Proofs.Service.Outcomes
import ProgramTags.Proofs.Propagation
import ProgramTags.Proofs.Export.Keys
import ProgramTags.Proofs.Export.Naming
import ProgramTags.Proofs.Dump.Nulls
import ProgramTags.Proofs.Dump.Strays
import ProgramTags.Proofs.Export.Bodies
import ProgramTags.Proofs.Document.Whole
import ProgramTags.Proofs.Command.Quiet
import ProgramTags.Proofs.Command.Printing
import ProgramTags.Proofs.Command.Output
import ProgramTags.Proofs.Command.Failing
import ProgramTags.Proofs.Journal.Configuring
import ProgramTags.Proofs.Journal.Blocks
import ProgramTags.Proofs.Text.Words
import ProgramTags.Proofs.FileSystem.Detours
import ProgramTags.Proofs.Settings.Meaning
import ProgramTags.Proofs.Settings.Independence
import ProgramTags.Proofs.Accounting
import ProgramTags.Proofs.Command.Ordering
