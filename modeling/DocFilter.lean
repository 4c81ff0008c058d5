import DocFilter.Command.Arguments
import DocFilter.Command.FilterDocument
import DocFilter.Command.Frame
import DocFilter.Command.Help
import DocFilter.Command.Listing
import DocFilter.Command.Logging
import DocFilter.Command.Program
import DocFilter.Command.Request
import DocFilter.Config.Load
import DocFilter.Config.Merge
import DocFilter.Config.Settings
import DocFilter.Config.Toml
import DocFilter.Config.Yaml
import DocFilter.Config.YamlNode
import DocFilter.Config.YamlToken
import DocFilter.Converter
import DocFilter.Decimal.Binary64
import DocFilter.Decimal.Reading
import DocFilter.Decimal.Rounded
import DocFilter.Decimal.Scaling
import DocFilter.Decimal.Shortest
import DocFilter.Diagram
import DocFilter.Dictionary
import DocFilter.Disk
import DocFilter.Document.Node
import DocFilter.Document.Source
import DocFilter.Document.Walk
import DocFilter.Failure
import DocFilter.Filter
import DocFilter.Include
import DocFilter.Json.Display
import DocFilter.Json.Parser
import DocFilter.Json.Printer
import DocFilter.Json.Table
import DocFilter.Json.Value
import DocFilter.Log
import DocFilter.Main
import DocFilter.Moment
import DocFilter.Path
import DocFilter.Proofs.Chain
import DocFilter.Proofs.Command.Configuration
import DocFilter.Proofs.Command.FilterDocument
import DocFilter.Proofs.Command.Options
import DocFilter.Proofs.Computation
import DocFilter.Proofs.Config.Discovery
import DocFilter.Proofs.Config.Load
import DocFilter.Proofs.Config.Looking
import DocFilter.Proofs.Config.Merge
import DocFilter.Proofs.Config.Problems
import DocFilter.Proofs.Converter
import DocFilter.Proofs.Decimal.Units
import DocFilter.Proofs.Diagram
import DocFilter.Proofs.Dictionary
import DocFilter.Proofs.Disk
import DocFilter.Proofs.Document.RoundTrip
import DocFilter.Proofs.Document.Source
import DocFilter.Proofs.Document.View
import DocFilter.Proofs.Filter.Builtin
import DocFilter.Proofs.Filter.Independence
import DocFilter.Proofs.Filter.Regime
import DocFilter.Proofs.Filter.Untouched
import DocFilter.Proofs.Include.Context
import DocFilter.Proofs.Include.Driver
import DocFilter.Proofs.Include.Failures
import DocFilter.Proofs.Include.Isolation
import DocFilter.Proofs.Include.Limit
import DocFilter.Proofs.Include.Nesting
import DocFilter.Proofs.Include.Pass
import DocFilter.Proofs.Include.Spelling
import DocFilter.Proofs.Include.Verbatim
import DocFilter.Proofs.Include.Watching
import DocFilter.Proofs.Json.Keys
import DocFilter.Proofs.Json.Reading
import DocFilter.Proofs.Json.RoundTrip
import DocFilter.Proofs.Json.Scalars
import DocFilter.Proofs.Observing
import DocFilter.Proofs.Path.Canonical
import DocFilter.Proofs.Path.Parents
import DocFilter.Proofs.Path.Readable
import DocFilter.Proofs.Path.Resolving
import DocFilter.Proofs.Path.Room
import DocFilter.Proofs.Prospect
import DocFilter.Proofs.Regime
import DocFilter.Proofs.Registry.Catalog
import DocFilter.Proofs.Registry.Discovery
import DocFilter.Proofs.Registry.Host
import DocFilter.Proofs.Registry.Lookup
import DocFilter.Proofs.Registry.Making
import DocFilter.Proofs.Registry.Names
import DocFilter.Proofs.Registry.Pipeline
import DocFilter.Proofs.Registry.Regime
import DocFilter.Proofs.Registry.Removal
import DocFilter.Proofs.Registry.Spelling
import DocFilter.Proofs.Script.Session
import DocFilter.Proofs.Sql.Block
import DocFilter.Proofs.Sql.Chunk
import DocFilter.Proofs.Sql.Engine
import DocFilter.Proofs.Sql.Failures
import DocFilter.Proofs.Sql.Grid
import DocFilter.Proofs.Sql.Protocol
import DocFilter.Proofs.Sql.Rollback
import DocFilter.Proofs.Sql.Splitting
import DocFilter.Proofs.Sql.Tables
import DocFilter.Proofs.Text.Base64
import DocFilter.Proofs.Text.Blank
import DocFilter.Proofs.Text.Decoding
import DocFilter.Proofs.Text.LineEnds
import DocFilter.Proofs.Text.Utf8
import DocFilter.Proofs.Walk.Answers
import DocFilter.Proofs.Walk.Branches
import DocFilter.Proofs.Walk.Calls
import DocFilter.Proofs.Walk.Fixpoint
import DocFilter.Proofs.Walk.Rules
import DocFilter.Proofs.Walk.Sweep
import DocFilter.Proofs.World
import DocFilter.Registry.Builtin
import DocFilter.Registry.Metadata
import DocFilter.Registry.Pipeline
import DocFilter.Registry.Registry
import DocFilter.Script.Arithmetic
import DocFilter.Script.Check
import DocFilter.Script.Expression
import DocFilter.Script.Filter
import DocFilter.Script.Grammar.Operand
import DocFilter.Script.Grammar.Rules
import DocFilter.Script.Grammar.Statement
import DocFilter.Script.Grammar.Target
import DocFilter.Script.Interpreter
import DocFilter.Script.Literal
import DocFilter.Script.Operation
import DocFilter.Script.Raised
import DocFilter.Script.Reader
import DocFilter.Script.Run
import DocFilter.Script.Step
import DocFilter.Script.Template
import DocFilter.Script.Token
import DocFilter.Script.Value
import DocFilter.Sql.Completion
import DocFilter.Sql.Connection
import DocFilter.Sql.Filter
import DocFilter.Sql.ResultSet
import DocFilter.Sql.Splitting
import DocFilter.Sql.Statement
import DocFilter.Sql.Tables
import DocFilter.Sql.Token
import DocFilter.Text.Base64
import DocFilter.Text.Blank
import DocFilter.Text.Cased
import DocFilter.Text.Compatible
import DocFilter.Text.Digits
import DocFilter.Text.Lines
import DocFilter.Text.LowerCase
import DocFilter.Text.NamePart
import DocFilter.Text.Printable
import DocFilter.Text.Quoted
import DocFilter.Text.Stream
import DocFilter.Text.Utf8
import DocFilter.World
