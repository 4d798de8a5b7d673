import Telemetry.Catalog
import Telemetry.Cli.Json
import Telemetry.Cli.LogFilter
import Telemetry.Cli.Options
import Telemetry.Cli.Report
import Telemetry.Cli.Request
import Telemetry.Cli.Run
import Telemetry.Collector.Graph
import Telemetry.Collector.Node
import Telemetry.Compile.Basic
import Telemetry.Compile.Collectd
import Telemetry.Compile.Collector
import Telemetry.Compile.LogEngine
import Telemetry.Config.Basic
import Telemetry.Config.Check
import Telemetry.Config.Decode
import Telemetry.Config.Read
import Telemetry.Digest
import Telemetry.Domain
import Telemetry.Error
import Telemetry.Exporter
import Telemetry.Interval
import Telemetry.Keyed
import Telemetry.Logging.AppLog
import Telemetry.Logging.FileSource
import Telemetry.Logging.LineRules
import Telemetry.Logging.ModifyFields
import Telemetry.Logging.Parse
import Telemetry.Logging.Processor
import Telemetry.Logging.Receiver
import Telemetry.Main
import Telemetry.Metrics.Processor
import Telemetry.Metrics.Receiver
import Telemetry.Number.Magnitude
import Telemetry.Number.Shortest
import Telemetry.Pattern
import Telemetry.Pipeline.Resolve
import Telemetry.Pipeline.Simplify
import Telemetry.Platform
import Telemetry.Section.Basic
import Telemetry.Section.Endpoint
import Telemetry.Section.Filter
import Telemetry.Section.Layout
import Telemetry.Section.Parser
import Telemetry.Section.Registry
import Telemetry.Section.Script
import Telemetry.Section.Tag
import Telemetry.Settings.Basic
import Telemetry.Settings.Read
import Telemetry.Storage.Basic
import Telemetry.Storage.Volume
import Telemetry.Text.Blank
import Telemetry.Text.Quoted
import Telemetry.Text.Replace
import Telemetry.Text.Unprintable
import Telemetry.Toml.Document
import Telemetry.Toml.Scalar
import Telemetry.Toml.Statement
import Telemetry.Toml.Value
import Telemetry.Tree
import Telemetry.Value
import Telemetry.Yaml.Cursor
import Telemetry.Yaml.Document
import Telemetry.Yaml.Element
import Telemetry.Yaml.Lexer
import Telemetry.Yaml.Plain
import Telemetry.Yaml.Scalar
import Telemetry.Yaml.Token
import Telemetry.Yaml.Writer
import Telemetry.Proofs.Failing
import Telemetry.Proofs.Keyed
import Telemetry.Proofs.Regex
import Telemetry.Proofs.Section
import Telemetry.Proofs.Text
import Telemetry.Proofs.Accepted
import Telemetry.Proofs.Resolve
import Telemetry.Proofs.Simplify
import Telemetry.Proofs.Names
import Telemetry.Proofs.Instance
import Telemetry.Proofs.InstanceNames
import Telemetry.Proofs.Registry
import Telemetry.Proofs.Run
import Telemetry.Proofs.Layout
import Telemetry.Proofs.Outcome
import Telemetry.Proofs.ParserNames
import Telemetry.Proofs.Positions
import Telemetry.Proofs.Routing
import Telemetry.Proofs.Requests
import Telemetry.Proofs.Assembly
import Telemetry.Proofs.ComponentNames
import Telemetry.Proofs.Document
import Telemetry.Proofs.CollectorRun
import Telemetry.Proofs.Wildcard
import Telemetry.Proofs.SectionFile
import Telemetry.Proofs.Written
import Telemetry.Proofs.InstanceTexts
import Telemetry.Proofs.Readable
import Telemetry.Proofs.SectionOrder
import Telemetry.Proofs.Isolation
import Telemetry.Proofs.TagFamilies
import Telemetry.Proofs.Records
import Telemetry.Proofs.FieldSources
import Telemetry.Proofs.ValueTables
import Telemetry.Proofs.PackedValues
import Telemetry.Proofs.PackedParts
import Telemetry.Proofs.References
import Telemetry.Proofs.Wiring
import Telemetry.Proofs.Rename
import Telemetry.Proofs.LineMachine
import Telemetry.Proofs.MovedRules
import Telemetry.Proofs.Ports
import Telemetry.Proofs.Agreement
import Telemetry.Proofs.Components
import Telemetry.Proofs.Explained
import Telemetry.Proofs.ListedTypes
import Telemetry.Proofs.Binding
import Telemetry.Proofs.Digest
import Telemetry.Proofs.Calls
import Telemetry.Proofs.AccessLogs
import Telemetry.Proofs.Lua
import Telemetry.Proofs.Scripts
import Telemetry.Proofs.Dollars
import Telemetry.Proofs.Expansion
import Telemetry.Proofs.CollectorLevel
import Telemetry.Proofs.Literals
import Telemetry.Proofs.ParsedField
import Telemetry.Proofs.Quotation
import Telemetry.Proofs.SparedField
import Telemetry.Proofs.NamedGroups
import Telemetry.Proofs.StatementTexts
import Telemetry.Proofs.Glob
import Telemetry.Proofs.Volume
import Telemetry.Proofs.SelfLogs
import Telemetry.Proofs.Commands
import Telemetry.Proofs.Shuffled
import Telemetry.Proofs.Reordered
import Telemetry.Proofs.BlankText
import Telemetry.Proofs.ValueOrder
import Telemetry.Proofs.KeyOrder
import Telemetry.Proofs.ParserCalls
import Telemetry.Proofs.IntervalLimit
import Telemetry.Proofs.LayoutOutcome
import Telemetry.Proofs.RawFiles
import Telemetry.Proofs.SectionText
import Telemetry.Proofs.SharedReceivers
import Telemetry.Proofs.TagCollisions
import Telemetry.Proofs.Passes
import Telemetry.Proofs.MetricsBinding
import Telemetry.Proofs.ClientTags
import Telemetry.Proofs.Precedence
