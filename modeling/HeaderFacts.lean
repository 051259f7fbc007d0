import HeaderFacts.CommandLine.Basic
import HeaderFacts.CommandLine.Run
import HeaderFacts.CommandLine.World
import HeaderFacts.Config.Basic
import HeaderFacts.Config.KeyPath
import HeaderFacts.Config.Setting
import HeaderFacts.Decl.Basic
import HeaderFacts.Decl.Kind
import HeaderFacts.Dialect
import HeaderFacts.Directive.Arg
import HeaderFacts.Directive.Basic
import HeaderFacts.Directive.Define
import HeaderFacts.Directive.Flag
import HeaderFacts.Directive.Options
import HeaderFacts.Directive.Property
import HeaderFacts.Dump.Basic
import HeaderFacts.Dump.Catalog
import HeaderFacts.Dump.Json
import HeaderFacts.Dump.Load
import HeaderFacts.Dump.Request
import HeaderFacts.Dump.Session
import HeaderFacts.Dump.Yaml
import HeaderFacts.Error
import HeaderFacts.Fact
import HeaderFacts.File.Fault
import HeaderFacts.File.System
import HeaderFacts.File.Tree
import HeaderFacts.Fingerprint
import HeaderFacts.Json.Basic
import HeaderFacts.Json.Reader
import HeaderFacts.KeyMap
import HeaderFacts.Main
import HeaderFacts.Module.Basic
import HeaderFacts.Module.Emission
import HeaderFacts.Module.Layout
import HeaderFacts.Module.Registry
import HeaderFacts.Module.Selection
import HeaderFacts.Module.Table
import HeaderFacts.Module.Variant
import HeaderFacts.Pattern.Bracket
import HeaderFacts.Pattern.CharSet
import HeaderFacts.Pattern.Escape
import HeaderFacts.Pattern.Expr
import HeaderFacts.Pattern.Flags
import HeaderFacts.Pattern.NamePattern
import HeaderFacts.Pattern.Reader
import HeaderFacts.Row
import HeaderFacts.Template.Log
import HeaderFacts.Template.Markers
import HeaderFacts.Template.Render
import HeaderFacts.Template.Scan
import HeaderFacts.Text.Blank
import HeaderFacts.Text.Line
import HeaderFacts.Text.Literal
import HeaderFacts.Text.Numeral
import HeaderFacts.Text.Search
import HeaderFacts.Toml.Document
import HeaderFacts.Toml.Float
import HeaderFacts.Toml.Scalar
import HeaderFacts.Toml.Value
import HeaderFacts.Unicode.Alphabetic
import HeaderFacts.Unicode.CaseFolding
import HeaderFacts.Unicode.Number
import HeaderFacts.Unicode.RangeTable
import HeaderFacts.Unicode.Word
import HeaderFacts.Word64
import HeaderFacts.Yaml.Cursor
import HeaderFacts.Yaml.Node
import HeaderFacts.Yaml.Scalar
import HeaderFacts.Yaml.Token
import HeaderFacts.Proofs.Scanning
import HeaderFacts.Proofs.Tiling
import HeaderFacts.Proofs.TemplateFaults
import HeaderFacts.Proofs.Rendering
import HeaderFacts.Proofs.Composition
import HeaderFacts.Proofs.Evaluation
import HeaderFacts.Proofs.SoleMatch
import HeaderFacts.Proofs.EveryMatch
import HeaderFacts.Proofs.Variants
import HeaderFacts.Proofs.IndependentLookups
import HeaderFacts.Directive.Canonical
import HeaderFacts.Proofs.Words
import HeaderFacts.Proofs.Arguments
import HeaderFacts.Proofs.RoundTrip
import HeaderFacts.Proofs.Literals
import HeaderFacts.Proofs.BakedPlatform
import HeaderFacts.Proofs.HostPlatform
import HeaderFacts.Proofs.TripleSystems
import HeaderFacts.Proofs.KindHint
import HeaderFacts.Proofs.Overlooked
import HeaderFacts.Proofs.CellRuns
import HeaderFacts.Proofs.FixedPoint
import HeaderFacts.Proofs.Wrapping
import HeaderFacts.Proofs.Validation
import HeaderFacts.Proofs.RunEndings
import HeaderFacts.Proofs.AllOrNothing
import HeaderFacts.Proofs.RecordedFacts
import HeaderFacts.Proofs.WrittenDumps
import HeaderFacts.Proofs.Placeholders
import HeaderFacts.Proofs.Matching
import HeaderFacts.Proofs.SteadyReading
import HeaderFacts.Proofs.Anchoring
import HeaderFacts.Proofs.HiddenLines
import HeaderFacts.Proofs.LineEndings
import HeaderFacts.Proofs.OpenedSessions
import HeaderFacts.Proofs.Visibility
import HeaderFacts.Proofs.FlagOrder
import HeaderFacts.Proofs.OffsetMember
import HeaderFacts.Proofs.NameFilters
import HeaderFacts.Proofs.OpaqueLayout
import HeaderFacts.Proofs.ByteOrder
import HeaderFacts.Proofs.KeyMaps
import HeaderFacts.Proofs.QuotedNames
import HeaderFacts.Proofs.Registrations
import HeaderFacts.Proofs.EarlyStops
