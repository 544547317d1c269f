import ApiContract.Call.Basic
import ApiContract.Call.Building
import ApiContract.Call.Draft
import ApiContract.Call.Evaluation
import ApiContract.Code.Client
import ApiContract.Code.Conversion
import ApiContract.Code.Documentation
import ApiContract.Code.ElementModel
import ApiContract.Code.EnumFile
import ApiContract.Code.Field
import ApiContract.Code.Grammar.Rules
import ApiContract.Code.Grammar.Expression
import ApiContract.Code.Grammar.Item
import ApiContract.Code.Grammar.Path
import ApiContract.Code.Grammar.Pattern
import ApiContract.Code.Grammar.Statement
import ApiContract.Code.Grammar.Type
import ApiContract.Code.Handler
import ApiContract.Code.HeaderFile
import ApiContract.Code.ModelFile
import ApiContract.Code.Models
import ApiContract.Code.ObjectFile
import ApiContract.Code.Operation
import ApiContract.Code.SharedModule
import ApiContract.Code.Template
import ApiContract.Code.Token
import ApiContract.Code.Tree
import ApiContract.Code.Tree.Literal
import ApiContract.Code.Tree.Reader
import ApiContract.Code.TypePath
import ApiContract.Command.Options
import ApiContract.Command.Run
import ApiContract.Configuration
import ApiContract.Decimal.Binary32
import ApiContract.Decimal.Shortest
import ApiContract.Decimal.Notation
import ApiContract.Dispatch.Basic
import ApiContract.Dispatch.Building
import ApiContract.Dispatch.Handling
import ApiContract.Document.Node
import ApiContract.Document.Shape
import ApiContract.Failure
import ApiContract.Files.Host
import ApiContract.Files.Tree
import ApiContract.Generation.Artifact
import ApiContract.Generation.Input
import ApiContract.Generation.Library
import ApiContract.Generation.Run
import ApiContract.Generation.Writing
import ApiContract.Grouping
import ApiContract.Http.Message
import ApiContract.Json.Basic
import ApiContract.Json.Printer
import ApiContract.Json.Reader
import ApiContract.Main
import ApiContract.Model.Basic
import ApiContract.Model.Loading
import ApiContract.Model.Operation
import ApiContract.Model.Reading
import ApiContract.Model.Schema
import ApiContract.Model.Writing
import ApiContract.Naming
import ApiContract.Plan.Basic
import ApiContract.Plan.Building
import ApiContract.Plan.Memo
import ApiContract.Proofs.Call.Entries
import ApiContract.Proofs.Call.Links
import ApiContract.Proofs.Call.NextLink
import ApiContract.Proofs.Call.Signature
import ApiContract.Proofs.Call.Steps
import ApiContract.Proofs.Decimal.Digits
import ApiContract.Proofs.Decimal.Notation
import ApiContract.Proofs.Decimal.Rounding
import ApiContract.Proofs.Decimal.Shortest
import ApiContract.Proofs.Http.Query
import ApiContract.Proofs.Json.Conformance
import ApiContract.Proofs.Json.Numbers
import ApiContract.Proofs.Json.Properties
import ApiContract.Proofs.Json.Returns
import ApiContract.Proofs.Json.RoundTrip
import ApiContract.Proofs.Json.Tables
import ApiContract.Proofs.Json.Text
import ApiContract.Proofs.Memo.Planning
import ApiContract.Proofs.Memo.Plans
import ApiContract.Proofs.Memo.Session
import ApiContract.Proofs.Memo.Types
import ApiContract.Proofs.Plan.Closure
import ApiContract.Proofs.Plan.References
import ApiContract.Proofs.Plan.Roles
import ApiContract.Proofs.Results
import ApiContract.Proofs.Text.Base64
import ApiContract.Proofs.Text.Cut
import ApiContract.Proofs.Text.Percent
import ApiContract.Proofs.Text.Run
import ApiContract.Proofs.Url.Origin
import ApiContract.Proofs.Value.Entries
import ApiContract.Proofs.Value.Nesting
import ApiContract.Proofs.Value.Scalar
import ApiContract.Proofs.Value.ScalarText
import ApiContract.Proofs.Xml.Children
import ApiContract.Proofs.Xml.Record
import ApiContract.Proofs.Xml.Tag
import ApiContract.Proofs.Xml.Parse
import ApiContract.Proofs.Xml.Returns
import ApiContract.Proofs.Xml.RoundTrip
import ApiContract.Proofs.Xml.Tables
import ApiContract.Text.Base64
import ApiContract.Text.Casing
import ApiContract.Text.CharClass
import ApiContract.Text.CharTable
import ApiContract.Text.Composition
import ApiContract.Text.CompositionTable
import ApiContract.Text.Cut
import ApiContract.Text.Hexadecimal
import ApiContract.Text.Literal
import ApiContract.Text.Percent
import ApiContract.Text.Rows
import ApiContract.Text.Utf8
import ApiContract.Text.WordTable
import ApiContract.Types.Basic
import ApiContract.Types.Hierarchy
import ApiContract.Types.Resolution
import ApiContract.Url.Host
import ApiContract.Url.Basic
import ApiContract.Url.Domain
import ApiContract.Url.DomainTable
import ApiContract.Value.Basic
import ApiContract.Value.JsonForm
import ApiContract.Value.Scalar
import ApiContract.Value.XmlForm
import ApiContract.Xml.Element
import ApiContract.Xml.Event
import ApiContract.Xml.Reader
import ApiContract.Yaml.Text
import ApiContract.Yaml.Reader
import ApiContract.Yaml.Scalar
import ApiContract.Yaml.Token
import ApiContract.Proofs.Call.Queries
import ApiContract.Proofs.Call.Completeness
import ApiContract.Proofs.Json.Normalization
import ApiContract.Proofs.Json.Steps
import ApiContract.Proofs.Json.KnownKeys
import ApiContract.Proofs.Json.Limit
import ApiContract.Proofs.Json.Places
import ApiContract.Proofs.Json.Ending
import ApiContract.Proofs.Value.Strict
import ApiContract.Proofs.Json.Writing
import ApiContract.Proofs.Json.Acceptance
import ApiContract.Proofs.Xml.Acceptance
import ApiContract.Proofs.Value.Acceptance
import ApiContract.Proofs.Naming
import ApiContract.Proofs.Grouping.Filing
import ApiContract.Proofs.Grouping.Partition
import ApiContract.Proofs.Value.Failures
import ApiContract.Proofs.Json.Failures
import ApiContract.Proofs.Xml.Failures
import ApiContract.Proofs.Value.Planned
import ApiContract.Proofs.Json.Variants
import ApiContract.Proofs.Text.Casing
import ApiContract.Proofs.Files.Path
import ApiContract.Proofs.Grouping.Paths
import ApiContract.Proofs.Code.Complete
import ApiContract.Proofs.Generation.Tables
import ApiContract.Proofs.Generation.Run
import ApiContract.Proofs.Generation.Files
import ApiContract.Proofs.Generation.Complete
import ApiContract.Proofs.Generation.Confinement
import ApiContract.Proofs.Generation.Elements
import ApiContract.Proofs.Dispatch.Planning
import ApiContract.Proofs.Dispatch.Handling
import ApiContract.Proofs.Dispatch.Soundness
import ApiContract.Proofs.Types.VisitOrder
import ApiContract.Proofs.Code.FiniteSize
import ApiContract.Proofs.Code.Modules
import ApiContract.Proofs.Generation.Artifacts
import ApiContract.Proofs.Generation.Routes
import ApiContract.Proofs.Types.Variants
import ApiContract.Proofs.Generation.Independence
import ApiContract.Proofs.Generation.Reordering
import ApiContract.Proofs.Document.Plain
import ApiContract.Proofs.Document.Faithful
import ApiContract.Proofs.Document.Choice
import ApiContract.Proofs.Model.RoundTrip
import ApiContract.Proofs.Generation.Exports
import ApiContract.Proofs.Types.Lineage
import ApiContract.Proofs.Call.Unset
import ApiContract.Proofs.Types.Walks
import ApiContract.Proofs.Plan.Circles
import ApiContract.Proofs.Plan.Ending
import ApiContract.Proofs.Json.Ending
import ApiContract.Proofs.Call.Route
import ApiContract.Proofs.Plan.Placement
import ApiContract.Proofs.Value.Defaults
import ApiContract.Proofs.Xml.Tokens
import ApiContract.Proofs.Xml.Layout
import ApiContract.Proofs.Types.Bases
import ApiContract.Proofs.Dispatch.Headers
import ApiContract.Proofs.Files.Changes
import ApiContract.Proofs.Generation.Writing
