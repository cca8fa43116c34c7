import ResourceRoutes.Command.Outcome
import ResourceRoutes.Command.Run
import ResourceRoutes.CommandLine
import ResourceRoutes.CommandLine.Arguments
import ResourceRoutes.Config
import ResourceRoutes.Config.File
import ResourceRoutes.Datum
import ResourceRoutes.Decimal
import ResourceRoutes.Document
import ResourceRoutes.Document.Format
import ResourceRoutes.Environment
import ResourceRoutes.Exchange.Readable
import ResourceRoutes.Files
import ResourceRoutes.Files.Tree
import ResourceRoutes.Input
import ResourceRoutes.Input.Path
import ResourceRoutes.Introspection
import ResourceRoutes.Json
import ResourceRoutes.Json.Datum
import ResourceRoutes.Json.Printer
import ResourceRoutes.Json.Readable
import ResourceRoutes.Json.Reader
import ResourceRoutes.Json.Text
import ResourceRoutes.Json.Token
import ResourceRoutes.Log.Event
import ResourceRoutes.Log.Filter
import ResourceRoutes.Log.Line
import ResourceRoutes.Log.Settings
import ResourceRoutes.Main
import ResourceRoutes.Proofs.Command.GatheredFile
import ResourceRoutes.Proofs.Command.Warnings
import ResourceRoutes.Proofs.Config.Environment
import ResourceRoutes.Proofs.Decimal
import ResourceRoutes.Proofs.Exchange.Datum
import ResourceRoutes.Proofs.Exchange.Rearranged
import ResourceRoutes.Proofs.Exchange.Record
import ResourceRoutes.Proofs.Input.Manifest
import ResourceRoutes.Proofs.Input.Output
import ResourceRoutes.Proofs.Introspection.Finding
import ResourceRoutes.Proofs.Introspection.States
import ResourceRoutes.Proofs.Json.Datum
import ResourceRoutes.Proofs.Json.Layout
import ResourceRoutes.Proofs.Json.Reader
import ResourceRoutes.Proofs.Json.RoundTrip
import ResourceRoutes.Proofs.Json.Text
import ResourceRoutes.Proofs.Json.Token
import ResourceRoutes.Proofs.Registry.Events
import ResourceRoutes.Proofs.Registry.Registration
import ResourceRoutes.Proofs.Registry.Schedule
import ResourceRoutes.Proofs.Registry.Workers
import ResourceRoutes.Proofs.Report.Padding
import ResourceRoutes.Proofs.Report.Variants
import ResourceRoutes.Proofs.Resource.Members
import ResourceRoutes.Proofs.Resource.Record
import ResourceRoutes.Proofs.Route.Base
import ResourceRoutes.Proofs.Route.Distinct
import ResourceRoutes.Proofs.Route.Hooks
import ResourceRoutes.Proofs.Route.NormalPrefix
import ResourceRoutes.Proofs.Route.Planned
import ResourceRoutes.Proofs.Route.Prefix
import ResourceRoutes.Proofs.Route.Resolution
import ResourceRoutes.Proofs.Route.Url
import ResourceRoutes.Proofs.Session.Action
import ResourceRoutes.Proofs.Session.Steps
import ResourceRoutes.Proofs.Signature.Conformance
import ResourceRoutes.Proofs.Signature.Requirement
import ResourceRoutes.Proofs.Source.Attachment
import ResourceRoutes.Proofs.Source.FixedNames
import ResourceRoutes.Proofs.Source.Forms
import ResourceRoutes.Proofs.Source.HookRecognition
import ResourceRoutes.Proofs.Source.Ink
import ResourceRoutes.Proofs.Source.KeptBlanks
import ResourceRoutes.Proofs.Source.LastParts
import ResourceRoutes.Proofs.Source.LeftOver
import ResourceRoutes.Proofs.Source.Namesakes
import ResourceRoutes.Proofs.Source.Naming
import ResourceRoutes.Proofs.Source.Parentheses
import ResourceRoutes.Proofs.Source.PlainParts
import ResourceRoutes.Proofs.Source.PlainTypes
import ResourceRoutes.Proofs.Source.Printing
import ResourceRoutes.Proofs.Source.Provenance
import ResourceRoutes.Proofs.Source.Reading.Bounds
import ResourceRoutes.Proofs.Source.Reading.Ordinary
import ResourceRoutes.Proofs.Source.Reading.Paths
import ResourceRoutes.Proofs.Source.Reading.ReadAgain
import ResourceRoutes.Proofs.Source.Reading.Runs
import ResourceRoutes.Proofs.Source.Reading.Types
import ResourceRoutes.Proofs.Source.Receivers
import ResourceRoutes.Proofs.Source.Recognition
import ResourceRoutes.Proofs.Source.ShownTokens
import ResourceRoutes.Proofs.Source.Token.Alone
import ResourceRoutes.Proofs.Source.Token.Literals
import ResourceRoutes.Proofs.Source.Token.Names
import ResourceRoutes.Proofs.Source.Token.Numbers
import ResourceRoutes.Proofs.Source.Token.ReadBack
import ResourceRoutes.Proofs.Source.Token.Reread
import ResourceRoutes.Proofs.Source.Token.Sound
import ResourceRoutes.Proofs.Source.Token.Strings
import ResourceRoutes.Proofs.Source.Token.Throughout
import ResourceRoutes.Proofs.Source.Token.Tidied
import ResourceRoutes.Proofs.Source.TypeForms
import ResourceRoutes.Proofs.Source.Yields
import ResourceRoutes.Proofs.Text.Blank
import ResourceRoutes.Proofs.Text.Casing
import ResourceRoutes.Proofs.Text.Numeral
import ResourceRoutes.Proofs.Text.Pieces
import ResourceRoutes.Proofs.Traversal
import ResourceRoutes.Proofs.Yaml.Cursor
import ResourceRoutes.Proofs.Yaml.Document
import ResourceRoutes.Proofs.Yaml.Node.Grammar
import ResourceRoutes.Proofs.Yaml.Readable
import ResourceRoutes.Proofs.Yaml.RoundTrip
import ResourceRoutes.Proofs.Yaml.Scalar
import ResourceRoutes.Proofs.Yaml.Text.Literal
import ResourceRoutes.Proofs.Yaml.Text.Plain
import ResourceRoutes.Proofs.Yaml.Text.Quoted
import ResourceRoutes.Proofs.Yaml.Text.Style
import ResourceRoutes.Proofs.Yaml.Token.Block
import ResourceRoutes.Proofs.Yaml.Token.Document
import ResourceRoutes.Proofs.Yaml.Token.Layout
import ResourceRoutes.Proofs.Yaml.Token.Scalar
import ResourceRoutes.Registry
import ResourceRoutes.Registry.Pool
import ResourceRoutes.Report
import ResourceRoutes.Report.Record
import ResourceRoutes.Report.Text
import ResourceRoutes.Resource
import ResourceRoutes.Resource.Record
import ResourceRoutes.Route.Hooks
import ResourceRoutes.Route.Hooks.Gate
import ResourceRoutes.Route.Kind
import ResourceRoutes.Route.Path
import ResourceRoutes.Route.Plan
import ResourceRoutes.Route.Plan.Record
import ResourceRoutes.Session
import ResourceRoutes.Signature
import ResourceRoutes.Signature.Validation
import ResourceRoutes.Source.Classification
import ResourceRoutes.Source.Discovery
import ResourceRoutes.Source.Display
import ResourceRoutes.Source.Expression
import ResourceRoutes.Source.Function
import ResourceRoutes.Source.Item
import ResourceRoutes.Source.Naming
import ResourceRoutes.Source.Parser
import ResourceRoutes.Source.Token
import ResourceRoutes.Source.Token.Lexer
import ResourceRoutes.Source.Token.Literal
import ResourceRoutes.Source.Token.Spacing
import ResourceRoutes.Source.Type
import ResourceRoutes.Source.Type.Parser
import ResourceRoutes.Source.TypeNames
import ResourceRoutes.Text.Alphanumeric
import ResourceRoutes.Text.Alphanumeric.Table
import ResourceRoutes.Text.Blank
import ResourceRoutes.Text.Casing
import ResourceRoutes.Text.Casing.Table
import ResourceRoutes.Text.Escaped
import ResourceRoutes.Text.Identifier
import ResourceRoutes.Text.Identifier.Table
import ResourceRoutes.Text.Numeral
import ResourceRoutes.Text.Pieces
import ResourceRoutes.Text.Printable
import ResourceRoutes.Text.Printable.Table
import ResourceRoutes.Text.Ranges
import ResourceRoutes.Text.Replacement
import ResourceRoutes.Yaml.Cursor
import ResourceRoutes.Yaml.Node
import ResourceRoutes.Yaml.Node.Grammar
import ResourceRoutes.Yaml.Printer
import ResourceRoutes.Yaml.Readable
import ResourceRoutes.Yaml.Scalar
import ResourceRoutes.Yaml.Text
import ResourceRoutes.Yaml.Token
import ResourceRoutes.Yaml.Token.Scalar
import ResourceRoutes.Yaml.Token.Scan
