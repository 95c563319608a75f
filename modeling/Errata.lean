import Errata.Attributes
import Errata.Class.Basic
import Errata.Class.Call
import Errata.Class.Declaration
import Errata.Class.Hint
import Errata.Class.Instance
import Errata.Class.Linearization
import Errata.Class.Source
import Errata.Class.Subject
import Errata.Cli.Invocation
import Errata.Cli.Options
import Errata.Cli.Output
import Errata.Cli.Run
import Errata.Compile
import Errata.Console.Colour
import Errata.Console.Emoji
import Errata.Console.EmojiTable
import Errata.Console.Handler
import Errata.Console.Markup
import Errata.Console.Style
import Errata.Console.Table
import Errata.Console.Wrap
import Errata.Demo
import Errata.Diagnostic
import Errata.Docs.Artifact
import Errata.Docs.Attribute
import Errata.Docs.Catalogue
import Errata.Docs.Document
import Errata.Docs.Record
import Errata.Docs.Schema
import Errata.Http.Status
import Errata.Json.Basic
import Errata.Json.Text
import Errata.Log
import Errata.LogLevel
import Errata.Main
import Errata.Number.Decimal
import Errata.OrderedMap
import Errata.Proofs.Diagnostic.Recording
import Errata.Reply.Body
import Errata.Reply.Field
import Errata.Reply.Table
import Errata.Script.Evaluation
import Errata.Script.Expression
import Errata.Script.Fault
import Errata.Script.Member
import Errata.Script.Number
import Errata.Script.Statement
import Errata.Script.Token
import Errata.Script.TypeTable
import Errata.Session
import Errata.Settings
import Errata.Target.Files
import Errata.Target.Import
import Errata.Target.Library
import Errata.Target.Standard
import Errata.Target.Resolve
import Errata.Taxonomy
import Errata.Text.Blank
import Errata.Text.Cluster
import Errata.Text.Identifier
import Errata.Text.Integer
import Errata.Text.Lower
import Errata.Text.Normal
import Errata.Text.NormalTable
import Errata.Text.Printable
import Errata.Text.Quoted
import Errata.Text.Ranges
import Errata.Text.Upper
import Errata.Text.Utf8
import Errata.Text.Width
import Errata.Text.Words
import Errata.Value.Basic
import Errata.Value.Image
import Errata.Value.Inspect
import Errata.Wording
import Errata.Proofs.Steps
import Errata.Proofs.OrderedMap
import Errata.Proofs.Attributes.Declaration
import Errata.Proofs.Attributes.Reading
import Errata.Proofs.Compile.Reading
import Errata.Proofs.Compile.Acceptance
import Errata.Proofs.Compile.Report
import Errata.Proofs.Compile.Lookup
import Errata.Proofs.Docs.Validation
import Errata.Proofs.Json.Reader
import Errata.Proofs.Json.RoundTrip
import Errata.Proofs.Docs.Conformance
import Errata.Proofs.Class.Table
import Errata.Proofs.Class.Conversion
import Errata.Proofs.Compile.Namesakes
import Errata.Proofs.Reply.Secrecy
import Errata.Proofs.Docs.Collection
import Errata.Proofs.Compile.Suppression
import Errata.Proofs.Docs.Registration
import Errata.Proofs.Compile.Locality
import Errata.Proofs.Docs.Alternatives
import Errata.Proofs.Docs.Bracketing
import Errata.Proofs.Docs.Record
import Errata.Proofs.Docs.Discriminator
import Errata.Proofs.Console.Rendering
import Errata.Proofs.Cli.ExitCodes
import Errata.Proofs.Class.Bodies
import Errata.Proofs.Target.Names
import Errata.Proofs.Target.Running
import Errata.Proofs.Target.Loading
import Errata.Proofs.Target.Outcomes
import Errata.Proofs.Target.Missing
import Errata.Proofs.Compile.KeywordOrder
import Errata.Proofs.Reply.Fidelity
import Errata.Proofs.Docs.Components
import Errata.Proofs.Docs.Merging
import Errata.Proofs.Docs.Grouping
import Errata.Proofs.Class.Documentation
import Errata.Proofs.Docs.Algebra
import Errata.Proofs.Compile.Configuration
import Errata.Proofs.Compile.Spelling
import Errata.Proofs.Class.Logging
import Errata.Proofs.Diagnostic.Calls
import Errata.Proofs.Text.Upper
import Errata.Proofs.Cli.LogLevels
import Errata.Proofs.Docs.Access
import Errata.Proofs.Script.Members
import Errata.Proofs.Class.Hints
import Errata.Proofs.Class.Layout
import Errata.Proofs.Class.Attributes
