import StorePolicy.Candidate
import StorePolicy.Candidate.DryRun
import StorePolicy.Candidate.Lint
import StorePolicy.Candidate.Strict
import StorePolicy.Check
import StorePolicy.Check.Build
import StorePolicy.Check.Run
import StorePolicy.CommandLine.Arguments
import StorePolicy.CommandLine.Command
import StorePolicy.CommandLine.Run
import StorePolicy.Condition
import StorePolicy.Condition.Codec
import StorePolicy.Config
import StorePolicy.Config.Codec
import StorePolicy.Config.File
import StorePolicy.Decimal.Double
import StorePolicy.Decimal.Shortest
import StorePolicy.Decode.Content
import StorePolicy.Decode.Dialect
import StorePolicy.Decode.Fault
import StorePolicy.Decode.JsonText
import StorePolicy.Decode.JsonValue
import StorePolicy.Decode.Record
import StorePolicy.Decode.YamlText
import StorePolicy.Decode.YamlValue
import StorePolicy.Engine
import StorePolicy.Engine.Check
import StorePolicy.Files.Edit
import StorePolicy.Files.Location
import StorePolicy.Files.PathPattern
import StorePolicy.Files.Tree
import StorePolicy.Json.Number
import StorePolicy.Json.Outline
import StorePolicy.Json.Printer
import StorePolicy.Json.Value
import StorePolicy.Main
import StorePolicy.Merge
import StorePolicy.Merge.File
import StorePolicy.Merge.JsonForm
import StorePolicy.Path.Dotted
import StorePolicy.Path.Segment
import StorePolicy.Path.Strategy
import StorePolicy.Pattern
import StorePolicy.Pattern.CharSet
import StorePolicy.Pattern.Expression
import StorePolicy.Pattern.Program
import StorePolicy.Pattern.Property
import StorePolicy.Pattern.Reader
import StorePolicy.Pattern.Tree
import StorePolicy.Platform
import StorePolicy.Proofs.Attempt
import StorePolicy.Proofs.Candidate.Acceptance
import StorePolicy.Proofs.Candidate.Advice
import StorePolicy.Proofs.Candidate.DryRun
import StorePolicy.Proofs.Candidate.Reading
import StorePolicy.Proofs.Check.Dangling
import StorePolicy.Proofs.Check.Faults
import StorePolicy.Proofs.Check.Meaning
import StorePolicy.Proofs.Check.Nodes
import StorePolicy.Proofs.Check.Obstruction
import StorePolicy.Proofs.Check.Probes
import StorePolicy.Proofs.Check.Quiet
import StorePolicy.Proofs.Check.Sandbox
import StorePolicy.Proofs.Condition.Content
import StorePolicy.Proofs.Condition.RoundTrip
import StorePolicy.Proofs.Condition.Spelling
import StorePolicy.Proofs.Config.Location
import StorePolicy.Proofs.Decode.Record
import StorePolicy.Proofs.Decode.Values
import StorePolicy.Proofs.Engine.Growth
import StorePolicy.Proofs.Engine.History
import StorePolicy.Proofs.Engine.Interleaving
import StorePolicy.Proofs.Engine.Narrowing
import StorePolicy.Proofs.Engine.Outcome
import StorePolicy.Proofs.Engine.Summary
import StorePolicy.Proofs.Files.Ancestors
import StorePolicy.Proofs.Files.Copies
import StorePolicy.Proofs.Files.Extension
import StorePolicy.Proofs.Files.Landing
import StorePolicy.Proofs.Files.Siblings
import StorePolicy.Proofs.Files.Steps
import StorePolicy.Proofs.Files.Writing
import StorePolicy.Proofs.Json.Memory
import StorePolicy.Proofs.Merge.ClosedForm
import StorePolicy.Proofs.Merge.Composition
import StorePolicy.Proofs.Merge.Document
import StorePolicy.Proofs.Merge.Expressible
import StorePolicy.Proofs.Merge.Files
import StorePolicy.Proofs.Merge.Ids
import StorePolicy.Proofs.Merge.Loadable
import StorePolicy.Proofs.Merge.Report
import StorePolicy.Proofs.Merge.Runs
import StorePolicy.Proofs.Merge.StoredIds
import StorePolicy.Proofs.Merge.Tags
import StorePolicy.Proofs.Merge.Versions
import StorePolicy.Proofs.Path.Address
import StorePolicy.Proofs.Path.DocumentOrder
import StorePolicy.Proofs.Path.DottedKeys
import StorePolicy.Proofs.Path.Fallback
import StorePolicy.Proofs.Path.Grammar
import StorePolicy.Proofs.Path.Images
import StorePolicy.Proofs.Path.Located
import StorePolicy.Proofs.Path.OutOfOrder
import StorePolicy.Proofs.Path.Place
import StorePolicy.Proofs.Path.PlainKeys
import StorePolicy.Proofs.Path.Selection
import StorePolicy.Proofs.RoundTrip
import StorePolicy.Proofs.Rule.RoundTrip
import StorePolicy.Proofs.RuleSet.Audit
import StorePolicy.Proofs.RuleSet.Entries
import StorePolicy.Proofs.RuleSet.Reading
import StorePolicy.Proofs.RuleSet.Repetitions
import StorePolicy.Proofs.RuleSet.Validity
import StorePolicy.Proofs.Text.Letters
import StorePolicy.Proofs.Text.Trim
import StorePolicy.Proofs.Value
import StorePolicy.Proofs.Xml.Arena
import StorePolicy.Proofs.Xml.Bodies
import StorePolicy.Proofs.Xml.Compile
import StorePolicy.Proofs.Xml.Content
import StorePolicy.Proofs.Xml.Namesakes
import StorePolicy.Proofs.Xml.PredicateText
import StorePolicy.Proofs.Xml.Reach
import StorePolicy.Proofs.Xml.Rendering
import StorePolicy.Proofs.Xml.Sealed
import StorePolicy.Proofs.Xml.Selection
import StorePolicy.Report.Json
import StorePolicy.Report.Text
import StorePolicy.Rule
import StorePolicy.Rule.Codec
import StorePolicy.RuleSet
import StorePolicy.RuleSet.Audit
import StorePolicy.RuleSet.Codec
import StorePolicy.RuleSet.File
import StorePolicy.Text.Age
import StorePolicy.Text.Blank
import StorePolicy.Text.Case
import StorePolicy.Text.Category
import StorePolicy.Text.Letters
import StorePolicy.Text.Quoted
import StorePolicy.Text.Ranges
import StorePolicy.Text.Script
import StorePolicy.Text.Trait
import StorePolicy.Trace
import StorePolicy.Value
import StorePolicy.Xml.Document
import StorePolicy.Xml.ElementPath
import StorePolicy.Xml.Event
import StorePolicy.Xml.Query
import StorePolicy.Xml.Reference
import StorePolicy.Yaml.Cursor
import StorePolicy.Yaml.Node
import StorePolicy.Yaml.Node.Grammar
import StorePolicy.Yaml.Printer
import StorePolicy.Yaml.Reader
import StorePolicy.Yaml.Scalar
import StorePolicy.Yaml.ScalarStyle
import StorePolicy.Yaml.Token
import StorePolicy.Yaml.Token.Lexer
import StorePolicy.Yaml.Token.Scalar
import StorePolicy.Yaml.Token.Tag
