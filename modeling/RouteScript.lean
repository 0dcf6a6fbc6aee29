import RouteScript.Text.Basic
import RouteScript.Text.Symbol
import RouteScript.Text.Blank
import RouteScript.Text.Ranges
import RouteScript.Text.Letter
import RouteScript.Text.Printable
import RouteScript.Text.LowerCase
import RouteScript.Text.Quoted
import RouteScript.Text.EditDistance
import RouteScript.Text.Record
import RouteScript.Text.Numeral
import RouteScript.Text.Timestamp
import RouteScript.Text.Base64
import RouteScript.Line
import RouteScript.Operators
import RouteScript.Script
import RouteScript.Diagnostic
import RouteScript.Expression
import RouteScript.Parse
import RouteScript.Source
import RouteScript.Log
import RouteScript.Format
import RouteScript.Sink
import RouteScript.Lint
import RouteScript.RoundTrip
import RouteScript.Files.Path
import RouteScript.Files.Tree
import RouteScript.Files.Glob
import RouteScript.Session
import RouteScript.Watch
import RouteScript.Json.Writer
import RouteScript.Yaml.Scalar
import RouteScript.Yaml.Writer
import RouteScript.Yaml.Character
import RouteScript.Yaml.Input
import RouteScript.Yaml.Cursor
import RouteScript.Yaml.ScalarText
import RouteScript.Yaml.Tag
import RouteScript.Yaml.Token
import RouteScript.Yaml.Node
import RouteScript.Toml.Cursor
import RouteScript.Toml.StringText
import RouteScript.Toml.Datetime
import RouteScript.Toml.Scalar
import RouteScript.Toml.Table
import RouteScript.Toml.Document
import RouteScript.Document
import RouteScript.Config.Basic
import RouteScript.Config.Toml
import RouteScript.Config.Yaml
import RouteScript.Config.Load
import RouteScript.Command.Flags
import RouteScript.Command.Name
import RouteScript.Command.Help
import RouteScript.Command.Run
import RouteScript.Main
import RouteScript.Proofs.SymbolReading
import RouteScript.Proofs.Trimming
import RouteScript.Proofs.PhysicalLines
import RouteScript.Proofs.ReadingSteps
import RouteScript.Proofs.WrittenScripts
import RouteScript.Proofs.ConditionReading
import RouteScript.Proofs.ParsedScripts
import RouteScript.Proofs.WrittenLines
import RouteScript.Proofs.RoundTripLaws
import RouteScript.Proofs.Grammar
import RouteScript.Proofs.SourceOrder
import RouteScript.Proofs.LineEndings
import RouteScript.Proofs.MovedLines
import RouteScript.Proofs.Concatenation
import RouteScript.Proofs.Comments
import RouteScript.Proofs.FailingSources
import RouteScript.Proofs.ReadingTraces
import RouteScript.Proofs.OperatorCuts
import RouteScript.Proofs.FieldCuts
import RouteScript.Proofs.EarliestCuts
import RouteScript.Proofs.SpacedConditions
import RouteScript.Proofs.OperatorChoice
import RouteScript.Proofs.OperatorTables
import RouteScript.Proofs.ShownLines
import RouteScript.Proofs.LintedMeaning
import RouteScript.Proofs.FormattedFiles
import RouteScript.Proofs.RepeatedNames
import RouteScript.Proofs.JsonTexts
import RouteScript.Proofs.DocumentTexts
import RouteScript.Proofs.CanonicalExpressions
import RouteScript.Proofs.LintSwitches
import RouteScript.Proofs.BufferedWriting
import RouteScript.Proofs.EditDistances
import RouteScript.Proofs.OperatorHints
