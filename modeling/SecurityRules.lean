import SecurityRules.Check.Basic
import SecurityRules.Check.Decode
import SecurityRules.Check.Report
import SecurityRules.Command.Action
import SecurityRules.Command.Argument
import SecurityRules.Command.Grammar
import SecurityRules.Command.Host
import SecurityRules.Command.Invocation
import SecurityRules.Command.Listing
import SecurityRules.Command.Run
import SecurityRules.Console.Basic
import SecurityRules.Console.Handler
import SecurityRules.Console.Markup
import SecurityRules.Console.Page
import SecurityRules.Console.Parameter.Arguments
import SecurityRules.Console.Parameter.Container
import SecurityRules.Console.Parameter.Escape
import SecurityRules.Console.Parameter.Fault
import SecurityRules.Console.Parameter.Grammar
import SecurityRules.Console.Parameter.Literal
import SecurityRules.Console.Parameter.Node
import SecurityRules.Console.Parameter.Number
import SecurityRules.Console.Parameter.Operation
import SecurityRules.Console.Parameter.Parser
import SecurityRules.Console.Parameter.Quotation
import SecurityRules.Console.Parameter.Reader
import SecurityRules.Console.Parameter.Rule
import SecurityRules.Console.Parameter.Suspicion
import SecurityRules.Console.Parameter.Template
import SecurityRules.Console.Parameter.Token
import SecurityRules.Console.Parameter.TokenList
import SecurityRules.Console.Style
import SecurityRules.Console.StyledText
import SecurityRules.Console.Table
import SecurityRules.Console.Wrap
import SecurityRules.Decimal.Binary64
import SecurityRules.Decimal.Integer
import SecurityRules.Decimal.Numeral
import SecurityRules.Decimal.Shortest
import SecurityRules.Draft.Basic
import SecurityRules.Draft.Check
import SecurityRules.Draft.Compile
import SecurityRules.Draft.Edit
import SecurityRules.Files.Path
import SecurityRules.Files.Source
import SecurityRules.Files.Tree
import SecurityRules.Json.Basic
import SecurityRules.Json.Literal
import SecurityRules.Json.Reader
import SecurityRules.Json.Token
import SecurityRules.Json.Writer
import SecurityRules.Main
import SecurityRules.Proofs.NearestBinary64
import SecurityRules.Proofs.NumeralSpelling
import SecurityRules.Proofs.ShortestReadBack
import SecurityRules.Record
import SecurityRules.Ruleset.Access
import SecurityRules.Ruleset.Clause
import SecurityRules.Ruleset.Document
import SecurityRules.Ruleset.Line
import SecurityRules.Ruleset.Name
import SecurityRules.Ruleset.Validator
import SecurityRules.Schema.Basic
import SecurityRules.Schema.Decode
import SecurityRules.Schema.Encode
import SecurityRules.Schema.Issue
import SecurityRules.Schema.Kind
import SecurityRules.Schema.Normal
import SecurityRules.Schema.Scalar
import SecurityRules.Settings
import SecurityRules.Stack
import SecurityRules.Text.Alphanumeric
import SecurityRules.Text.Blank
import SecurityRules.Text.CaseRun
import SecurityRules.Text.CharacterName
import SecurityRules.Text.CharacterName.AToB
import SecurityRules.Text.CharacterName.CToD
import SecurityRules.Text.CharacterName.EToH
import SecurityRules.Text.CharacterName.IToL
import SecurityRules.Text.CharacterName.MToO
import SecurityRules.Text.CharacterName.PToS
import SecurityRules.Text.CharacterName.TToZ
import SecurityRules.Text.Cluster
import SecurityRules.Text.CodePoint
import SecurityRules.Text.Digit
import SecurityRules.Text.LineBreak
import SecurityRules.Text.LowerCase
import SecurityRules.Text.Place
import SecurityRules.Text.PlainLetter
import SecurityRules.Text.Printable
import SecurityRules.Text.Quoted
import SecurityRules.Text.UpperCase
import SecurityRules.Text.Utf8
import SecurityRules.Text.Width
import SecurityRules.Text.Word
import SecurityRules.Toml.Basic
import SecurityRules.Toml.Number
import SecurityRules.Toml.Quoted
import SecurityRules.Toml.Reader
import SecurityRules.Proofs.JsonStrings
import SecurityRules.Proofs.JsonReadBack
import SecurityRules.Proofs.RuleNormalForm
import SecurityRules.Proofs.DecodedSchema
import SecurityRules.Proofs.SchemaReload
import SecurityRules.Proofs.CheckLinking
import SecurityRules.Proofs.RulesText
import SecurityRules.Proofs.CommandRuns
import SecurityRules.Proofs.CompiledRules
import SecurityRules.Proofs.IndentExpansion
import SecurityRules.Proofs.Utf8ReadBack
import SecurityRules.Proofs.FileReplacement
import SecurityRules.Proofs.ProgramOutputs
import SecurityRules.Proofs.Refusals
import SecurityRules.Proofs.StrictCompile
import SecurityRules.Proofs.ChangedFiles
import SecurityRules.Proofs.SchemaFile
import SecurityRules.Proofs.ConvertArguments
import SecurityRules.Proofs.ConvertedSchema
import SecurityRules.Proofs.FlattenedSchema
import SecurityRules.Proofs.EffectiveSettings
import SecurityRules.Proofs.ClauseReading
import SecurityRules.Proofs.EscapedMarkup
import SecurityRules.Proofs.ErrorReports
import SecurityRules.Proofs.TokenBoundaries
import SecurityRules.Proofs.LongIntegers
import SecurityRules.Proofs.LoadFailures
import SecurityRules.Proofs.Reordering
import SecurityRules.Proofs.SharedFunctions
import SecurityRules.Proofs.CombinedSchemas
import SecurityRules.Proofs.VisibleWarnings
import SecurityRules.Proofs.TypedLengths
import SecurityRules.Proofs.LoadedDrafts
import SecurityRules.Proofs.AcceptedRules
import SecurityRules.Proofs.CanonicalDocuments
import SecurityRules.Proofs.ModelOrder
import SecurityRules.Proofs.ObjectLayout
import SecurityRules.Proofs.TableCells
import SecurityRules.Proofs.OverriddenSettings
import SecurityRules.Proofs.CapitalNames
import SecurityRules.Proofs.ModelListing
