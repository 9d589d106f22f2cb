import PageHarvest.Command.Arguments
import PageHarvest.Command.Help
import PageHarvest.Command.Run
import PageHarvest.Command.Switch
import PageHarvest.Css.Reader
import PageHarvest.Css.Selector
import PageHarvest.Css.Token
import PageHarvest.Data.Entries
import PageHarvest.Data.Format
import PageHarvest.Data.Plain
import PageHarvest.Data.Tree
import PageHarvest.Decimal.Binary64
import PageHarvest.Decimal.Literal
import PageHarvest.Decimal.Shortest
import PageHarvest.Export.Format
import PageHarvest.Expression.Eval
import PageHarvest.Expression.Lexer
import PageHarvest.Expression.Reading
import PageHarvest.Expression.Syntax
import PageHarvest.Expression.Token
import PageHarvest.Extraction.Engine
import PageHarvest.Extraction.Paging
import PageHarvest.Extraction.Read
import PageHarvest.Extraction.Refine
import PageHarvest.Extraction.Result
import PageHarvest.Extraction.Settings
import PageHarvest.Extraction.Walk
import PageHarvest.Fault
import PageHarvest.Flow.Condition
import PageHarvest.Flow.Context
import PageHarvest.Flow.Expansion
import PageHarvest.Flow.Reference
import PageHarvest.Flow.Source
import PageHarvest.Flow.Step
import PageHarvest.Html.Adoption
import PageHarvest.Html.Body
import PageHarvest.Html.Builder
import PageHarvest.Html.Draft
import PageHarvest.Html.Foreign
import PageHarvest.Html.Insertion
import PageHarvest.Html.Markup
import PageHarvest.Html.Parse
import PageHarvest.Html.Reference
import PageHarvest.Html.Token
import PageHarvest.Html.Tree
import PageHarvest.Json.Access
import PageHarvest.Json.Basic
import PageHarvest.Json.Coercion
import PageHarvest.Json.Printer
import PageHarvest.Json.Reader
import PageHarvest.Log.Entry
import PageHarvest.Main
import PageHarvest.Page.Basic
import PageHarvest.Page.Control
import PageHarvest.Page.Site
import PageHarvest.Regex.CharClass
import PageHarvest.Regex.Match
import PageHarvest.Regex.Meaning
import PageHarvest.Regex.Pattern
import PageHarvest.Regex.Property.Age
import PageHarvest.Regex.Property.Basic
import PageHarvest.Regex.Property.Binary
import PageHarvest.Regex.Property.Break
import PageHarvest.Regex.Property.CaseFold
import PageHarvest.Regex.Property.Category
import PageHarvest.Regex.Property.Query
import PageHarvest.Regex.Property.Script
import PageHarvest.Regex.Reader
import PageHarvest.Regex.Size
import PageHarvest.Regex.Syntax
import PageHarvest.Schema.Basic
import PageHarvest.Schema.Check
import PageHarvest.Schema.Decode
import PageHarvest.Schema.Example
import PageHarvest.Schema.Rule
import PageHarvest.Schema.Source
import PageHarvest.Settings.Basic
import PageHarvest.Settings.Override
import PageHarvest.Settings.Source
import PageHarvest.Text.Base64
import PageHarvest.Text.Blank
import PageHarvest.Text.Case
import PageHarvest.Text.CaseTable
import PageHarvest.Text.CodeSet
import PageHarvest.Text.Letter
import PageHarvest.Text.Normal
import PageHarvest.Text.NormalTable
import PageHarvest.Text.Property
import PageHarvest.Text.Quoted
import PageHarvest.Text.Search
import PageHarvest.Time.Instant
import PageHarvest.Toml.Literal
import PageHarvest.Toml.Printer
import PageHarvest.Toml.Reader
import PageHarvest.Toml.Table
import PageHarvest.Url.Basic
import PageHarvest.Url.Escape
import PageHarvest.Url.Host
import PageHarvest.Url.Name.Basic
import PageHarvest.Url.Name.Direction
import PageHarvest.Url.Name.Joining
import PageHarvest.Url.Name.Mapping
import PageHarvest.Url.Punycode
import PageHarvest.Url.Reader
import PageHarvest.XPath.Path
import PageHarvest.XPath.Reader
import PageHarvest.Yaml.Layout
import PageHarvest.Yaml.Node
import PageHarvest.Yaml.Printer
import PageHarvest.Yaml.Reader
import PageHarvest.Yaml.Scalar
import PageHarvest.Yaml.Token
import PageHarvest.Proofs.Expression.Grammar
import PageHarvest.Proofs.Expression.Soundness
import PageHarvest.Proofs.Expression.Completeness
import PageHarvest.Proofs.Text.Trimming
import PageHarvest.Proofs.Text.Printable
import PageHarvest.Proofs.XPath.Scanning
import PageHarvest.Proofs.XPath.Spelled
import PageHarvest.Proofs.XPath.Passing
import PageHarvest.Proofs.XPath.TermReading
import PageHarvest.Proofs.XPath.Reading
import PageHarvest.Proofs.Css.Lexing
import PageHarvest.Proofs.XPath.SelectorTokens
import PageHarvest.Proofs.XPath.SelectorReading
import PageHarvest.Proofs.XPath.Readable
import PageHarvest.Proofs.Html.Places
import PageHarvest.Proofs.XPath.NodeSet
import PageHarvest.Proofs.XPath.Agreement
import PageHarvest.Proofs.XPath.Translation
import PageHarvest.Proofs.XPath.Separation
import PageHarvest.Proofs.XPath.Equivalence
import PageHarvest.Proofs.Extraction.Report
import PageHarvest.Proofs.Data.Entries
import PageHarvest.Proofs.Schema.Locating
import PageHarvest.Proofs.Schema.Nesting
import PageHarvest.Proofs.Extraction.Results
import PageHarvest.Proofs.Extraction.ErrorLines
import PageHarvest.Proofs.Extraction.Keeping
import PageHarvest.Proofs.Extraction.Calls
import PageHarvest.Proofs.Page.Likeness
import PageHarvest.Proofs.Extraction.Likeness
import PageHarvest.Proofs.Page.Registry
import PageHarvest.Proofs.Page.Faults
import PageHarvest.Proofs.Page.Tracing
import PageHarvest.Proofs.Extraction.Visits
import PageHarvest.Proofs.Extraction.Composition
import PageHarvest.Proofs.Extraction.Limits
import PageHarvest.Proofs.Extraction.Lockstep
import PageHarvest.Proofs.Page.Clicking
import PageHarvest.Proofs.Extraction.Following
import PageHarvest.Proofs.Page.Operation
import PageHarvest.Proofs.Page.Session
import PageHarvest.Proofs.Extraction.Telling
import PageHarvest.Proofs.Extraction.Lenience
import PageHarvest.Proofs.Extraction.Refinement
import PageHarvest.Proofs.Extraction.Items
import PageHarvest.Proofs.Extraction.Rejection
import PageHarvest.Proofs.Flow.Loops
import PageHarvest.Proofs.Flow.Dependence
import PageHarvest.Proofs.Flow.Unseen
import PageHarvest.Proofs.Flow.Writes
import PageHarvest.Proofs.Json.WellFormed
import PageHarvest.Proofs.Data.Tree
import PageHarvest.Proofs.Flow.ReadConditions
import PageHarvest.Proofs.Flow.NullTests
import PageHarvest.Proofs.Flow.ReadSteps
import PageHarvest.Proofs.Flow.Rearranging
import PageHarvest.Proofs.Flow.ReadControls
import PageHarvest.Proofs.Export.Csv
import PageHarvest.Proofs.Json.Tokens
import PageHarvest.Proofs.Json.Spelling
import PageHarvest.Proofs.Export.Json
import PageHarvest.Proofs.Schema.Writing
import PageHarvest.Proofs.Json.Equality
import PageHarvest.Proofs.Json.Narrowing
import PageHarvest.Proofs.Expression.Forms
import PageHarvest.Proofs.Decimal.Order
import PageHarvest.Proofs.Flow.Comparisons
import PageHarvest.Proofs.Flow.Interpolation
import PageHarvest.Proofs.Expression.Lexemes
import PageHarvest.Proofs.Expression.Paths
import PageHarvest.Proofs.Extraction.Records
import PageHarvest.Proofs.Extraction.Lists
import PageHarvest.Proofs.XPath.Scoped
import PageHarvest.Proofs.XPath.Offsets
import PageHarvest.Proofs.Decimal.Integers
import PageHarvest.Proofs.Decimal.Overflow
import PageHarvest.Proofs.Decimal.Numerals
import PageHarvest.Proofs.Flow.Counting
import PageHarvest.Proofs.Flow.Numbers
