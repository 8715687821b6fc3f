import TagDoc.Command.Basic
import TagDoc.Command.Run
import TagDoc.Compiler
import TagDoc.Decimal.Binary
import TagDoc.Decimal.Shortest
import TagDoc.Document.Basic
import TagDoc.Document.Model
import TagDoc.Document.Run
import TagDoc.Document.Source
import TagDoc.Files.Path
import TagDoc.Files.Reading
import TagDoc.Files.Tree
import TagDoc.FrontMatter
import TagDoc.Host
import TagDoc.Json.Fault
import TagDoc.Json.Reader
import TagDoc.Json.Writer
import TagDoc.Main
import TagDoc.Markdown.Address
import TagDoc.Markdown.Attempt
import TagDoc.Markdown.BareLink
import TagDoc.Markdown.Block
import TagDoc.Markdown.BlockReader
import TagDoc.Markdown.BlockStart
import TagDoc.Markdown.Delimiter
import TagDoc.Markdown.Dialect
import TagDoc.Markdown.Entity
import TagDoc.Markdown.Escape
import TagDoc.Markdown.Html
import TagDoc.Markdown.HtmlTag
import TagDoc.Markdown.Inline
import TagDoc.Markdown.InlineReader
import TagDoc.Markdown.Line
import TagDoc.Markdown.LinkSyntax
import TagDoc.Markdown.Render
import TagDoc.Markdown.Source
import TagDoc.Markdown.Trace
import TagDoc.Markdown.Typography
import TagDoc.Node.Basic
import TagDoc.Node.Parse
import TagDoc.Node.Route
import TagDoc.Notice
import TagDoc.Notice.Line
import TagDoc.Schema.Check
import TagDoc.Schema.Issue
import TagDoc.Settings.Basic
import TagDoc.Settings.Load
import TagDoc.Tag.Basic
import TagDoc.Tag.Options
import TagDoc.Tag.Reading
import TagDoc.Tag.Scan
import TagDoc.Text.Basic
import TagDoc.Text.CaseKey
import TagDoc.Text.Category
import TagDoc.Text.Fold
import TagDoc.Text.Punycode
import TagDoc.Text.Raw
import TagDoc.Text.Slug
import TagDoc.Text.Utf8
import TagDoc.Value.Basic
import TagDoc.Value.Index
import TagDoc.Value.Literal
import TagDoc.Value.Time
import TagDoc.Yaml.Cursor
import TagDoc.Yaml.Fault
import TagDoc.Yaml.Load
import TagDoc.Yaml.Node
import TagDoc.Yaml.Number
import TagDoc.Yaml.Resolve
import TagDoc.Yaml.Scalar
import TagDoc.Yaml.Token
import TagDoc.Yaml.TokenStream
import TagDoc.Proofs.Tag.Grammar
import TagDoc.Proofs.Tag.Spans
import TagDoc.Proofs.Node.JoinText
import TagDoc.Proofs.Node.Segments
import TagDoc.Proofs.Tag.Context
import TagDoc.Proofs.Node.Splitting
import TagDoc.Proofs.Node.Printing
import TagDoc.Proofs.Node.Rereading
import TagDoc.Proofs.Node.Reserving
import TagDoc.Proofs.FrontMatter.Cutting
import TagDoc.Proofs.Text.Words
import TagDoc.Proofs.Text.Order
import TagDoc.Proofs.Text.Slug
import TagDoc.Proofs.Route.Step
import TagDoc.Proofs.Step
import TagDoc.Proofs.Document.Source
import TagDoc.Proofs.Route.Distinct
import TagDoc.Proofs.Tag.Selection
import TagDoc.Proofs.Document.Block
import TagDoc.Proofs.Files.Path
import TagDoc.Proofs.Files.Tree
import TagDoc.Proofs.Files.Directory
import TagDoc.Proofs.Files.Rewriting
import TagDoc.Proofs.Run.Sources
import TagDoc.Proofs.Run.Product
import TagDoc.Proofs.Run.Record
import TagDoc.Proofs.Run.Outcome
import TagDoc.Proofs.Run.Collision
import TagDoc.Proofs.Run.Stopping
import TagDoc.Proofs.Run.Containment
import TagDoc.Proofs.Run.Discovery
import TagDoc.Proofs.Run.Repetition
import TagDoc.Proofs.Command.Ending
import TagDoc.Proofs.Command.Agreement
import TagDoc.Proofs.Command.FaultKind
import TagDoc.Proofs.Command.Reporting
import TagDoc.Proofs.Route.Search
import TagDoc.Proofs.Route.Tree
import TagDoc.Proofs.Route.Siblings
import TagDoc.Proofs.FrontMatter.Recognition
import TagDoc.Proofs.Route.Lead
import TagDoc.Proofs.Route.Dependence
import TagDoc.Proofs.Text.Folding
import TagDoc.Proofs.Json.Constant
import TagDoc.Proofs.Node.Options
import TagDoc.Proofs.Value.Entries
import TagDoc.Proofs.Command.Arguments
import TagDoc.Proofs.Settings.Failing
import TagDoc.Proofs.Settings.Names
import TagDoc.Proofs.Settings.ReservedNames
import TagDoc.Proofs.Document.Renaming
import TagDoc.Proofs.Files.Below
import TagDoc.Proofs.Run.Listing
import TagDoc.Proofs.Decimal.Worth
import TagDoc.Proofs.Value.Key
import TagDoc.Proofs.Value.Index
