import Dispatch.CommandLine
import Dispatch.Diagnostic
import Dispatch.Dict
import Dispatch.Engine
import Dispatch.Error
import Dispatch.Event
import Dispatch.Files.Path
import Dispatch.Files.Tree
import Dispatch.Jinja.Datum
import Dispatch.Jinja.Evaluation
import Dispatch.Jinja.Expression
import Dispatch.Jinja.Fault
import Dispatch.Jinja.Filter
import Dispatch.Jinja.Operation
import Dispatch.Jinja.Statement
import Dispatch.Jinja.Token
import Dispatch.Json.Number
import Dispatch.Json.Reading
import Dispatch.Main
import Dispatch.Markup.Bracket
import Dispatch.Markup.BuildError
import Dispatch.Markup.Closing
import Dispatch.Markup.Compiler
import Dispatch.Markup.Error
import Dispatch.Markup.Formatter
import Dispatch.Markup.Options
import Dispatch.Markup.Passes
import Dispatch.Markup.Registry
import Dispatch.Markup.SimpleFormatter
import Dispatch.Markup.Source
import Dispatch.Markup.Tag
import Dispatch.Markup.TagParser
import Dispatch.Markup.Template
import Dispatch.Markup.Token
import Dispatch.Number.Notation
import Dispatch.Number.Reading
import Dispatch.Number.Shortest
import Dispatch.Personnel
import Dispatch.Program
import Dispatch.Proofs.Markup.Conservation
import Dispatch.Proofs.Markup.Cut
import Dispatch.Proofs.Markup.DepthFirst
import Dispatch.Proofs.Markup.Document
import Dispatch.Proofs.Markup.Formatting
import Dispatch.Proofs.Markup.Precedence
import Dispatch.Proofs.Markup.Run
import Dispatch.Proofs.Markup.Spelling
import Dispatch.Proofs.Markup.TwoPasses
import Dispatch.Renderer
import Dispatch.Run
import Dispatch.Settings
import Dispatch.TemplateSource
import Dispatch.Text.Basic
import Dispatch.Text.Blank
import Dispatch.Text.Case
import Dispatch.Text.CaseTable
import Dispatch.Text.Printable
import Dispatch.Text.Quoted
import Dispatch.Text.Reader
import Dispatch.Toml.Quoted
import Dispatch.Toml.Reading
import Dispatch.Toml.Scalar
import Dispatch.Toml.Table
import Dispatch.Value.Basic
import Dispatch.Yaml.Cursor
import Dispatch.Yaml.Node
import Dispatch.Yaml.Reading
import Dispatch.Yaml.Scalar
import Dispatch.Yaml.Token
import Dispatch.Proofs.Markup.Builds
import Dispatch.Proofs.Markup.Extension
import Dispatch.Proofs.Markup.QuotedAttributes
import Dispatch.Proofs.Markup.Sites
import Dispatch.Proofs.Text.Case
import Dispatch.Proofs.Markup.Told
import Dispatch.Proofs.Markup.Tokens
import Dispatch.Proofs.Markup.LineBreaks
import Dispatch.Proofs.Markup.Stateless
import Dispatch.Proofs.Reporting
import Dispatch.Proofs.Jinja.KeptTemplates
import Dispatch.Proofs.Jinja.SelfContained
import Dispatch.Proofs.Files.Writing
import Dispatch.Proofs.Files.Directory
import Dispatch.Proofs.Run.Rendering
import Dispatch.Proofs.Run.Steps
import Dispatch.Proofs.Run.Isolation
import Dispatch.Proofs.Markup.WrittenTags
import Dispatch.Proofs.Markup.Finished
import Dispatch.Proofs.Markup.ClosingTags
import Dispatch.Proofs.Markup.NewlineCloses
import Dispatch.Proofs.Markup.TemplateGrammar
import Dispatch.Proofs.Markup.TemplateRendering
import Dispatch.Proofs.Markup.ItemLists
import Dispatch.Proofs.Text.Signs
import Dispatch.Proofs.Markup.TagSpelling
import Dispatch.Proofs.Markup.Respelling
import Dispatch.Proofs.Dict
import Dispatch.Proofs.Markup.LastRule
import Dispatch.Proofs.Markup.Declarations
import Dispatch.Proofs.Text.ByteOrder
import Dispatch.Proofs.Markup.SimpleSettings
import Dispatch.Proofs.Markup.SpelledTags
import Dispatch.Proofs.Markup.LiveRules
import Dispatch.Proofs.Personnel
import Dispatch.Proofs.Variables
import Dispatch.Proofs.UnresolvedPersonnel
import Dispatch.Proofs.Markup.CleanAttributes
import Dispatch.Proofs.Markup.FirstEnd
import Dispatch.Proofs.Markup.TokenWalk
