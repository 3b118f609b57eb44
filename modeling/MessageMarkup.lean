import MessageMarkup.Command.Arguments
import MessageMarkup.Command.Needs
import MessageMarkup.Command.Options
import MessageMarkup.Command.Run
import MessageMarkup.Context
import MessageMarkup.Directory.Basic
import MessageMarkup.Directory.Reading
import MessageMarkup.Emoji
import MessageMarkup.Files.Disk
import MessageMarkup.Files.Path
import MessageMarkup.Files.Tree
import MessageMarkup.Highlight.Generics
import MessageMarkup.Highlight.Grammar
import MessageMarkup.Highlight.Highlighter
import MessageMarkup.Highlight.Span
import MessageMarkup.Html
import MessageMarkup.Json.Document
import MessageMarkup.Json.Refusal
import MessageMarkup.Json.Scan
import MessageMarkup.Json.Value
import MessageMarkup.Main
import MessageMarkup.Message.Compose
import MessageMarkup.Message.Fields
import MessageMarkup.Message.Node
import MessageMarkup.Message.Reading
import MessageMarkup.Number.Binary64
import MessageMarkup.Number.Power
import MessageMarkup.Number.Shortest
import MessageMarkup.Proofs.Command.Rendering
import MessageMarkup.Proofs.Json.Grammar
import MessageMarkup.Proofs.Json.Keeping
import MessageMarkup.Proofs.Json.Scanning
import MessageMarkup.Proofs.Json.Writing
import MessageMarkup.Proofs.Markup.Block
import MessageMarkup.Proofs.Markup.Language
import MessageMarkup.Proofs.Markup.Lexeme
import MessageMarkup.Proofs.Markup.Tree
import MessageMarkup.Proofs.Message.Acceptance
import MessageMarkup.Proofs.Message.Alike
import MessageMarkup.Proofs.Message.Children
import MessageMarkup.Proofs.Message.Entries
import MessageMarkup.Proofs.Message.Facets
import MessageMarkup.Proofs.Message.Meaning
import MessageMarkup.Proofs.Message.Normal
import MessageMarkup.Proofs.Message.Reading
import MessageMarkup.Proofs.Message.Spelled
import MessageMarkup.Proofs.Message.Subnodes
import MessageMarkup.Proofs.Rendering.Blocks
import MessageMarkup.Proofs.Rendering.Fidelity
import MessageMarkup.Proofs.Rendering.Header
import MessageMarkup.Proofs.Rendering.Mentions
import MessageMarkup.Proofs.Rendering.Outline
import MessageMarkup.Proofs.Rendering.Preview
import MessageMarkup.Proofs.Rendering.WellFormed
import MessageMarkup.Proofs.Settings.Environment
import MessageMarkup.Proofs.Settings.FromFile
import MessageMarkup.Proofs.Settings.Loading
import MessageMarkup.Proofs.Settings.Precedence
import MessageMarkup.Proofs.Settings.Stylesheet
import MessageMarkup.Proofs.Text.Cutting
import MessageMarkup.Proofs.Text.Decimal
import MessageMarkup.Proofs.Text.Escaping
import MessageMarkup.Proofs.Timestamp.Calendar
import MessageMarkup.Proofs.Timestamp.ReadBack
import MessageMarkup.Proofs.Toml.Distinct
import MessageMarkup.Render
import MessageMarkup.Settings.Basic
import MessageMarkup.Settings.Expansion
import MessageMarkup.Settings.Load
import MessageMarkup.Settings.Reading
import MessageMarkup.Surroundings
import MessageMarkup.Text.Alphanumeric
import MessageMarkup.Text.Blank
import MessageMarkup.Text.Digits
import MessageMarkup.Text.Escape
import MessageMarkup.Text.Quoted
import MessageMarkup.Text.Visible
import MessageMarkup.Theme
import MessageMarkup.Timestamp.Calendar
import MessageMarkup.Timestamp.Format
import MessageMarkup.Timestamp.Offset
import MessageMarkup.Toml.Bounds
import MessageMarkup.Toml.Moment
import MessageMarkup.Toml.Quote
import MessageMarkup.Toml.Reading
import MessageMarkup.Toml.Scalar
import MessageMarkup.Toml.Table
import MessageMarkup.Toml.Value
import MessageMarkup.Proofs.Timestamp.Granularity
import MessageMarkup.Proofs.Emoji.Addresses
import MessageMarkup.Proofs.Emoji.EmptyIds
import MessageMarkup.Proofs.Rendering.Contexts
import MessageMarkup.Proofs.Rendering.Flattening
import MessageMarkup.Proofs.Rendering.Sides
import MessageMarkup.Proofs.Message.Numbers
import MessageMarkup.Proofs.Rendering.LanguageHints
import MessageMarkup.Proofs.Message.Degradation
import MessageMarkup.Proofs.Rendering.Levels
import MessageMarkup.Proofs.Message.Nesting
import MessageMarkup.Proofs.Directory.Adding
import MessageMarkup.Proofs.Directory.Spelled
import MessageMarkup.Proofs.Files.Entries
import MessageMarkup.Proofs.Settings.Discovery
import MessageMarkup.Proofs.Text.Coding
import MessageMarkup.Proofs.Directory.Written
