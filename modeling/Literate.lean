import Literate.Action
import Literate.CommandLine.Argument
import Literate.CommandLine.Dispatch
import Literate.CommandLine.Invocation
import Literate.CommandLine.Listing
import Literate.CommandLine.Switch
import Literate.Decimal.Double
import Literate.Decimal.Reading
import Literate.Decimal.Shortest
import Literate.Deck
import Literate.Digest.ParseCache
import Literate.Digest.Sha256
import Literate.DocumentFile
import Literate.Edit
import Literate.Exclusion.Basic
import Literate.Exclusion.Unit
import Literate.Failure
import Literate.Fence
import Literate.Files.FileTree
import Literate.Files.Path
import Literate.Html.CharRef
import Literate.Html.CharRef.Names
import Literate.Html.Escape
import Literate.Html.Event
import Literate.Html.Reading
import Literate.Html.Tag
import Literate.Html.Tree
import Literate.Html.Writing
import Literate.Info
import Literate.Json
import Literate.Language.Registry
import Literate.Language.Template
import Literate.Language.Words
import Literate.Log
import Literate.Macro.Expansion
import Literate.Macro.Segment
import Literate.Main
import Literate.Markdown.Address
import Literate.Markdown.Block
import Literate.Markdown.BlockParser
import Literate.Markdown.BlockStart
import Literate.Markdown.Delimiter
import Literate.Markdown.Flow
import Literate.Markdown.Inline
import Literate.Markdown.InlineParser
import Literate.Markdown.Link
import Literate.Markdown.NoteList
import Literate.Markdown.Punycode
import Literate.Markdown.RawHtml
import Literate.Markdown.Reach
import Literate.Markdown.Render
import Literate.Markdown.SourceLine
import Literate.Marker
import Literate.Outline.Basic
import Literate.Outline.LineKind
import Literate.Outline.Scan
import Literate.Output
import Literate.Page.Asset
import Literate.Page.Css
import Literate.Page.Fenced
import Literate.Page.Image
import Literate.Page.Media
import Literate.Page.Pairing
import Literate.Page.Renderer
import Literate.Page.Sheets
import Literate.Page.Theme
import Literate.Pdf.Browser
import Literate.Pdf.Error
import Literate.Pdf.Print
import Literate.Proofs.Exclusion.CleanDocument
import Literate.Proofs.Exclusion.Collect
import Literate.Proofs.Exclusion.Dropped
import Literate.Proofs.Exclusion.Headings
import Literate.Proofs.Exclusion.MarkedProse
import Literate.Proofs.Exclusion.Idempotence
import Literate.Proofs.Exclusion.KeptLine
import Literate.Proofs.Exclusion.Preservation
import Literate.Proofs.Exclusion.Unit
import Literate.Proofs.Fence
import Literate.Proofs.Macro.Expansion
import Literate.Proofs.Macro.Graph
import Literate.Proofs.Macro.Reference
import Literate.Proofs.Macro.Substitution
import Literate.Proofs.Marker
import Literate.Proofs.Outline.Attached
import Literate.Proofs.Outline.Composition
import Literate.Proofs.Outline.FenceStructure
import Literate.Proofs.Outline.Headings
import Literate.Proofs.Outline.Layout
import Literate.Proofs.Outline.Order
import Literate.Proofs.Outline.Parse
import Literate.Proofs.Outline.Reading
import Literate.Proofs.Outline.Relocation
import Literate.Proofs.Outline.SlideSpans
import Literate.Proofs.Outline.Stuck
import Literate.Proofs.Outline.Titles
import Literate.Proofs.Recording.Preservation
import Literate.Proofs.Recording.Region
import Literate.Proofs.Text.Lines
import Literate.Proofs.Text.Trim
import Literate.Run.Error
import Literate.Run.Execute
import Literate.Run.Machine
import Literate.Run.Reservation
import Literate.Run.Source
import Literate.Settings.Basic
import Literate.Settings.Error
import Literate.Settings.Toml
import Literate.Settings.Toml.Error
import Literate.Settings.Toml.Number
import Literate.Settings.Toml.Quoted
import Literate.Settings.Value
import Literate.Shell.Arithmetic
import Literate.Shell.Command
import Literate.Shell.Condition
import Literate.Shell.Format
import Literate.Shell.Machine
import Literate.Shell.Pattern
import Literate.Shell.Reader
import Literate.Shell.Run
import Literate.Shell.Session
import Literate.Shell.Utility
import Literate.Shell.Utility.Basic
import Literate.Shell.Utility.Files
import Literate.Shell.Utility.Lines
import Literate.Shell.Utility.Numbers
import Literate.Shell.Utility.Stream
import Literate.Tangle
import Literate.Text.Alnum
import Literate.Text.Base64
import Literate.Text.Basic
import Literate.Text.Case
import Literate.Text.Cased
import Literate.Text.Digit
import Literate.Text.Lines
import Literate.Text.Printable
import Literate.Text.Punctuation
import Literate.Text.Quoted
import Literate.Text.UpperCase
import Literate.Text.Utf8
import Literate.Proofs.Files.FileTree
import Literate.Proofs.Macro.Source
import Literate.Proofs.Tangle.Groups
import Literate.Proofs.Tangle.Writing
import Literate.Proofs.Tangle.Accounting
import Literate.Proofs.Action
import Literate.Proofs.CommandLine.Recording
import Literate.Proofs.Text.PlainEnds
import Literate.Proofs.Text.Utf8
import Literate.Proofs.Recording.Reread
import Literate.Proofs.Edit
import Literate.Proofs.Recording.Neighbours
import Literate.Proofs.Recording.Sequence
import Literate.Proofs.CommandLine.Interleaving
import Literate.Proofs.Outline.Mirror
import Literate.Proofs.Exclusion.Mirror
import Literate.Proofs.Exclusion.Hidden
import Literate.Proofs.Macro.Failure
import Literate.Proofs.Macro.Memo
import Literate.Proofs.Tangle.SharedMemo
import Literate.Proofs.Run.Reservation
import Literate.Proofs.Run.Calls
import Literate.Proofs.Digest.ParseCache
import Literate.Proofs.Settings.Load
import Literate.Proofs.Language.Registry
import Literate.Proofs.CommandLine.Configuration
import Literate.Proofs.Exclusion.Selection
import Literate.Proofs.Deck.Source
import Literate.Proofs.Deck.Slides
import Literate.Proofs.Exchange.Exclusion
import Literate.Proofs.Tangle.Repetition
import Literate.Proofs.Page.RecordedOutput
import Literate.Proofs.LineEnds
import Literate.Proofs.Deck.RepeatedTitle
import Literate.Proofs.Info.Option
import Literate.Proofs.Info.Writing
import Literate.Proofs.Macro.LoneReference
import Literate.Proofs.Language.Wrapper
import Literate.Proofs.Decimal.Range
import Literate.Proofs.Decimal.Reading
import Literate.Proofs.Settings.Timeout
import Literate.Proofs.Pdf.Print
import Literate.Proofs.Text.Spacing
import Literate.Proofs.Info.Spacing
import Literate.Proofs.Info.Respacing
import Literate.Proofs.Page.Pairing
import Literate.Proofs.Page.Arrangement
import Literate.Proofs.Exclusion.UnitShape
