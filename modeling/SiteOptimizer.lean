import SiteOptimizer.Build.Listing
import SiteOptimizer.Build.ManifestDocument
import SiteOptimizer.Build.Run
import SiteOptimizer.Build.Stylesheet
import SiteOptimizer.Build.Task
import SiteOptimizer.CommandLine.Command
import SiteOptimizer.CommandLine.Flag
import SiteOptimizer.CommandLine.Request
import SiteOptimizer.CommandLine.Selection
import SiteOptimizer.CommandLine.Word
import SiteOptimizer.Decimal.Notation
import SiteOptimizer.Decimal.Shortest
import SiteOptimizer.Fault
import SiteOptimizer.FileSystem
import SiteOptimizer.Glob
import SiteOptimizer.Json.Parser
import SiteOptimizer.Json.Printer
import SiteOptimizer.Json.Value
import SiteOptimizer.Main
import SiteOptimizer.Markup.Attribute
import SiteOptimizer.Markup.Insertion
import SiteOptimizer.Markup.Lexer
import SiteOptimizer.Markup.Token
import SiteOptimizer.Minify.Css
import SiteOptimizer.Minify.Html
import SiteOptimizer.Minify.Html.Event
import SiteOptimizer.Minify.Html.NamedCharacter
import SiteOptimizer.Minify.Html.Reference
import SiteOptimizer.Minify.Html.Tag
import SiteOptimizer.Minify.Html.Written
import SiteOptimizer.Minify.Js
import SiteOptimizer.Minify.Minifier
import SiteOptimizer.Minify.Target
import SiteOptimizer.Module.Closure
import SiteOptimizer.Module.Extraction
import SiteOptimizer.Module.Memory
import SiteOptimizer.Module.Source
import SiteOptimizer.Note
import SiteOptimizer.Page.Dependencies
import SiteOptimizer.Page.Preload
import SiteOptimizer.Page.Scan
import SiteOptimizer.Path
import SiteOptimizer.Proofs.Markup.Gap
import SiteOptimizer.Proofs.Markup.Reading
import SiteOptimizer.Proofs.Markup.Splice
import SiteOptimizer.Proofs.Markup.Stability
import SiteOptimizer.Reference
import SiteOptimizer.Script.Comment
import SiteOptimizer.Script.Import
import SiteOptimizer.Script.StyleProxy
import SiteOptimizer.Session
import SiteOptimizer.Settings
import SiteOptimizer.Text.Basic
import SiteOptimizer.Text.Blank
import SiteOptimizer.Text.Lines
import SiteOptimizer.Text.Lowercase
import SiteOptimizer.Text.Numeral
import SiteOptimizer.Text.Pattern
import SiteOptimizer.Text.Printable
import SiteOptimizer.Text.Quoted
import SiteOptimizer.Text.Ranges
import SiteOptimizer.Text.Utf8
import SiteOptimizer.Text.Word
import SiteOptimizer.Proofs.Markup.Injection
import SiteOptimizer.Proofs.Markup.Written
import SiteOptimizer.Proofs.Markup.Tags
import SiteOptimizer.Proofs.Path
import SiteOptimizer.Proofs.Reference
import SiteOptimizer.Proofs.Module.Closure
import SiteOptimizer.Proofs.Page.Hints
import SiteOptimizer.Proofs.Page.Preload
import SiteOptimizer.Proofs.FileSystem
import SiteOptimizer.Proofs.FileSystem.Spares
import SiteOptimizer.Proofs.Build.Task
import SiteOptimizer.Proofs.Build.Schedule
import SiteOptimizer.Proofs.Module.Source
import SiteOptimizer.Proofs.Page.Scan
import SiteOptimizer.Proofs.Build.Stylesheet
import SiteOptimizer.Proofs.Build.Run
import SiteOptimizer.Proofs.Markup.Quotes
import SiteOptimizer.Proofs.Script.StyleProxy
import SiteOptimizer.Proofs.Build.Report
import SiteOptimizer.Proofs.Build.StyleLinks
import SiteOptimizer.Proofs.Markup.Coverage
import SiteOptimizer.Proofs.Markup.Nodes
import SiteOptimizer.Proofs.Page.References
import SiteOptimizer.Proofs.Markup.Newlines
import SiteOptimizer.Proofs.Markup.Unified
import SiteOptimizer.Proofs.Markup.Blocks
import SiteOptimizer.Proofs.Page.Entries
import SiteOptimizer.Proofs.Build.Lookups
import SiteOptimizer.Proofs.Build.Refusal
import SiteOptimizer.Proofs.Path.Canonical
import SiteOptimizer.Proofs.Page.Manifest
import SiteOptimizer.Proofs.Build.StyleParts
import SiteOptimizer.Proofs.Build.DanglingLinks
import SiteOptimizer.Proofs.Build.Accounting
import SiteOptimizer.Proofs.Module.Sharing
import SiteOptimizer.Proofs.Module.Recollection
import SiteOptimizer.Proofs.Module.LeastClosure
import SiteOptimizer.Proofs.Script.Literal
import SiteOptimizer.Proofs.Script.Statements
import SiteOptimizer.Proofs.Script.Segments
import SiteOptimizer.Proofs.Script.Search
import SiteOptimizer.Proofs.Script.Declaration
import SiteOptimizer.Proofs.Script.DeclarationSearch
import SiteOptimizer.Proofs.Script.Specifiers
import SiteOptimizer.Proofs.Script.ModuleText
import SiteOptimizer.Proofs.Script.LineEnds
import SiteOptimizer.Proofs.Module.Imports
import SiteOptimizer.Proofs.Script.SideEffects
import SiteOptimizer.Proofs.Script.ImportLines
import SiteOptimizer.Proofs.Script.ImportAgreement
import SiteOptimizer.Proofs.Script.DroppedPlaces
import SiteOptimizer.Proofs.Markup.Grammar
import SiteOptimizer.Proofs.Markup.ModeStack
import SiteOptimizer.Proofs.Markup.Fragments
import SiteOptimizer.Proofs.Markup.Cuts
import SiteOptimizer.Proofs.Markup.WholeLines
import SiteOptimizer.Proofs.Markup.ElementTokens
import SiteOptimizer.Proofs.Markup.CommentTokens
import SiteOptimizer.Proofs.Path.ProjectUrl
import SiteOptimizer.Proofs.Page.HintReading
import SiteOptimizer.Proofs.Glob
import SiteOptimizer.Proofs.Build.Listing
import SiteOptimizer.Proofs.Build.AnyDepth
import SiteOptimizer.Proofs.Settings
import SiteOptimizer.Proofs.Script.Cutting
import SiteOptimizer.Proofs.Script.Places

/-!
# Site optimizer

The whole library: reading markup, scripts and options, following module imports, optimizing the
files of a build directory, and the command line over it.
-/
