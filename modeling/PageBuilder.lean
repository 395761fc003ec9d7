import PageBuilder.Bytes
import PageBuilder.Calendar
import PageBuilder.Decimal.Binary
import PageBuilder.Decimal.Shortest
import PageBuilder.Decimal.Reader
import PageBuilder.Dimension
import PageBuilder.Editor.AddGuard
import PageBuilder.Editor.Command
import PageBuilder.Editor.Config
import PageBuilder.Editor.History
import PageBuilder.Editor.Session
import PageBuilder.Editor.State
import PageBuilder.Element
import PageBuilder.Element.Json
import PageBuilder.ElementType
import PageBuilder.Files.Directories
import PageBuilder.Files.Entry
import PageBuilder.Files.Path
import PageBuilder.Files.Tree
import PageBuilder.Forest
import PageBuilder.Html.Behavior.CardsCarousel
import PageBuilder.Html.Behavior.Carousel
import PageBuilder.Html.Behavior.Catalog
import PageBuilder.Html.Behavior.Form
import PageBuilder.Html.Behavior.Router
import PageBuilder.Html.Box
import PageBuilder.Html.Context
import PageBuilder.Html.Document
import PageBuilder.Html.Escape
import PageBuilder.Html.Options
import PageBuilder.Html.Render
import PageBuilder.Html.Script
import PageBuilder.Html.Style
import PageBuilder.Html.Stylesheet
import PageBuilder.Html.Tree
import PageBuilder.Html.Widget
import PageBuilder.IdSource
import PageBuilder.Instant
import PageBuilder.Json.Basic
import PageBuilder.Json.Fields
import PageBuilder.Json.Outline
import PageBuilder.Json.Printer
import PageBuilder.Json.Reader
import PageBuilder.Json.Scalar
import PageBuilder.Machine
import PageBuilder.Main
import PageBuilder.Patch
import PageBuilder.Proofs.Checksum
import PageBuilder.Proofs.Decimal.Numeral
import PageBuilder.Proofs.Decimal.Truncation
import PageBuilder.Proofs.Document.Elements
import PageBuilder.Proofs.Document.Geometry
import PageBuilder.Proofs.Document.Records
import PageBuilder.Proofs.Document.Sections
import PageBuilder.Proofs.Editor.Copies
import PageBuilder.Proofs.Editor.Frame
import PageBuilder.Proofs.Editor.Freshness
import PageBuilder.Proofs.Editor.Guard
import PageBuilder.Proofs.Editor.Identity
import PageBuilder.Proofs.Editor.Linearity
import PageBuilder.Proofs.Editor.Loading
import PageBuilder.Proofs.Editor.OpenSection
import PageBuilder.Proofs.Editor.Payloads
import PageBuilder.Proofs.Editor.Reordering
import PageBuilder.Proofs.Editor.Runs
import PageBuilder.Proofs.Editor.Sections
import PageBuilder.Proofs.Editor.Selection
import PageBuilder.Proofs.Editor.Slugs
import PageBuilder.Proofs.Editor.Steps
import PageBuilder.Proofs.Editor.Timeline
import PageBuilder.Proofs.Editor.Uniqueness
import PageBuilder.Proofs.Files.Tree
import PageBuilder.Proofs.Forest
import PageBuilder.Proofs.Forest.Deletion
import PageBuilder.Proofs.Forest.Edits
import PageBuilder.Proofs.Html.Address
import PageBuilder.Proofs.Html.Binding
import PageBuilder.Proofs.Html.Boxes
import PageBuilder.Proofs.Html.Compact
import PageBuilder.Proofs.Html.Controls
import PageBuilder.Proofs.Html.Document
import PageBuilder.Proofs.Html.Entities
import PageBuilder.Proofs.Html.Escape
import PageBuilder.Proofs.Html.HomeFirst
import PageBuilder.Proofs.Html.Layout
import PageBuilder.Proofs.Html.Links
import PageBuilder.Proofs.Html.Markup
import PageBuilder.Proofs.Html.Nesting
import PageBuilder.Proofs.Html.Placed
import PageBuilder.Proofs.Html.Refusal
import PageBuilder.Proofs.Html.ScriptJson
import PageBuilder.Proofs.Html.ScriptText
import PageBuilder.Proofs.Html.StartTags
import PageBuilder.Proofs.Html.Style
import PageBuilder.Proofs.Html.Templates
import PageBuilder.Proofs.Html.Token
import PageBuilder.Proofs.Html.Widgets
import PageBuilder.Proofs.IdSource
import PageBuilder.Proofs.Json.Alike
import PageBuilder.Proofs.Json.Fuel
import PageBuilder.Proofs.Json.Literal
import PageBuilder.Proofs.Json.OneLine
import PageBuilder.Proofs.Json.Printed
import PageBuilder.Proofs.Json.Scalars
import PageBuilder.Proofs.Json.Text
import PageBuilder.Proofs.Numbering
import PageBuilder.Proofs.Section
import PageBuilder.Proofs.Slug
import PageBuilder.Proofs.SortedMap
import PageBuilder.Proofs.Store.Backups
import PageBuilder.Proofs.Store.DataUris
import PageBuilder.Proofs.Store.Directory
import PageBuilder.Proofs.Store.Eviction
import PageBuilder.Proofs.Store.Fallback
import PageBuilder.Proofs.Store.Imports
import PageBuilder.Proofs.Store.Limits
import PageBuilder.Proofs.Store.Records
import PageBuilder.Proofs.Store.Room
import PageBuilder.Proofs.Store.Strays
import PageBuilder.Proofs.Store.Versions
import PageBuilder.Proofs.Text.Trim
import PageBuilder.Proofs.Workspace.Apply
import PageBuilder.Proofs.Workspace.Compile
import PageBuilder.Proofs.Workspace.Script
import PageBuilder.Proofs.Workspace.Tasks
import PageBuilder.Section
import PageBuilder.SortedMap
import PageBuilder.Store.Backend
import PageBuilder.Store.Config
import PageBuilder.Store.Import
import PageBuilder.Store.Error
import PageBuilder.Store.Export
import PageBuilder.Store.Packed
import PageBuilder.Store.ProjectStore
import PageBuilder.Store.Record
import PageBuilder.Text.Alphanumeric
import PageBuilder.Text.Cut
import PageBuilder.Text.Lowercase
import PageBuilder.Text.Printable
import PageBuilder.Workspace.Apply
import PageBuilder.Workspace.Arguments
import PageBuilder.Workspace.Compile
import PageBuilder.Workspace.Config
import PageBuilder.Workspace.Console
import PageBuilder.Workspace.Init
import PageBuilder.Workspace.Invocation
import PageBuilder.Workspace.ProjectFile
import PageBuilder.Workspace.SavedProjects
import PageBuilder.Workspace.Script
