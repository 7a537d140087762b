import GrammarForm.Catalogue.Basic
import GrammarForm.Catalogue.Field
import GrammarForm.Catalogue.File
import GrammarForm.Catalogue.Reader
import GrammarForm.Catalogue.Shipped
import GrammarForm.Catalogue.Shipped.Function
import GrammarForm.Catalogue.Shipped.General
import GrammarForm.Catalogue.Shipped.Initialization
import GrammarForm.Catalogue.Shipped.Movement
import GrammarForm.Catalogue.Shipped.Random
import GrammarForm.Catalogue.Shipped.Statistics
import GrammarForm.Console.Cells
import GrammarForm.Console.Color
import GrammarForm.Console.Display
import GrammarForm.Console.Emoji
import GrammarForm.Console.Emoji.Flags
import GrammarForm.Console.Emoji.Nature
import GrammarForm.Console.Emoji.People
import GrammarForm.Console.Emoji.Signs
import GrammarForm.Console.Emoji.Things
import GrammarForm.Console.Handler
import GrammarForm.Console.Markup
import GrammarForm.Console.Style
import GrammarForm.Console.Table
import GrammarForm.Data
import GrammarForm.Digest
import GrammarForm.Entries
import GrammarForm.ErrorContext
import GrammarForm.FilePath
import GrammarForm.FileTree
import GrammarForm.Form.Command
import GrammarForm.Form.Document
import GrammarForm.Form.Group
import GrammarForm.Form.Node
import GrammarForm.Form.Renderer
import GrammarForm.FormKey
import GrammarForm.FormState
import GrammarForm.Grammar.Alias
import GrammarForm.Grammar.Basic
import GrammarForm.Grammar.Symbol
import GrammarForm.Html.Basic
import GrammarForm.Html.Form
import GrammarForm.Json.Reader
import GrammarForm.Json.Token
import GrammarForm.Json.Writer
import GrammarForm.Layout
import GrammarForm.Log.Failure
import GrammarForm.Log.Instant
import GrammarForm.Log.Level
import GrammarForm.Log.Record
import GrammarForm.Log.Rotation
import GrammarForm.Log.Session
import GrammarForm.Log.Template
import GrammarForm.Main
import GrammarForm.Moment
import GrammarForm.Notice
import GrammarForm.Number.Binary64
import GrammarForm.Number.Shortest
import GrammarForm.Program.Options
import GrammarForm.Program.Request
import GrammarForm.Program.Run
import GrammarForm.Program.Screen
import GrammarForm.Proofs.Acceptance
import GrammarForm.Proofs.AcceptedIntegers
import GrammarForm.Proofs.AliasChains
import GrammarForm.Proofs.Completeness
import GrammarForm.Proofs.Controls
import GrammarForm.Proofs.CounterSession
import GrammarForm.Proofs.Course
import GrammarForm.Proofs.DefaultNotices
import GrammarForm.Proofs.Dependents
import GrammarForm.Proofs.Derivation
import GrammarForm.Proofs.DistinctKeys
import GrammarForm.Proofs.Document
import GrammarForm.Proofs.Editing
import GrammarForm.Proofs.Encoding
import GrammarForm.Proofs.Entries
import GrammarForm.Proofs.EscapedMarkup
import GrammarForm.Proofs.Extension
import GrammarForm.Proofs.ExtensionLaws
import GrammarForm.Proofs.Files
import GrammarForm.Proofs.FloatNotation
import GrammarForm.Proofs.FormKey
import GrammarForm.Proofs.Identifiers
import GrammarForm.Proofs.JsonLines
import GrammarForm.Proofs.Keywords
import GrammarForm.Proofs.KnownSymbols
import GrammarForm.Proofs.LayoutRules
import GrammarForm.Proofs.ListedDefaults
import GrammarForm.Proofs.LoadFaults
import GrammarForm.Proofs.LogBackups
import GrammarForm.Proofs.LogDelivery
import GrammarForm.Proofs.LogFiles
import GrammarForm.Proofs.Markup
import GrammarForm.Proofs.NestingLimit
import GrammarForm.Proofs.Numeral
import GrammarForm.Proofs.Offers
import GrammarForm.Proofs.Outline
import GrammarForm.Proofs.Overlay
import GrammarForm.Proofs.Presentation
import GrammarForm.Proofs.Reading
import GrammarForm.Proofs.Rendering
import GrammarForm.Proofs.Rerun
import GrammarForm.Proofs.Resubmission
import GrammarForm.Proofs.SavedState
import GrammarForm.Proofs.SelfReference
import GrammarForm.Proofs.ShownValues
import GrammarForm.Proofs.StateFile
import GrammarForm.Proofs.Submission
import GrammarForm.Proofs.Switching
import GrammarForm.Proofs.TextBytes
import GrammarForm.Proofs.Tokens
import GrammarForm.Proofs.TreeValues
import GrammarForm.Proofs.UsableSettings
import GrammarForm.Proofs.Validity
import GrammarForm.Proofs.Words
import GrammarForm.Proofs.Workspaces
import GrammarForm.Server.Address
import GrammarForm.Server.Place
import GrammarForm.Server.Request
import GrammarForm.Server.Response
import GrammarForm.Server.Site
import GrammarForm.Server.Submission
import GrammarForm.Settings
import GrammarForm.Text.Blank
import GrammarForm.Text.Casing
import GrammarForm.Text.Decimal
import GrammarForm.Text.FreeInteger
import GrammarForm.Text.Halves
import GrammarForm.Text.Lines
import GrammarForm.Text.Lowercase
import GrammarForm.Text.Printable
import GrammarForm.Text.Quoted
import GrammarForm.Toml.Reader
import GrammarForm.Toml.Scalar
import GrammarForm.Toml.Table
import GrammarForm.Toml.Text
import GrammarForm.ValueKind
