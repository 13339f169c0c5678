import PublishGate.Command
import PublishGate.Command.Reader
import PublishGate.Decision
import PublishGate.Decision.Report
import PublishGate.DocsSite
import PublishGate.Duration
import PublishGate.Duration.Printer
import PublishGate.Duration.Reader
import PublishGate.FileError
import PublishGate.FileTree
import PublishGate.Gate
import PublishGate.Host
import PublishGate.Http
import PublishGate.Http.Address
import PublishGate.Http.Authority
import PublishGate.Http.Charset
import PublishGate.Http.Exchange
import PublishGate.Instant
import PublishGate.Json.Reader
import PublishGate.Json.Value
import PublishGate.Json.Writer
import PublishGate.Main
import PublishGate.Page
import PublishGate.Path
import PublishGate.Pattern.Charset
import PublishGate.Pattern.Expr
import PublishGate.Pattern.Program
import PublishGate.Pattern.Reader
import PublishGate.Pattern.Search
import PublishGate.Pattern.Unicode.AgeTable
import PublishGate.Pattern.Unicode.BreakTable
import PublishGate.Pattern.Unicode.CategoryTable
import PublishGate.Pattern.Unicode.Folding
import PublishGate.Pattern.Unicode.Packed
import PublishGate.Pattern.Unicode.PropertyTable
import PublishGate.Pattern.Unicode.Query
import PublishGate.Pattern.Unicode.ScriptExtensionTable
import PublishGate.Pattern.Unicode.ScriptTable
import PublishGate.Program
import PublishGate.Revision
import PublishGate.Revision.Describe
import PublishGate.Revision.Git
import PublishGate.Settings
import PublishGate.Settings.Layout
import PublishGate.Site
import PublishGate.Text.Blank
import PublishGate.Text.Decimal
import PublishGate.Text.Hex
import PublishGate.Text.Pieces
import PublishGate.Text.Utf8
import PublishGate.Toml.Literal
import PublishGate.Toml.Quoted.Reader
import PublishGate.Toml.Quoted.Writer
import PublishGate.Toml.Reader
import PublishGate.Toml.Value
import PublishGate.Version.Build
import PublishGate.Version.Compare
import PublishGate.Version.Release
import PublishGate.World
import PublishGate.Proofs.Gate.Succession
import PublishGate.Proofs.FileTree.Append
import PublishGate.Proofs.Page.Lines
import PublishGate.Proofs.World.Output
import PublishGate.Proofs.Decision.OutputLines
import PublishGate.Proofs.Duration.RoundTrip
import PublishGate.Proofs.Toml.Quoted
import PublishGate.Proofs.Settings.RoundTrip
import PublishGate.Proofs.World.Check
import PublishGate.Proofs.Version.Triple
import PublishGate.Proofs.Revision.Describe
import PublishGate.Proofs.World.Answers
import PublishGate.Proofs.World.StableBuild
import PublishGate.Proofs.Gate.Fetched
import PublishGate.Proofs.World.Steps
import PublishGate.Proofs.World.Exit
import PublishGate.Proofs.Pattern.Matching
import PublishGate.Proofs.Pattern.Ways
import PublishGate.Proofs.Pattern.Backtracking
import PublishGate.Proofs.Pattern.FirstMatch
import PublishGate.Proofs.Page.Segments
import PublishGate.Proofs.Path.Ancestors
import PublishGate.Proofs.Settings.Discovery
import PublishGate.Proofs.Text.ByteOrder
import PublishGate.Proofs.Version.Comparison
import PublishGate.Proofs.World.Scan
import PublishGate.Proofs.Pattern.Preference
import PublishGate.Proofs.Pattern.Longest
import PublishGate.Proofs.Page.Footer
import PublishGate.Proofs.Text.Blank
import PublishGate.Proofs.Page.LineEnds
import PublishGate.Proofs.Revision.Grammar
import PublishGate.Proofs.Version.Suffix
import PublishGate.Proofs.Revision.Order
import PublishGate.Proofs.Version.Decoration
import PublishGate.Proofs.Settings.Layers
import PublishGate.Proofs.Path.Above
import PublishGate.Proofs.World.Frame
import PublishGate.Proofs.Text.LineFeeds
import PublishGate.Proofs.World.OutputRun
import PublishGate.Proofs.Decision.StatusLine
import PublishGate.Proofs.Revision.Distinct
import PublishGate.Proofs.Revision.Inquiry
import PublishGate.Proofs.Path.Join
import PublishGate.Proofs.Settings.Anchoring
import PublishGate.Proofs.Json.RoundTrip
import PublishGate.Proofs.Pattern.Language
import PublishGate.Proofs.Version.Recognition
