import Nesting.Access
import Nesting.Analysis
import Nesting.Arithmetic
import Nesting.Binary64
import Nesting.Calendar
import Nesting.Command.Git
import Nesting.Command.Invocation
import Nesting.Command.Options
import Nesting.Command.Run
import Nesting.Comment
import Nesting.Decimal.Layout
import Nesting.Decimal.Reading
import Nesting.Decimal.Rounding
import Nesting.Decimal.Shortest
import Nesting.Diff
import Nesting.Error
import Nesting.Fault
import Nesting.Host
import Nesting.Host.World
import Nesting.Indent
import Nesting.Level
import Nesting.Line
import Nesting.Listing
import Nesting.Log
import Nesting.Main
import Nesting.Moments
import Nesting.Number
import Nesting.PairwiseSum
import Nesting.Path
import Nesting.Pattern.Basic
import Nesting.Pattern.Escape
import Nesting.Pattern.Fault
import Nesting.Pattern.Matching
import Nesting.Pattern.Reader
import Nesting.Pattern.Reading
import Nesting.Pattern.Tree
import Nesting.Proofs.Binary64.Bounds
import Nesting.Proofs.Binary64.Packing
import Nesting.Proofs.Binary64.Rounding
import Nesting.Proofs.Binary64.Values
import Nesting.Proofs.Command.Precedence
import Nesting.Proofs.Command.Sources
import Nesting.Proofs.CommentLines
import Nesting.Proofs.CommentMarkers
import Nesting.Proofs.Counting
import Nesting.Proofs.Decimal.Denoting
import Nesting.Proofs.Decimal.Tenths
import Nesting.Proofs.Deepening
import Nesting.Proofs.DepthSum
import Nesting.Proofs.Detection
import Nesting.Proofs.Diff.Count
import Nesting.Proofs.Diff.Partition
import Nesting.Proofs.Diff.Refinement
import Nesting.Proofs.Dropping
import Nesting.Proofs.EmptyLines
import Nesting.Proofs.ExactMoments
import Nesting.Proofs.FlatTexts
import Nesting.Proofs.Grading
import Nesting.Proofs.Histogram
import Nesting.Proofs.Host.Files
import Nesting.Proofs.Host.Logging
import Nesting.Proofs.IndentStyle
import Nesting.Proofs.InsertedLines
import Nesting.Proofs.LineBodies
import Nesting.Proofs.LineEnding
import Nesting.Proofs.Margin
import Nesting.Proofs.MixedMargins
import Nesting.Proofs.MomentLaws
import Nesting.Proofs.MostUsed
import Nesting.Proofs.Octets
import Nesting.Proofs.Outcomes
import Nesting.Proofs.PairwiseSum
import Nesting.Proofs.Reordering
import Nesting.Proofs.Report.Console
import Nesting.Proofs.Report.Escaping
import Nesting.Proofs.Report.Json
import Nesting.Proofs.Report.Parts
import Nesting.Proofs.Report.Pictures
import Nesting.Proofs.Report.PlainText
import Nesting.Proofs.Report.TableRows
import Nesting.Proofs.Report.Verbatim
import Nesting.Proofs.Score
import Nesting.Proofs.ScoreText
import Nesting.Proofs.Settings.Checks
import Nesting.Proofs.Settings.Document
import Nesting.Proofs.Settings.Entries
import Nesting.Proofs.Settings.Layers
import Nesting.Proofs.Settings.Refusals
import Nesting.Proofs.Settings.Written
import Nesting.Proofs.StepCounts
import Nesting.Proofs.Steps
import Nesting.Proofs.Thresholds
import Nesting.Proofs.Tiers
import Nesting.Report
import Nesting.Report.Console
import Nesting.Report.Json
import Nesting.Report.Markup
import Nesting.Report.Summary
import Nesting.Report.Table
import Nesting.Request
import Nesting.Settings
import Nesting.Settings.Sources
import Nesting.Text.Blank
import Nesting.Text.Case
import Nesting.Text.Letters
import Nesting.Text.Lines
import Nesting.Text.Names
import Nesting.Text.Printable
import Nesting.Text.Quoted
import Nesting.Text.Ranges
import Nesting.Text.Utf8
import Nesting.Text.Width
import Nesting.Text.Wrapping
import Nesting.Toml.Document
import Nesting.Toml.Fault
import Nesting.Toml.Scalar
import Nesting.Value
import Nesting.Version
