import DocBridge.Batch
import DocBridge.Cli.Args
import DocBridge.Cli.Files
import DocBridge.Cli.Run
import DocBridge.Compile
import DocBridge.Compile.Error
import DocBridge.Compile.Format
import DocBridge.Compile.Lists
import DocBridge.Compile.State
import DocBridge.Config.Expand
import DocBridge.Config.Settings
import DocBridge.Decimal.Shortest
import DocBridge.Edit.Operation
import DocBridge.Edit.Style
import DocBridge.Edit.Wire
import DocBridge.Json.Locate
import DocBridge.Json.Reader
import DocBridge.Json.Value
import DocBridge.Json.Writer
import DocBridge.Main
import DocBridge.Markdown.Block
import DocBridge.Markdown.Document
import DocBridge.Markdown.Entity
import DocBridge.Markdown.Event
import DocBridge.Markdown.Html
import DocBridge.Markdown.Inline
import DocBridge.Markdown.Line
import DocBridge.Markdown.Scan
import DocBridge.Model.Decode
import DocBridge.Model.Document
import DocBridge.Model.Encode
import DocBridge.Render.Document
import DocBridge.Render.Run
import DocBridge.Span
import DocBridge.Text.Blank
import DocBridge.Text.CaseFold
import DocBridge.Text.Escaped
import DocBridge.Text.Punctuation
import DocBridge.Text.Units
import DocBridge.Token
import DocBridge.Toml.Document
import DocBridge.Toml.Scalar
import DocBridge.Toml.Value
import DocBridge.Proofs.Compile.Step
import DocBridge.Proofs.Compile.Retarget
import DocBridge.Proofs.Compile.Insertions
import DocBridge.Proofs.Compile.BulletMerge
import DocBridge.Proofs.Compile.BulletRanges
import DocBridge.Proofs.Compile.ItemPresets
import DocBridge.Proofs.Compile.BulletCoverage
import DocBridge.Proofs.Compile.Formatting
import DocBridge.Proofs.Compile.StyleUpdates
import DocBridge.Proofs.Compile.TextStyles
import DocBridge.Proofs.Compile.RangeBounds
import DocBridge.Proofs.Compile.LineStarts
import DocBridge.Proofs.Compile.ItemTabs
import DocBridge.Proofs.Compile.Phases
import DocBridge.Proofs.Compile.Relocation
import DocBridge.Proofs.Compile.Offsets
import DocBridge.Proofs.Compile.Content
import DocBridge.Proofs.Compile.Walk
import DocBridge.Proofs.Batch.Plan
import DocBridge.Proofs.Text.Visible
import DocBridge.Proofs.Render.Text
import DocBridge.Proofs.Compile.Blank
import DocBridge.Proofs.Edit.StyleNames
import DocBridge.Proofs.Render.Layout
import DocBridge.Proofs.Compile.Faults
import DocBridge.Proofs.Compile.HeadingFields
import DocBridge.Proofs.Compile.Title
import DocBridge.Proofs.Batch.Summary
import DocBridge.Proofs.Compile.MarkKinds
import DocBridge.Proofs.Compile.BulletChains
import DocBridge.Proofs.Markdown.Tokens
