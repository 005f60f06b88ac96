import ProseCheck.Main
import ProseCheck.Engine.Script
import ProseCheck.Json.Printer
import ProseCheck.Json.Reader
import ProseCheck.Proofs.Text.Columns
import ProseCheck.Proofs.Position.Lines
import ProseCheck.Proofs.Position.Translation
import ProseCheck.Proofs.Annotated.Cover
import ProseCheck.Proofs.Tree.Nesting
import ProseCheck.Proofs.Tree.Placement
import ProseCheck.Proofs.Tree.Location
import ProseCheck.Proofs.Tree.Annotation
import ProseCheck.Proofs.Annotated.Offsets
import ProseCheck.Proofs.Annotated.PlainOffsets
import ProseCheck.Proofs.Annotated.Order
import ProseCheck.Proofs.Annotated.RoundTrip
import ProseCheck.Proofs.Annotated.Accepted
import ProseCheck.Proofs.Annotated.Parts
import ProseCheck.Proofs.Annotated.Carried
import ProseCheck.Proofs.Annotated.Merging
import ProseCheck.Proofs.Annotated.Offers
import ProseCheck.Proofs.Tree.Texts
import ProseCheck.Proofs.Tree.Origin
import ProseCheck.Proofs.Tree.Handed
import ProseCheck.Proofs.Tree.Reading
import ProseCheck.Proofs.Tree.Characters
import ProseCheck.Proofs.Tree.RoundTrip
import ProseCheck.Proofs.Tree.Legible
import ProseCheck.Proofs.Tree.ReadingWalk
import ProseCheck.Proofs.Text.Leftmost
import ProseCheck.Proofs.Tree.Leaf
import ProseCheck.Proofs.Tree.Line
import ProseCheck.Proofs.Tree.LinkTail
import ProseCheck.Proofs.Tree.Links
import ProseCheck.Proofs.Tree.Markers
import ProseCheck.Proofs.Tree.CodeSpans
import ProseCheck.Proofs.Tree.Greedy
import ProseCheck.Proofs.Tree.Limits
import ProseCheck.Proofs.Check.Attempts
import ProseCheck.Proofs.Check.Diagnosis
import ProseCheck.Proofs.Check.Findings
import ProseCheck.Proofs.Check.Failures
import ProseCheck.Proofs.Check.IgnoredWords
import ProseCheck.Proofs.Check.Idle
import ProseCheck.Proofs.Check.Retries
import ProseCheck.Proofs.Diagnostic.Places
import ProseCheck.Proofs.Diagnostic.Strictness
import ProseCheck.Proofs.Edit.Suggestion
import ProseCheck.Proofs.Edit.Selection
import ProseCheck.Proofs.Edit.Reading
import ProseCheck.Proofs.Edit.RoundTrip
import ProseCheck.Proofs.Server.Workspace
import ProseCheck.Proofs.Server.Publication
import ProseCheck.Proofs.Server.Configuration
import ProseCheck.Proofs.Server.Sync
import ProseCheck.Proofs.Server.Drift
import ProseCheck.Proofs.Server.Versions
import ProseCheck.Proofs.Server.ToolUse
import ProseCheck.Proofs.Program.ToolUse
import ProseCheck.Proofs.Position.Layout
import ProseCheck.Proofs.Text.Trim
import ProseCheck.Proofs.Settings
import ProseCheck.Proofs.Issue.Reading
import ProseCheck.Proofs.Engine.Spellings
import ProseCheck.Proofs.Text.WordSet
import ProseCheck.Proofs.Text.CodeUnits
import ProseCheck.Proofs.Engine.Independence
