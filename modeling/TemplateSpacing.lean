import TemplateSpacing.Embed
import TemplateSpacing.Log.Format
import TemplateSpacing.Main
import TemplateSpacing.Tree.Edit
import TemplateSpacing.Proofs.Tree.Rewriting
import TemplateSpacing.Proofs.Tree.View
import TemplateSpacing.Proofs.Pass.Displays
import TemplateSpacing.Proofs.Pass.Edges
import TemplateSpacing.Proofs.Pass.Sensitivities
import TemplateSpacing.Proofs.Pass.Spaces
import TemplateSpacing.Proofs.Pass.Runs
import TemplateSpacing.Proofs.Pass.EdgeFlags
import TemplateSpacing.Proofs.Pass.NormalForm
import TemplateSpacing.Proofs.Tree.Decoded
import TemplateSpacing.Proofs.Pass.Stream
import TemplateSpacing.Proofs.Pass.Adjacency
import TemplateSpacing.Proofs.Pass.Settled
import TemplateSpacing.Proofs.Pass.SecondRun
import TemplateSpacing.Proofs.Tree.Reread
import TemplateSpacing.Proofs.Pass.Measured
import TemplateSpacing.Proofs.Pass.ThirdRun
import TemplateSpacing.Proofs.Pass.Seams
import TemplateSpacing.Proofs.Pass.EmptyBodies
import TemplateSpacing.Proofs.Pass.Texts
import TemplateSpacing.Proofs.Pass.Documents
import TemplateSpacing.Proofs.Pass.Overrides
import TemplateSpacing.Proofs.Pass.Stages
import TemplateSpacing.Proofs.Pass.Layout
import TemplateSpacing.Proofs.Tree.Canonical
import TemplateSpacing.Proofs.Tree.Reencoded
import TemplateSpacing.Proofs.Pass.Sessions
import TemplateSpacing.Proofs.Text.Lower
import TemplateSpacing.Proofs.Config.Drafts
import TemplateSpacing.Proofs.Config.Layers
import TemplateSpacing.Proofs.Config.Operations
import TemplateSpacing.Proofs.Config.Reload
import TemplateSpacing.Proofs.Tree.Grammar
import TemplateSpacing.Proofs.Tree.Context
import TemplateSpacing.Proofs.Pass.Overwriting
import TemplateSpacing.Proofs.Pass.Locality
import TemplateSpacing.Proofs.Pass.Modes
import TemplateSpacing.Proofs.Logged
import TemplateSpacing.Proofs.Config.Overrides
import TemplateSpacing.Proofs.Config.Thawing
import TemplateSpacing.Proofs.Config.Contents
import TemplateSpacing.Proofs.Config.Discovery
import TemplateSpacing.Proofs.Config.Layering
import TemplateSpacing.Proofs.Config.Containment
import TemplateSpacing.Proofs.Tree.Strangers
import TemplateSpacing.Proofs.Tree.Positions
import TemplateSpacing.Proofs.Tree.Expansion
import TemplateSpacing.Proofs.Pass.Mirrors
import TemplateSpacing.Proofs.Tree.Traversal
import TemplateSpacing.Proofs.Tree.Visits
import TemplateSpacing.Proofs.Pass.Visits
import TemplateSpacing.Proofs.Pass.Opinions
import TemplateSpacing.Proofs.Tree.Finding
import TemplateSpacing.Proofs.Pass.Verdicts
import TemplateSpacing.Proofs.Tree.Drawing
import TemplateSpacing.Proofs.Pass.OverrideComments
import TemplateSpacing.Proofs.Text.Pattern
import TemplateSpacing.Proofs.Config.Sessions
import TemplateSpacing.Proofs.Choices
import TemplateSpacing.Proofs.Command.Levels
import TemplateSpacing.Proofs.Pass.Divisions
