import ComposePods.Pod.Copies
import ComposePods.Pod.Definitions
import ComposePods.Pod.Fragment
import ComposePods.Engine
import ComposePods.Settings
import ComposePods.Yaml.Write
import ComposePods.Yaml.Position
import ComposePods.Yaml.Quoted
import ComposePods.Yaml.PlainText
import ComposePods.Yaml.Block
import ComposePods.Yaml.Tag
import ComposePods.Yaml.Token
import ComposePods.Yaml.Tree
import ComposePods.Yaml.Node
import ComposePods.Yaml.Read
import ComposePods.Project
import ComposePods.Pod.Fragment.Read
import ComposePods.Settings.Read
import ComposePods.Files
import ComposePods.Pod.Session
import ComposePods.Pod.Context
import ComposePods.Text.Case
import ComposePods.Text.Word
import ComposePods.Datum
import ComposePods.Datum.Route
import ComposePods.Datum.Written
import ComposePods.Markup.Error
import ComposePods.Markup.Expression
import ComposePods.Markup.Reader
import ComposePods.Markup.Expression.Read
import ComposePods.Markup.Piece
import ComposePods.Markup.Node
import ComposePods.Markup.Machine
import ComposePods.Binary64.Exact
import ComposePods.Markup.Arithmetic
import ComposePods.Text.Cluster
import ComposePods.Text.Tagged
import ComposePods.Text.Replace
import ComposePods.Markup.Filter.Arguments
import ComposePods.Markup.Filter
import ComposePods.Markup.Filter.Text
import ComposePods.Markup.Filter.List
import ComposePods.Markup.Filter.Number
import ComposePods.Markup.Function
import ComposePods.Pattern
import ComposePods.Pattern.Read
import ComposePods.Markup.Test
import ComposePods.Markup.Scope
import ComposePods.Markup.Evaluate
import ComposePods.Markup.Render
import ComposePods.Pod.Rendering
import ComposePods.Pod.Controller
import ComposePods.Pod.Controller.Tree
import ComposePods.Pod.Transform
import ComposePods.Proofs.Outcome
import ComposePods.Proofs.Entries
import ComposePods.Proofs.Transform
import ComposePods.Proofs.Labels
import ComposePods.Proofs.Definitions
import ComposePods.Proofs.Outputs
import ComposePods.Proofs.Controller
import ComposePods.Proofs.Reading
import ComposePods.Proofs.Run
import ComposePods.Proofs.Forms
import ComposePods.Proofs.Manifests
import ComposePods.Proofs.Provenance
import ComposePods.Proofs.Isolation
import ComposePods.Proofs.Hazards
import ComposePods.Proofs.Breakdowns
import ComposePods.Proofs.Abandoned
import ComposePods.Proofs.Commuting
import ComposePods.Proofs.Split
import ComposePods.Proofs.Declarations
import ComposePods.Proofs.Places
import ComposePods.Proofs.Rewritings
import ComposePods.Proofs.Sessions
import ComposePods.Proofs.Errors
import ComposePods.Proofs.Prefixes
import ComposePods.Proofs.Blanks
import ComposePods.Proofs.Meanings
import ComposePods.Proofs.Agreement
import ComposePods.Proofs.Fragments
import ComposePods.Proofs.Folding
import ComposePods.Proofs.Bodies
import ComposePods.Proofs.Volumes
import ComposePods.Proofs.Images
import ComposePods.Proofs.Idempotence
import ComposePods.Proofs.Paths
import ComposePods.Proofs.NormalForms
import ComposePods.Proofs.Texts
import ComposePods.Proofs.HostPaths
import ComposePods.Proofs.Blame
import ComposePods.Proofs.Distinctness
import ComposePods.Proofs.Absorption
import ComposePods.Proofs.Grouping
import ComposePods.Proofs.Copies
import ComposePods.Proofs.Trees
import ComposePods.Proofs.Overrides
import ComposePods.Proofs.Pairs
import ComposePods.Proofs.Contexts
import ComposePods.Proofs.Writable
import ComposePods.Proofs.QuotedNames
